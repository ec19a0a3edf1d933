import ContextLens.Foundations.LabelledSystem
import ContextLens.Foundations.Json
import ContextLens.Foundations.PythonBuiltins
import ContextLens.FailureTaxonomy
import ContextLens.RunTrace
import ContextLens.HeuristicEvaluation
import ContextLens.LlmProvider
import ContextLens.PipelinePhases
import ContextLens.FullPipeline
import ContextLens.EvaluatorBucket
import ContextLens.FullRunQueue
import ContextLens.RunLifecycle
import ContextLens.Foundations.CheckpointedPipeline
import ContextLens.PipelineStages
import ContextLens.Resumption
import ContextLens.JobRetries
import ContextLens.DocumentScope
import ContextLens.RunSessions
import ContextLens.Foundations.KeyLock
import ContextLens.WorkerLock
import ContextLens.DeadRuns
import ContextLens.Database
import ContextLens.RunReports
import ContextLens.Foundations.FloatingPoint
import ContextLens.Foundations.Binary64
import ContextLens.ConfigComparison
import ContextLens.Foundations.Text
import ContextLens.Chunker
import ContextLens.RecursiveChunking
import ContextLens.FixedWindows
import ContextLens.ChunkOffsets
import ContextLens.ChunkSizes
import ContextLens.Foundations.TextLayout
import ContextLens.ChunkOrder
import ContextLens.HeuristicRuns
import ContextLens.BenchmarkRealism
import ContextLens.BatchRunner
import ContextLens.BatchSettlement
import ContextLens.BatchIsolation
import ContextLens.HeuristicRequeue
import ContextLens.ExperimentPlan
import ContextLens.CandidateScoring
import ContextLens.PlanBalance
import ContextLens.ConfigReliability
import ContextLens.DocumentIngest
import ContextLens.ApiStore
import ContextLens.TraceRetention
import ContextLens.Foundations.JavascriptBuiltins
import ContextLens.Foundations.OffsetPagination
import ContextLens.RunsListClient
import ContextLens.Foundations.Nesting
import ContextLens.Foundations.PythonJson
import ContextLens.JudgeExtraction
import ContextLens.JudgePayload
import ContextLens.JudgeEvaluation
import ContextLens.Foundations.PythonDecimal
import ContextLens.JudgeRetry
import ContextLens.JudgedCost
import ContextLens.ScoreRanking
import ContextLens.ReportedCosts
import ContextLens.RetrievalCoverage
import ContextLens.MetricsReport
import ContextLens.ChunkIndices
import ContextLens.UploadCleanup
import ContextLens.DashboardEvidence
import ContextLens.MatchedBatches
import ContextLens.RunDiagnosis
import ContextLens.RunDiff
import ContextLens.DiffSummary
import ContextLens.OverlapWarning
import ContextLens.Foundations.DelimitedText
import ContextLens.ExportDownload
import ContextLens.ConfigInsights
import ContextLens.OrderedPieces
import ContextLens.Foundations.TopRows
import ContextLens.Foundations.KeyedTable
import ContextLens.HeuristicTrace
import ContextLens.StoreIntegrity
import ContextLens.RunDetail
import ContextLens.Foundations.SqlAggregates
import ContextLens.Foundations.OrderedDict
import ContextLens.DashboardAnalytics
import ContextLens.DashboardPanels
import ContextLens.QueueBrowser
import ContextLens.OperatorReadout
import ContextLens.StoreDashboards
import ContextLens.WriteProtection
import ContextLens.SchemaMigrations
import ContextLens.DocumentReads
import ContextLens.ReportAgreement
import ContextLens.DetailView
