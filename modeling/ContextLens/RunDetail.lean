import ContextLens.StoreIntegrity

/-!
# The detail of a run

`get_run_detail` of `app/services/run_detail.py` over the tables of the API.  It joins the
retrieval rows with their chunks and gives up on a run whose query case or config is missing;
in a store that can be reached neither loses anything (`run_detail_shows_trace`).  What a
heuristic request answers with is then what its detail shows: the hits of its search, ranked
from one, and the evaluation of their texts (`heuristic_request_detail`).

The request is one step here: no other call commits between its three commits, as a delete of
the searched document could.  Its providers and its scan are its own, not those of the calls
before it.
-/

namespace ContextLens

open Foundations

/-! ## The response -/

/-- `RetrievalHitOut`. -/
structure RetrievalHitOut where
  rank : ℕ
  score : ℚ
  chunkId : ℕ
  documentId : ℕ
  content : String
  chunkIndex : ℕ

/-- `QueryCaseBrief`. -/
structure QueryCaseBrief where
  id : ℕ
  datasetId : ℕ
  queryText : String
  expectedAnswer : Option String

/-- `PipelineConfigBrief`. -/
structure PipelineConfigBrief where
  id : ℕ
  name : String
  embeddingModel : String
  chunkStrategy : String
  chunkSize : ℕ
  chunkOverlap : ℕ
  topK : ℕ

/-- `RunDetailResponse`.  `GenerationOut` and `EvaluationOut` have the columns of their rows;
no evaluator type is `"none"`. -/
structure RunDetailResponse where
  runId : ℕ
  status : RunStatus
  createdAt : ℕ
  metadataJson : Option JsonObject
  traceInstrumentationJson : Option JsonObject
  retrievalLatencyMs : Option ℕ
  generationLatencyMs : Option ℕ
  evaluationLatencyMs : Option ℕ
  totalLatencyMs : Option ℕ
  evaluatorType : Option EvaluatorType
  queryCase : QueryCaseBrief
  pipelineConfig : PipelineConfigBrief
  retrievalHits : List RetrievalHitOut
  generation : Option GenerationResult
  evaluation : Option EvaluationResult

/-- The hit of a retrieval row and its chunk. -/
def retrievalHitOut (row : RetrievalResult × StoredChunk) : RetrievalHitOut where
  rank := row.1.rank
  score := row.1.score
  chunkId := row.2.id
  documentId := row.2.documentId
  content := row.2.content
  chunkIndex := row.2.chunkIndex

/-- The retrieval row behind a hit. -/
def RetrievalHitOut.row (hit : RetrievalHitOut) : RetrievalResult where
  chunkId := hit.chunkId
  rank := hit.rank
  score := hit.score

/-- `QueryCaseBrief.model_validate`. -/
def QueryCaseRow.brief (row : QueryCaseRow) : QueryCaseBrief where
  id := row.id
  datasetId := row.datasetId
  queryText := row.queryText
  expectedAnswer := row.expectedAnswer

/-- `PipelineConfigBrief.model_validate`. -/
def PipelineConfigRow.brief (row : PipelineConfigRow) : PipelineConfigBrief where
  id := row.id
  name := row.name
  embeddingModel := row.embeddingModel
  chunkStrategy := row.chunkStrategy
  chunkSize := row.chunkSize
  chunkOverlap := row.chunkOverlap
  topK := row.topK

namespace ApiStore

variable (s : ApiStore)

/-- `retrieval_results JOIN chunks … ORDER BY rank`. -/
def retrievalJoin (run : Run) : List (RetrievalResult × StoredChunk) :=
  Sql.orderBy (fun a b => decide (a.1.rank ≤ b.1.rank))
    (Sql.join (fun row => s.chunks.filter fun chunk => chunk.id = row.chunkId)
      run.retrievalResults)

/-- `get_run_detail`. -/
def getRunDetail (runId : ℕ) : Except PyException (Option RunDetailResponse) :=
  match s.runs.find? fun r => r.run.id = runId with
  | none => .ok none
  | some r =>
      match s.queryCases.find? fun qc => qc.id = r.queryCaseId,
          s.pipelineConfigs.find? fun row => row.id = r.pipelineConfigId with
      | some qc, some pc => do
          let generation ← scalarOneOrNone r.run.generationResults
          let evaluation ← scalarOneOrNone r.run.evaluationResults
          return some
            { runId := r.run.id
              status := r.run.status
              createdAt := r.createdAt
              metadataJson := r.run.metadataJson
              traceInstrumentationJson := r.run.traceInstrumentationJson
              retrievalLatencyMs := r.run.retrievalLatencyMs
              generationLatencyMs := r.run.generationLatencyMs
              evaluationLatencyMs := r.run.evaluationLatencyMs
              totalLatencyMs := r.run.totalLatencyMs
              evaluatorType := evaluation.map EvaluationResult.evaluatorType
              queryCase := qc.brief
              pipelineConfig := pc.brief
              retrievalHits := (s.retrievalJoin r.run).map retrievalHitOut
              generation := generation
              evaluation := evaluation }
      | _, _ => .ok none

end ApiStore

/-! ## The detail shows the whole trace -/

/-- The detail of a run, with all of its trace. -/
structure RunDetailResponse.Shows (s : ApiStore) (r : TracedRun) (detail : RunDetailResponse) :
    Prop where
  runId : detail.runId = r.run.id
  status : detail.status = r.run.status
  createdAt : detail.createdAt = r.createdAt
  metadataJson : detail.metadataJson = r.run.metadataJson
  traceInstrumentationJson : detail.traceInstrumentationJson = r.run.traceInstrumentationJson
  latencies : (detail.retrievalLatencyMs, detail.generationLatencyMs, detail.evaluationLatencyMs,
      detail.totalLatencyMs) = (r.run.retrievalLatencyMs, r.run.generationLatencyMs,
      r.run.evaluationLatencyMs, r.run.totalLatencyMs)
  queryCase : ∃ qc ∈ s.queryCases, qc.id = r.queryCaseId ∧ detail.queryCase = qc.brief
  pipelineConfig : ∃ pc ∈ s.pipelineConfigs, pc.id = r.pipelineConfigId ∧
    detail.pipelineConfig = pc.brief
  hits_rows : (detail.retrievalHits.map RetrievalHitOut.row).Perm r.run.retrievalResults
  hits_ranked : detail.retrievalHits.Pairwise fun a b => a.rank ≤ b.rank
  hits_chunks : ∀ hit ∈ detail.retrievalHits, ∃ chunk ∈ s.chunks, chunk.id = hit.chunkId ∧
    hit.documentId = chunk.documentId ∧ hit.content = chunk.content ∧
    hit.chunkIndex = chunk.chunkIndex
  generation : detail.generation.toList = r.run.generationResults
  evaluation : detail.evaluation.toList = r.run.evaluationResults
  evaluatorType : detail.evaluatorType = detail.evaluation.map EvaluationResult.evaluatorType

section

variable {s : ApiStore}

theorem retrievalJoin_perm (run : Run) :
    (s.retrievalJoin run).Perm
      (Sql.join (fun row => s.chunks.filter fun chunk => chunk.id = row.chunkId)
        run.retrievalResults) := List.perm_insertionSort _ _

theorem mem_retrievalJoin {run : Run} {row : RetrievalResult × StoredChunk}
    (h : row ∈ s.retrievalJoin run) : row.2 ∈ s.chunks ∧ row.2.id = row.1.chunkId := by
  obtain ⟨-, hrow⟩ := Sql.mem_join.mp ((retrievalJoin_perm run).mem_iff.mp h)
  obtain ⟨hchunk, hid⟩ := List.mem_filter.mp hrow
  exact ⟨hchunk, of_decide_eq_true hid⟩

/-- The join loses no row, since each refers to a chunk. -/
theorem map_fst_retrievalJoin (h : s.Sound) {run : Run}
    (hrefers : s.RetrievalRefers run.retrievalResults) :
    (s.retrievalJoin run).map Prod.fst =
      run.retrievalResults.insertionSort fun a b => a.rank ≤ b.rank := by
  have hsort := List.map_insertionSort
    (fun a b : RetrievalResult × StoredChunk => decide (a.1.rank ≤ b.1.rank) = true)
    (fun a b : RetrievalResult => a.rank ≤ b.rank) Prod.fst
    (Sql.join (fun row => s.chunks.filter fun chunk => chunk.id = row.chunkId)
      run.retrievalResults) fun a _ b _ => decide_eq_true_iff
  rw [hrefers.map_fst_join h.keys.chunks] at hsort
  exact hsort

theorem hits_rows (run : Run) :
    ((s.retrievalJoin run).map retrievalHitOut).map RetrievalHitOut.row =
      (s.retrievalJoin run).map Prod.fst := by
  rw [List.map_map]
  refine List.map_congr_left fun row hrow => ?_
  simp only [Function.comp_apply, RetrievalHitOut.row, retrievalHitOut,
    (mem_retrievalJoin hrow).2]

theorem retrievalJoin_ranked (run : Run) :
    (s.retrievalJoin run).Pairwise fun a b => a.1.rank ≤ b.1.rank := by
  have : Std.Total fun a b : RetrievalResult × StoredChunk =>
      decide (a.1.rank ≤ b.1.rank) = true := ⟨fun a b => by simpa using le_total a.1.rank b.1.rank⟩
  have : IsTrans (RetrievalResult × StoredChunk) fun a b =>
      decide (a.1.rank ≤ b.1.rank) = true :=
    ⟨fun a b c hab hbc => by
      rw [decide_eq_true_iff] at hab hbc ⊢
      exact hab.trans hbc⟩
  exact (List.pairwise_insertionSort _ _).imp fun h => of_decide_eq_true h

/-- **The detail of a stored run.** -/
theorem getRunDetail_shows (h : s.Sound) {r : TracedRun} (hr : r ∈ s.runs) :
    ∃ detail, s.getRunDetail r.run.id = .ok (some detail) ∧ detail.Shows s r ∧
      detail.retrievalHits = (s.retrievalJoin r.run).map retrievalHitOut := by
  obtain ⟨qc, hqc, hqcId⟩ := List.mem_map.mp (h.references.run_queryCase r hr)
  obtain ⟨pc, hpc, hpcId⟩ := List.mem_map.mp (h.references.run_pipelineConfig r hr)
  have hrun := h.keys.runs.find?_eq hr
  have hqcFound := h.keys.queryCases.find?_eq hqc
  have hpcFound := h.keys.pipelineConfigs.find?_eq hpc
  rw [hqcId] at hqcFound
  rw [hpcId] at hpcFound
  have hgeneration := scalarOneOrNone_of_length_le (h.oneRowEach r hr).generation
  have hevaluation := scalarOneOrNone_of_length_le (h.oneRowEach r hr).evaluation
  unfold ApiStore.getRunDetail
  rw [hrun]
  simp only [hqcFound, hpcFound, hgeneration, hevaluation, bind, Except.bind, pure, Except.pure]
  refine ⟨_, rfl, ?_, rfl⟩
  exact
    { runId := rfl
      status := rfl
      createdAt := rfl
      metadataJson := rfl
      traceInstrumentationJson := rfl
      latencies := rfl
      queryCase := ⟨qc, hqc, hqcId, rfl⟩
      pipelineConfig := ⟨pc, hpc, hpcId, rfl⟩
      hits_rows := by
        rw [hits_rows, map_fst_retrievalJoin h (h.references.retrieval_chunk r hr)]
        exact List.perm_insertionSort _ _
      hits_ranked := List.pairwise_map.mpr (retrievalJoin_ranked r.run)
      hits_chunks := fun hit hhit => by
        obtain ⟨row, hrow, rfl⟩ := List.mem_map.mp hhit
        exact ⟨row.2, (mem_retrievalJoin hrow).1, rfl, rfl, rfl, rfl⟩
      generation := (scalarOneOrNone_eq_ok hgeneration).symm
      evaluation := (scalarOneOrNone_eq_ok hevaluation).symm
      evaluatorType := rfl }

/-! ## What a heuristic request answers with -/

/-- The chunk of a joined row is the one that its id finds. -/
theorem eq_of_mem_retrievalJoin (h : s.Sound) {run : Run} {row : RetrievalResult × StoredChunk}
    (hrow : row ∈ s.retrievalJoin run) {chunk : StoredChunk} (hchunk : chunk ∈ s.chunks)
    (hid : chunk.id = row.1.chunkId) : row.2 = chunk :=
  h.keys.chunks.eq_of_key_eq (mem_retrievalJoin hrow).1 hchunk
    ((mem_retrievalJoin hrow).2.trans hid.symm)

/-- The rows that an evaluation reads are those of the detail. -/
theorem rankedRows_eq (h : s.Sound) {env : PipelineEnv}
    (hchunks : env.chunks = s.chunks.map StoredChunk.toChunk) {run : Run}
    (hrefers : s.RetrievalRefers run.retrievalResults) :
    env.rankedRows run = ((s.retrievalJoin run).map retrievalHitOut).map
      fun hit => (hit.row, hit.content) := by
  have hsorted := map_fst_retrievalJoin h hrefers
  rw [PipelineEnv.rankedRows, ← hsorted, List.filterMap_map, List.map_map, ← List.filterMap_eq_map]
  refine List.filterMap_congr fun row hrow => ?_
  obtain ⟨hchunk, hid⟩ := mem_retrievalJoin hrow
  have hfound : (env.chunks.find? fun chunk => chunk.id = row.1.chunkId) = some row.2.toChunk := by
    rw [hchunks, List.find?_map, ← hid]
    exact congrArg (Option.map StoredChunk.toChunk) (h.keys.chunks.find?_eq hchunk)
  simp only [Function.comp_apply, hfound, Option.map_some, retrievalHitOut, RetrievalHitOut.row,
    hid]

/-- The entry of the search behind a hit. -/
def RetrievalHitOut.hit (hit : RetrievalHitOut) : PipelineEnv.Hit where
  chunkId := hit.chunkId
  documentId := hit.documentId
  content := hit.content
  score := hit.score

/-- **A stored search is shown as it was**: its entries in their order, ranked from one. -/
theorem hits_of_searchChunks (h : s.Sound) {env : PipelineEnv}
    (hchunks : env.chunks = s.chunks.map StoredChunk.toChunk) {documentId : Option ℕ} {run : Run}
    (hrows : run.retrievalResults = PipelineEnv.retrievalRows (env.searchChunks documentId)) :
    ((s.retrievalJoin run).map retrievalHitOut).map RetrievalHitOut.hit =
        env.searchChunks documentId ∧
      ((s.retrievalJoin run).map retrievalHitOut).map RetrievalHitOut.rank =
        List.range' 1 (env.searchChunks documentId).length := by
  have hrefers : s.RetrievalRefers run.retrievalResults :=
    hrows ▸ ApiStore.Sound.retrievalRefers_searchChunks s env hchunks documentId
  have hordered : (PipelineEnv.retrievalRows (env.searchChunks documentId)).Pairwise
      fun a b => a.rank ≤ b.rank := by
    have hranks := List.pairwise_lt_range' (s := 1) (n := (env.searchChunks documentId).length) 1
    rw [← PipelineEnv.retrievalRows_rank, List.pairwise_map] at hranks
    exact hranks.imp fun hlt => le_of_lt hlt
  have hfst : (s.retrievalJoin run).map Prod.fst =
      PipelineEnv.retrievalRows (env.searchChunks documentId) := by
    rw [map_fst_retrievalJoin h hrefers, hrows, hordered.insertionSort_eq]
  have hlength : (s.retrievalJoin run).length = (env.searchChunks documentId).length := by
    rw [← List.length_map Prod.fst, hfst, PipelineEnv.retrievalRows_length]
  constructor
  · refine List.ext_getElem (by simpa using hlength) fun i hi hi' => ?_
    have hjoin : i < (s.retrievalJoin run).length := hlength ▸ hi'
    have hrow : (s.retrievalJoin run)[i].1 =
        { chunkId := (env.searchChunks documentId)[i].chunkId
          rank := i + 1
          score := (env.searchChunks documentId)[i].score } := by
      have hget := List.getElem_map Prod.fst (l := s.retrievalJoin run) (i := i)
        (h := by simpa using hjoin)
      rw [← hget]
      simp only [hfst, PipelineEnv.retrievalRows, List.getElem_mapIdx]
    -- The entry was made of a stored chunk, which is the one that its id finds.
    obtain ⟨found, hfound, hentry⟩ := List.mem_map.mp (List.getElem_mem (l := (env.foundChunks
      documentId).map PipelineEnv.hitOf) hi')
    have hscoped := PipelineEnv.mem_scopedChunks.mp
      ((env.foundChunks_subperm documentId).subset hfound)
    rw [hchunks] at hscoped
    obtain ⟨chunk, hchunk, hsame⟩ := List.mem_map.mp hscoped.1
    have hentry' : PipelineEnv.hitOf found = (env.searchChunks documentId)[i] := hentry
    have hown : (s.retrievalJoin run)[i].2 = chunk := by
      refine eq_of_mem_retrievalJoin h (List.getElem_mem hjoin) hchunk ?_
      rw [hrow, ← hentry', PipelineEnv.hitOf, ← hsame]
    simp only [List.getElem_map, RetrievalHitOut.hit, retrievalHitOut, hown, hrow, ← hentry',
      PipelineEnv.hitOf, ← hsame]
  · have hranks : ((s.retrievalJoin run).map retrievalHitOut).map RetrievalHitOut.rank =
        ((s.retrievalJoin run).map Prod.fst).map RetrievalResult.rank := by
      rw [List.map_map, List.map_map]
      rfl
    rw [hranks, hfst, PipelineEnv.retrievalRows_rank]

/-- A heuristic request that answers with its run: what it has read, and what it stores. -/
theorem createHeuristicRun_ok {deps : PipelineEnv} {attempt : HeuristicAttempt}
    {request : RunCreateRequest} {createdAt : ℕ} {run : Run}
    (hok : (s.createHeuristicRun deps attempt request createdAt).2 = .ok run) :
    ∃ found, validateRunCreatePrerequisites s.registry (s.environment deps).settings request
        .heuristic = .ok found ∧
      run = (retrievedRun ((s.environment deps).forRun found) attempt request.documentId
        s.nextId).withHeuristicEvaluation ((s.environment deps).forRun found)
          attempt.evaluationMs ∧
      ((s.environment deps).forRun found).HasHits request.documentId ∧
      (s.createHeuristicRun deps attempt request createdAt).1 =
        s.insertRun run request createdAt := by
  simp only [ApiStore.createHeuristicRun, createAndExecuteRunFromIds] at hok ⊢
  cases hvalid : validateRunCreatePrerequisites s.registry (s.environment deps).settings request
      .heuristic with
  | error e => simp [hvalid] at hok
  | ok found =>
      simp only [hvalid] at hok ⊢
      cases habort : attempt.abortAt .inCreation with
      | error e => simp [habort] at hok
      | ok u =>
          simp only [habort] at hok ⊢
          rcases executeHeuristicRun_cases ((s.environment deps).forRun found) attempt
              request.documentId s.nextId with ⟨-, e, he⟩ | ⟨-, e, he⟩ | ⟨hrun, hreturned⟩
          · rw [he] at hok
            cases hok
          · rw [he] at hok
            cases hok
          · cases hresponse : (executeHeuristicRun ((s.environment deps).forRun found) attempt
                request.documentId (createRun s.nextId .running none)).2 with
            | error e =>
                rw [hresponse] at hok
                cases hok
            | ok returned =>
                rw [hresponse] at hok
                obtain rfl : returned = run := Except.ok.inj hok
                have hsame := hreturned returned hresponse
                have hcompleted := (executeHeuristicRun_settled_iff attempt s.nextId none).mp
                  (Or.inl (congrArg Run.status hrun))
                exact ⟨found, rfl, hsame.trans hrun, hcompleted.2, by rw [← hsame]⟩

end

/-- **The detail of a run in a reachable store**: there is one exactly for the stored runs, and
it shows every row of the trace, in the order of the ranks, with its chunk. -/
theorem run_detail_shows_trace {deps : PipelineEnv} {limits : UploadLimits}
    {events : List ApiEvent} {s : ApiStore}
    (hrun : (apiSystem deps limits).exec .empty events = some s) (runId : ℕ) :
    (∃ r ∈ s.runs, r.run.id = runId ∧
        ∃ detail, s.getRunDetail runId = .ok (some detail) ∧ detail.Shows s r) ∨
      (∀ r ∈ s.runs, r.run.id ≠ runId) ∧ s.getRunDetail runId = .ok none := by
  have hsound := ApiStore.sound_empty.exec hrun
  by_cases hstored : ∃ r ∈ s.runs, r.run.id = runId
  · obtain ⟨r, hr, rfl⟩ := hstored
    obtain ⟨detail, hdetail, hshows, -⟩ := getRunDetail_shows hsound hr
    exact Or.inl ⟨r, hr, rfl, detail, hdetail, hshows⟩
  · push Not at hstored
    have hnone : (s.runs.find? fun r => r.run.id = runId) = none :=
      List.find?_eq_none.mpr fun r hr => by simpa using hstored r hr
    exact Or.inr ⟨hstored, by rw [ApiStore.getRunDetail, hnone]⟩

/-- The detail of the run of the note. -/
theorem note_detail_shows_trace :
    ∃ s, (apiSystem oneChunkEnv defaultLimits).exec .empty evaluatedNote = some s ∧
      ((∃ r ∈ s.runs, r.run.id = 6 ∧
          ∃ detail, s.getRunDetail 6 = .ok (some detail) ∧ detail.Shows s r) ∨
        (∀ r ∈ s.runs, r.run.id ≠ 6) ∧ s.getRunDetail 6 = .ok none) := by
  obtain ⟨s, hs, -⟩ := Option.map_eq_some_iff.mp evaluatedNote_rows
  exact ⟨s, hs, run_detail_shows_trace hs 6⟩

/-- The detail of a heuristic run shows its search, ranked from one, and the evaluation of
exactly the texts it shows. -/
structure RunDetailResponse.ShowsSearch (detail : RunDetailResponse) (env : PipelineEnv)
    (documentId : Option ℕ) : Prop where
  status : detail.status = .completed
  hits : detail.retrievalHits.map RetrievalHitOut.hit = env.searchChunks documentId
  ranks : detail.retrievalHits.map RetrievalHitOut.rank =
    List.range' 1 detail.retrievalHits.length
  generation : detail.generation = none
  evaluation : detail.evaluation = some (computeMinimalRetrievalEvaluation env.queryText
    env.expectedAnswer (detail.retrievalHits.map fun hit =>
      (hit.row, hit.content))).evaluationResult.forStorage

/-- What a search that has hits has found: chunks of its scope, each once and no more than
`top_k` of them, the nearest first, and none nearer left out when its scan misses nothing. -/
structure PipelineEnv.Finds (env : PipelineEnv) (documentId : Option ℕ)
    (found : List (Chunk × ℚ)) : Prop where
  nonempty : found ≠ []
  length_le : found.length ≤ env.topK
  inScope : found.Subperm (env.scopedChunks documentId)
  ordered : found.Pairwise Nearer
  nearest : env.scan.Exact → Sql.IsTop Nearer env.topK (env.scopedChunks documentId) found

/-- **A heuristic request is answered by what its detail then shows**: the hits of the search
for its query case in its scope, and their evaluation. -/
theorem heuristic_request_detail {deps providers : PipelineEnv} {limits : UploadLimits}
    {events : List ApiEvent} {s : ApiStore}
    (hrun : (apiSystem deps limits).exec .empty events = some s) {attempt : HeuristicAttempt}
    {request : RunCreateRequest} {createdAt : ℕ} {run : Run}
    (hok : (s.createHeuristicRun providers attempt request createdAt).2 = .ok run) :
    ∃ qc ∈ s.queryCases, ∃ pc ∈ s.pipelineConfigs, ∃ detail,
      let env := (s.environment providers).forRun
        ({ queryText := qc.queryText, expectedAnswer := qc.expectedAnswer }, pc.topK)
      qc.id = request.queryCaseId ∧ pc.id = request.pipelineConfigId ∧
      (s.createHeuristicRun providers attempt request createdAt).1.getRunDetail run.id =
        .ok (some detail) ∧
      detail.queryCase = qc.brief ∧ detail.pipelineConfig = pc.brief ∧
      detail.ShowsSearch env request.documentId ∧
      env.Finds request.documentId (env.foundChunks request.documentId) := by
  have hsound := ApiStore.sound_empty.exec hrun
  obtain ⟨found, hvalid, hstored, hfinds, hafter⟩ := createHeuristicRun_ok hok
  obtain ⟨qc, hqc, pc, hpc, hqcId, hpcId, rfl⟩ := ApiStore.Sound.registry_found hvalid
  have hsound' := hsound.createHeuristicRun providers attempt request createdAt
  rw [hafter] at hsound' ⊢
  generalize henv : (s.environment providers).forRun
    ({ queryText := qc.queryText, expectedAnswer := qc.expectedAnswer }, pc.topK) = env
      at hstored hfinds
  have hchunks : env.chunks =
      (s.insertRun run request createdAt).chunks.map StoredChunk.toChunk := by
    rw [← henv]
    rfl
  obtain ⟨r, hr, hrun', hids⟩ : ∃ r ∈ (s.insertRun run request createdAt).runs, r.run = run ∧
      r.queryCaseId = request.queryCaseId ∧ r.pipelineConfigId = request.pipelineConfigId :=
    ⟨_, List.mem_append_right _ (List.mem_singleton.mpr rfl), rfl, rfl, rfl⟩
  obtain ⟨detail, hdetail, hshows, hhits⟩ := getRunDetail_shows hsound' hr
  rw [hrun'] at hdetail hhits
  have hrows : run.retrievalResults =
      PipelineEnv.retrievalRows (env.searchChunks request.documentId) := by
    rw [hstored]
    rfl
  obtain ⟨hsearch, hranks⟩ := hits_of_searchChunks hsound' hchunks hrows
  rw [← hhits] at hsearch hranks
  obtain ⟨qc', hqc', hqcId', hqcBrief⟩ := hshows.queryCase
  obtain ⟨pc', hpc', hpcId', hpcBrief⟩ := hshows.pipelineConfig
  obtain rfl : qc' = qc :=
    hsound.keys.queryCases.eq_of_key_eq hqc' hqc ((hqcId'.trans hids.1).trans hqcId.symm)
  obtain rfl : pc' = pc :=
    hsound.keys.pipelineConfigs.eq_of_key_eq hpc' hpc ((hpcId'.trans hids.2).trans hpcId.symm)
  refine ⟨qc', hqc, pc', hpc, detail, hqcId, hpcId, hdetail, hqcBrief, hpcBrief, ?_⟩
  rw [henv]
  constructor
  · refine ⟨?_, hsearch, ?_, ?_, ?_⟩
    · rw [hshows.status, hrun', hstored]
      rfl
    · rw [hranks, ← hsearch, List.length_map]
    · have hgeneration := hshows.generation
      rw [hrun', hstored] at hgeneration
      exact Option.toList_eq_nil_iff.mp hgeneration
    · have hevaluation := hshows.evaluation
      have hranked := rankedRows_eq hsound' hchunks (hsound'.references.retrieval_chunk r hr)
      rw [hrun', ← hhits] at hranked
      rw [hrun', hstored] at hevaluation
      rw [hstored] at hranked
      rw [← hranked, ← Option.toList_eq_singleton_iff, hevaluation]
      rfl
  · exact
      { nonempty := hfinds
        length_le := env.scan.length_le _ _ _
        inScope := env.foundChunks_subperm request.documentId
        ordered := env.foundChunks_ordered request.documentId
        nearest := fun hexact => env.foundChunks_isTop hexact request.documentId }

/-- The request that evaluates the note. -/
def noteRequest : RunCreateRequest where
  queryCaseId := 2
  pipelineConfigId := 3
  documentId := none

theorem noteRequest_answered :
    ((apiSystem oneChunkEnv defaultLimits).exec .empty evaluatedNote.dropLast).map
      (fun s => (s.createHeuristicRun oneChunkEnv quietAttempt noteRequest 0).2.toOption.isSome) =
        some true := by decide

/-- Its detail. -/
theorem note_request_detail :
    ∃ s run detail, (apiSystem oneChunkEnv defaultLimits).exec .empty evaluatedNote.dropLast =
        some s ∧
      (s.createHeuristicRun oneChunkEnv quietAttempt noteRequest 0).2 = .ok run ∧
      (s.createHeuristicRun oneChunkEnv quietAttempt noteRequest 0).1.getRunDetail run.id =
        .ok (some detail) ∧ detail.status = .completed ∧ detail.retrievalHits ≠ [] := by
  obtain ⟨s, hs, hanswered⟩ := Option.map_eq_some_iff.mp noteRequest_answered
  cases hok : (s.createHeuristicRun oneChunkEnv quietAttempt noteRequest 0).2 with
  | error e =>
      rw [hok] at hanswered
      cases hanswered
  | ok run =>
      obtain ⟨qc, -, pc, -, detail, -, -, hdetail, -, -, hshows, hfinds⟩ :=
        heuristic_request_detail hs hok
      refine ⟨s, run, detail, hs, hok, hdetail, hshows.status, fun hnone => hfinds.nonempty ?_⟩
      have hhits := hshows.hits
      rw [hnone, PipelineEnv.searchChunks] at hhits
      exact List.map_eq_nil_iff.mp hhits.symm

end ContextLens
