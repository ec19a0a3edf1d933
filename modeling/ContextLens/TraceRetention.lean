import ContextLens.ApiStore

/-!
# Whether stored traces are lost

The rows of a run only ever become more, but for one call.  A requeue moves the status, a
session commits what it adds, and the deletes of the registry are refused while a cascade
would reach a run.  `delete_document` is the only delete without such a check, and its
cascade goes over the chunks to the retrieval rows of every run.

`completed_traces_kept_iff` is the exact condition, over every order of calls, sessions
and changes of the queue.
-/

namespace ContextLens

open Foundations

/-! ## Traces -/

/-- Every row of the trace is still there. -/
structure Run.RowsKept (before after : Run) : Prop where
  retrieval : before.retrievalResults.Sublist after.retrievalResults
  generation : before.generationResults.Sublist after.generationResults
  evaluation : before.evaluationResults.Sublist after.evaluationResults

/-- The store still has the run, with every row of its trace. -/
def ApiStore.Holds (s : ApiStore) (run : Run) : Prop :=
  ∃ r ∈ s.runs, r.run.id = run.id ∧ run.RowsKept r.run

/-- The traces of the runs that were completed have lost nothing. -/
def TracesKept (before after : ApiStore) : Prop :=
  ∀ r ∈ before.runs, r.run.status = .completed → after.Holds r.run

/-- The guard: no document is deleted that has a chunk which a run completed in `kept` had
retrieved. -/
def SparesTraces (kept s : ApiStore) (event : ApiEvent) : Prop :=
  ∀ document ∈ s.documents, event = .call (.deleteDocument document.id) →
    ∀ r ∈ kept.runs, r.run.status = .completed → ∀ row ∈ r.run.retrievalResults,
      ∀ chunk ∈ s.chunks, chunk.id = row.chunkId → chunk.documentId ≠ document.id

/-- Every run is found again with at least the rows it had. -/
def RunsGrow (before after : List TracedRun) : Prop :=
  ∀ r ∈ before, ∃ r' ∈ after, r'.run.id = r.run.id ∧ r.run.RowsKept r'.run

namespace Run.RowsKept

variable {run run' run'' : Run}

theorem refl (run : Run) : run.RowsKept run :=
  ⟨List.Sublist.refl _, List.Sublist.refl _, List.Sublist.refl _⟩

theorem trans (h : run.RowsKept run') (h' : run'.RowsKept run'') : run.RowsKept run'' :=
  ⟨h.retrieval.trans h'.retrieval, h.generation.trans h'.generation,
    h.evaluation.trans h'.evaluation⟩

/-- A commit adds rows behind those that are there. -/
theorem apply (run : Run) (changes : PendingChanges) : run.RowsKept (run.apply changes) :=
  ⟨List.sublist_append_left _ _, List.sublist_append_left _ _, List.sublist_append_left _ _⟩

end Run.RowsKept

namespace RunsGrow

variable {runs : List TracedRun}

theorem refl (runs : List TracedRun) : RunsGrow runs runs :=
  fun r hr => ⟨r, hr, rfl, Run.RowsKept.refl r.run⟩

theorem append (runs new : List TracedRun) : RunsGrow runs (runs ++ new) :=
  fun r hr => ⟨r, List.mem_append_left new hr, rfl, Run.RowsKept.refl r.run⟩

/-- The row that an update finds by its id keeps its rows, and the others are left alone. -/
theorem replaceF {runId : ℕ} {f : TracedRun → TracedRun} {found : TracedRun}
    (hfound : runs.find? (fun r => r.run.id = runId) = some found)
    (hid : (f found).run.id = found.run.id) (hkept : found.run.RowsKept (f found).run) :
    RunsGrow runs (runs.replaceF fun r => if r.run.id = runId then some (f r) else none) := by
  induction runs with
  | nil => exact fun r hr => absurd hr List.not_mem_nil
  | cons first rest ih =>
      rw [List.replaceF]
      by_cases hfirst : first.run.id = runId
      · rw [List.find?_cons_of_pos (by simpa using hfirst), Option.some.injEq] at hfound
        rw [if_pos hfirst]
        intro r hr
        rcases List.mem_cons.mp hr with rfl | hrest
        · exact ⟨f r, List.mem_cons_self, hfound ▸ hid, hfound ▸ hkept⟩
        · exact ⟨r, List.mem_cons_of_mem _ hrest, rfl, Run.RowsKept.refl r.run⟩
      · rw [List.find?_cons_of_neg (by simpa using hfirst)] at hfound
        rw [if_neg hfirst]
        intro r hr
        rcases List.mem_cons.mp hr with rfl | hrest
        · exact ⟨r, List.mem_cons_self, rfl, Run.RowsKept.refl r.run⟩
        · obtain ⟨r', hr', hsame⟩ := ih hfound r hrest
          exact ⟨r', List.mem_cons_of_mem _ hr', hsame⟩

end RunsGrow

section

variable {s t : ApiStore} {run : Run}

theorem ApiStore.Holds.grow (h : s.Holds run) (hgrow : RunsGrow s.runs t.runs) : t.Holds run := by
  obtain ⟨r, hr, hid, hkept⟩ := h
  obtain ⟨r', hr', hid', hkept'⟩ := hgrow r hr
  exact ⟨r', hr', hid'.trans hid, hkept.trans hkept'⟩

/-! ## The deletes that are checked -/

/-- A cascade from query cases without runs. -/
theorem deleteQueryCases_runs {p : QueryCaseRow → Bool}
    (h : ∀ r ∈ s.runs, ∀ qc ∈ s.queryCases, p qc = true → qc.id ≠ r.queryCaseId) :
    (s.deleteQueryCases p).runs = s.runs := by
  refine List.filter_eq_self.mpr fun r hr => ?_
  rw [Bool.not_eq_true', List.any_eq_false]
  intro qc hqc hreached
  rw [Bool.and_eq_true, decide_eq_true_iff] at hreached
  exact h r hr qc hqc hreached.1 hreached.2

/-- A cascade from datasets without query cases. -/
theorem deleteDatasets_runs {p : DatasetRow → Bool}
    (h : ∀ qc ∈ s.queryCases, ∀ dataset ∈ s.datasets, p dataset = true →
      dataset.id ≠ qc.datasetId) : (s.deleteDatasets p).runs = s.runs := by
  refine deleteQueryCases_runs fun r _ qc hqc hreached => ?_
  obtain ⟨dataset, hdataset, hboth⟩ := List.any_eq_true.mp hreached
  rw [Bool.and_eq_true, decide_eq_true_iff] at hboth
  exact absurd hboth.2 (h qc hqc dataset hdataset hboth.1)

theorem deleteQueryCase_runs (queryCaseId : ℕ) :
    (s.deleteQueryCase queryCaseId).1.runs = s.runs := by
  rw [ApiStore.deleteQueryCase]
  split
  · rfl
  · split_ifs with hruns
    · rfl
    · refine deleteQueryCases_runs fun r hr qc _ hqc hsame => hruns ?_
      refine List.any_eq_true.mpr ⟨r, hr, ?_⟩
      rw [decide_eq_true_iff] at hqc ⊢
      exact hsame.symm.trans hqc

theorem deleteDataset_runs (datasetId : ℕ) : (s.deleteDataset datasetId).1.runs = s.runs := by
  rw [ApiStore.deleteDataset]
  split
  · rfl
  · split_ifs with hcases
    · rfl
    · refine deleteDatasets_runs fun qc hqc dataset _ hdataset hsame => hcases ?_
      refine List.any_eq_true.mpr ⟨qc, hqc, ?_⟩
      rw [decide_eq_true_iff] at hdataset ⊢
      exact hsame.symm.trans hdataset

/-! ## The delete that is not -/

/-- A chunk of the document. -/
def ApiStore.HasChunk (s : ApiStore) (documentId id : ℕ) : Prop :=
  ∃ chunk ∈ s.chunks, chunk.documentId = documentId ∧ chunk.id = id

/-- **What the deletion of a document does to the runs**: each loses its retrieval rows on
the chunks of the document. -/
theorem deleteDocument_runs {document : StoredDocument} (hdocument : document ∈ s.documents) :
    ∃ gone : ℕ → Bool, (∀ id, gone id = true ↔ s.HasChunk document.id id) ∧
      (s.deleteDocument document.id).1.runs = s.runs.map (TracedRun.withoutChunks gone) := by
  have hsome : (s.documents.find? fun other => other.id = document.id).isSome :=
    List.find?_isSome.mpr ⟨document, hdocument, by simp⟩
  obtain ⟨found, hfound⟩ := Option.isSome_iff_exists.mp hsome
  rw [ApiStore.deleteDocument, hfound]
  refine ⟨_, fun id => ?_, rfl⟩
  rw [List.any_eq_true]
  refine exists_congr fun chunk => and_congr_right fun _ => ?_
  rw [Bool.and_eq_true, decide_eq_true_iff, List.any_eq_true]
  refine and_congr_left fun _ => ?_
  constructor
  · rintro ⟨other, -, hboth⟩
    rw [Bool.and_eq_true, decide_eq_true_iff, decide_eq_true_iff] at hboth
    exact hboth.2.symm.trans hboth.1
  · intro hchunk
    exact ⟨document, hdocument, by simp [hchunk]⟩

/-- A trace outside the document survives its deletion. -/
theorem holds_deleteDocument {document : StoredDocument} (hdocument : document ∈ s.documents)
    (h : s.Holds run)
    (hspared : ∀ row ∈ run.retrievalResults, ¬s.HasChunk document.id row.chunkId) :
    (s.deleteDocument document.id).1.Holds run := by
  obtain ⟨gone, hgone, hruns⟩ := deleteDocument_runs hdocument
  obtain ⟨r, hr, hid, hkept⟩ := h
  refine ⟨r.withoutChunks gone, hruns ▸ List.mem_map_of_mem hr, hid, ?_, hkept.generation,
    hkept.evaluation⟩
  have hself : run.retrievalResults.filter (fun row => !gone row.chunkId) =
      run.retrievalResults := by
    refine List.filter_eq_self.mpr fun row hrow => ?_
    rw [Bool.not_eq_true', ← Bool.not_eq_true]
    exact fun hrowGone => hspared row hrow ((hgone row.chunkId).mp hrowGone)
  rw [← hself]
  exact hkept.retrieval.filter _

/-- A trace with a row in the document does not. -/
theorem not_holds_deleteDocument {document : StoredDocument}
    (hdocument : document ∈ s.documents) {row : RetrievalResult}
    (hrow : row ∈ run.retrievalResults) (hchunk : s.HasChunk document.id row.chunkId) :
    ¬(s.deleteDocument document.id).1.Holds run := by
  obtain ⟨gone, hgone, hruns⟩ := deleteDocument_runs hdocument
  rintro ⟨r', hr', -, hkept⟩
  rw [hruns] at hr'
  obtain ⟨r, -, rfl⟩ := List.mem_map.mp hr'
  have hleft := (List.mem_filter.mp (hkept.retrieval.subset hrow)).2
  rw [(hgone row.chunkId).mpr hchunk] at hleft
  cases hleft

/-! ## What the other events do -/

/-- A step of a session keeps the rows of its run. -/
theorem rowsKept_of_session {before after : SessionState} {action : SessionAction}
    (h : before.step action = some after) :
    after.run.id = before.run.id ∧ before.run.RowsKept after.run := by
  have hsame : after.run = before.run →
      after.run.id = before.run.id ∧ before.run.RowsKept after.run := by
    intro hrun
    rw [hrun]
    exact ⟨rfl, Run.RowsKept.refl before.run⟩
  cases action with
  | start kind =>
      rw [SessionState.step] at h
      split_ifs at h
      · exact hsame (by rw [← Option.some.inj h])
      · exact hsame (by rw [← Option.some.inj h])
  | work i =>
      simp only [SessionState.step] at h
      split at h
      · split at h
        · exact hsame (by rw [← Option.some.inj h])
        · exact hsame (by rw [← Option.some.inj h, SessionState.close])
      · cases h
  | commit i =>
      simp only [SessionState.step] at h
      split at h
      · split at h
        · rename_i run hcommit
          rw [← Option.some.inj h, Run.commit_eq_ok hcommit]
          exact ⟨rfl, Run.RowsKept.apply before.run _⟩
        · exact hsame (by rw [← Option.some.inj h, SessionState.close])
      · cases h
  | rollback i =>
      rw [SessionState.step] at h
      split_ifs at h
      exact hsame (by rw [← Option.some.inj h, SessionState.close])

theorem runsGrow_afterSession {runId : ℕ} {action : SessionAction}
    (h : s.afterSession runId action = some t) : RunsGrow s.runs t.runs := by
  rw [ApiStore.afterSession] at h
  cases hfound : s.runs.find? fun r => r.run.id = runId with
  | none =>
      rw [hfound] at h
      cases h
  | some found =>
      simp only [hfound] at h
      split at h
      · cases h
      · obtain ⟨after, hstep, rfl⟩ := Option.map_eq_some_iff.mp h
        obtain ⟨hid, hkept⟩ := rowsKept_of_session hstep
        exact RunsGrow.replaceF hfound hid hkept

theorem runsGrow_requeue (deps : PipelineEnv) (call : RequeueCall) :
    RunsGrow s.runs (s.requeue deps call).1.runs := by
  have hmoved := requeueFullRun_run (s.queueWorld deps call.runId) call
  rw [ApiStore.requeue]
  cases hfound : s.runs.find? fun r => r.run.id = call.runId with
  | none =>
      have hnone : (requeueFullRun (s.queueWorld deps call.runId) call).1.run = none := by
        rcases hmoved with h | h <;> rw [h] <;> simp [ApiStore.queueWorld, hfound]
      simp only [hnone]
      exact RunsGrow.refl s.runs
  | some found =>
      obtain ⟨run, hrun, hid, hkept⟩ : ∃ run,
          (requeueFullRun (s.queueWorld deps call.runId) call).1.run = some run ∧
            run.id = found.run.id ∧ found.run.RowsKept run := by
        rcases hmoved with h | h
        · exact ⟨found.run, by rw [h]; simp [ApiStore.queueWorld, hfound], rfl,
            Run.RowsKept.refl found.run⟩
        · refine ⟨normalizeFailedRunForResume found.run, by
            rw [h]; simp [ApiStore.queueWorld, hfound], ?_, ?_⟩
          · rw [normalizeFailedRunForResume_eq]
          · rw [normalizeFailedRunForResume_eq]
            exact ⟨List.Sublist.refl _, List.Sublist.refl _, List.Sublist.refl _⟩
      simp only [hrun]
      exact RunsGrow.replaceF hfound hid hkept

/-- A call that deletes no document keeps the rows of every run. -/
theorem runsGrow_afterCall {deps : PipelineEnv} {limits : UploadLimits} {call : ApiCall}
    (hcall : ∀ documentId, call ≠ .deleteDocument documentId) :
    RunsGrow s.runs (s.afterCall deps limits call).runs := by
  have hsame : ∀ {after : ApiStore}, after.runs = s.runs → RunsGrow s.runs after.runs := by
    intro after hruns
    rw [hruns]
    exact RunsGrow.refl s.runs
  cases call with
  | uploadDocument attempt request filePath => exact RunsGrow.refl s.runs
  | deleteDocument documentId => exact absurd rfl (hcall documentId)
  | createDataset name description metadataJson => exact RunsGrow.refl s.runs
  | updateDataset datasetId patch =>
      refine hsame ?_
      rw [ApiStore.afterCall, ApiStore.updateDataset]
      split <;> rfl
  | deleteDataset datasetId => exact hsame (deleteDataset_runs datasetId)
  | createQueryCase body =>
      refine hsame ?_
      rw [ApiStore.afterCall, ApiStore.createQueryCase]
      split <;> rfl
  | updateQueryCase queryCaseId patch =>
      refine hsame ?_
      rw [ApiStore.afterCall, ApiStore.updateQueryCase]
      split
      · rfl
      · split_ifs <;> rfl
  | deleteQueryCase queryCaseId => exact hsame (deleteQueryCase_runs queryCaseId)
  | createPipelineConfig row =>
      refine hsame ?_
      rw [ApiStore.afterCall, ApiStore.createPipelineConfig]
      split <;> rfl
  | updatePipelineConfig pipelineConfigId patch =>
      refine hsame ?_
      rw [ApiStore.afterCall, ApiStore.updatePipelineConfig]
      split
      · rfl
      · split <;> rfl
  | deletePipelineConfig pipelineConfigId =>
      refine hsame ?_
      rw [ApiStore.afterCall, ApiStore.deletePipelineConfig]
      split
      · rfl
      · split_ifs <;> rfl
  | createHeuristicRun attempt request createdAt =>
      simp only [ApiStore.afterCall, ApiStore.createHeuristicRun]
      split
      · exact RunsGrow.refl s.runs
      · exact RunsGrow.append s.runs _
  | createFullRun mode requestId push error jobId request createdAt =>
      rw [ApiStore.afterCall, ApiStore.createFullRun]
      split
      · exact RunsGrow.refl s.runs
      · cases push <;> exact RunsGrow.append s.runs _
  | requeue call => exact runsGrow_requeue deps call
  | createDiagnosisSession runId mode startedAt sessionKey synthetic now =>
      refine hsame ?_
      rw [ApiStore.afterCall, ApiStore.createDiagnosisSession]
      split <;> rfl
  | patchDiagnosisSession runId sessionId patch =>
      refine hsame ?_
      rw [ApiStore.afterCall, ApiStore.patchDiagnosisSession]
      split <;> rfl

/-- A document that is not there is not deleted. -/
theorem deleteDocument_of_not_found {documentId : ℕ}
    (h : ∀ document ∈ s.documents, document.id ≠ documentId) :
    (s.deleteDocument documentId).1 = s := by
  have hnone : (s.documents.find? fun document => document.id = documentId) = none :=
    List.find?_eq_none.mpr fun document hdocument => by simpa using h document hdocument
  rw [ApiStore.deleteDocument, hnone]

/-! ## Runs of the system -/

variable {deps : PipelineEnv} {limits : UploadLimits}

/-- **One event**, as seen from a trace that the store holds: it is kept unless the event
deletes a document which a row of it is in. -/
theorem holds_step_iff {event : ApiEvent} (hstep : (apiSystem deps limits).step s event = some t)
    (h : s.Holds run) :
    t.Holds run ↔ ∀ document ∈ s.documents, event = .call (.deleteDocument document.id) →
      ∀ row ∈ run.retrievalResults, ¬s.HasChunk document.id row.chunkId := by
  by_cases hdelete : ∃ document ∈ s.documents, event = .call (.deleteDocument document.id)
  · obtain ⟨document, hdocument, rfl⟩ := hdelete
    obtain rfl : (s.deleteDocument document.id).1 = t := Option.some.inj hstep
    constructor
    · intro hkept other _ hsame row hrow hchunk
      have hid : document.id = other.id := by simpa using hsame
      rw [← hid] at hchunk
      exact not_holds_deleteDocument hdocument hrow hchunk hkept
    · intro hspared
      exact holds_deleteDocument hdocument h (hspared document hdocument rfl)
  · push Not at hdelete
    have hgrow : RunsGrow s.runs t.runs := by
      cases event with
      | call call =>
          obtain rfl : s.afterCall deps limits call = t := Option.some.inj hstep
          by_cases hcall : ∃ documentId, call = .deleteDocument documentId
          · obtain ⟨documentId, rfl⟩ := hcall
            have hnone : (s.deleteDocument documentId).1 = s :=
              deleteDocument_of_not_found fun document hdocument hid =>
                hdelete document hdocument (by rw [hid])
            rw [ApiStore.afterCall, hnone]
            exact RunsGrow.refl s.runs
          · push Not at hcall
            exact runsGrow_afterCall hcall
      | session runId action => exact runsGrow_afterSession hstep
      | queue change =>
          obtain rfl : s.afterQueueChange change = t := Option.some.inj hstep
          cases change <;> exact RunsGrow.refl s.runs
    exact iff_of_true (h.grow hgrow) fun document hdocument hevent =>
      absurd hevent (hdelete document hdocument)

/-- The guard, trace by trace. -/
theorem sparesTraces_iff {kept : ApiStore} {event : ApiEvent} :
    SparesTraces kept s event ↔ ∀ r ∈ kept.runs, r.run.status = .completed →
      ∀ document ∈ s.documents, event = .call (.deleteDocument document.id) →
        ∀ row ∈ r.run.retrievalResults, ¬s.HasChunk document.id row.chunkId := by
  constructor
  · rintro h r hr hcompleted document hdocument hevent row hrow ⟨chunk, hchunk, hin, hid⟩
    exact h document hdocument hevent r hr hcompleted row hrow chunk hchunk hid hin
  · intro h document hdocument hevent r hr hcompleted row hrow chunk hchunk hid hin
    exact h r hr hcompleted document hdocument hevent row hrow ⟨chunk, hchunk, hin, hid⟩

theorem tracesKept_refl (s : ApiStore) : TracesKept s s :=
  fun r hr _ => ⟨r, hr, rfl, Run.RowsKept.refl r.run⟩

/-- Along events that spare the traces of a store nothing of them is lost. -/
theorem tracesKept_of_meets {events : List ApiEvent}
    (hmeets : (apiSystem deps limits).Meets (SparesTraces s) s events)
    (hrun : (apiSystem deps limits).exec s events = some t) : TracesKept s t := by
  refine LabelledSystem.exec_invariant (I := TracesKept s) ?_ (tracesKept_refl s) hmeets hrun
  intro before event after hkept hspares hstep r hr hcompleted
  exact (holds_step_iff hstep (hkept r hr hcompleted)).mpr
    (sparesTraces_iff.mp hspares r hr hcompleted)

/-- **When stored traces are lost.**  In every order of events, from every store: the
traces of completed runs lose no row exactly if no document is deleted that holds a chunk
of a row which some run had when it was completed. -/
theorem completed_traces_kept_iff (deps : PipelineEnv) (limits : UploadLimits) (start : ApiStore)
    (events : List ApiEvent) :
    (∀ first second s t, first ++ second <+: events →
        (apiSystem deps limits).exec start first = some s →
          (apiSystem deps limits).exec s second = some t → TracesKept s t) ↔
      ∀ first rest s, first ++ rest = events →
        (apiSystem deps limits).exec start first = some s →
          (apiSystem deps limits).Meets (SparesTraces s) s rest := by
  constructor
  · intro hkept first rest s hsplit hfirst
    refine LabelledSystem.meets_of_guard fun before event after t hrest hbefore => ?_
    refine sparesTraces_iff.mpr fun r hr hcompleted document hdocument hevent => ?_
    -- The trace is there before the deletion and, by assumption, behind it.
    have hpre : first ++ before <+: events := by
      rw [← hsplit, ← hrest, ← List.append_assoc]
      exact List.prefix_append _ _
    have hthere : t.Holds r.run := hkept first before s t hpre hfirst hbefore r hr hcompleted
    have hstep : (apiSystem deps limits).step t event =
        some (t.deleteDocument document.id).1 := by
      rw [hevent]
      rfl
    have hbehind : (t.deleteDocument document.id).1.Holds r.run := by
      refine hkept first (before ++ [event]) s _ ?_ hfirst ?_ r hr hcompleted
      · rw [← hsplit, ← hrest]
        exact ⟨after, by simp⟩
      · rw [LabelledSystem.exec_append, hbefore, Option.bind_some, LabelledSystem.exec_cons, hstep]
        rfl
    exact (holds_step_iff hstep hthere).mp hbehind document hdocument hevent
  · rintro hspares first second s t ⟨tail, hsplit⟩ hfirst hsecond
    have hmeets := hspares first (second ++ tail) s
      (by rw [← List.append_assoc, hsplit]) hfirst
    exact tracesKept_of_meets (hmeets.of_prefix (List.prefix_append second tail)) hsecond

end

/-! ## A document behind an evaluated run -/

/-- No rows at all. -/
def ApiStore.empty : ApiStore where
  documents := []
  chunks := []
  datasets := []
  queryCases := []
  pipelineConfigs := []
  runs := []
  diagnosisSessions := []
  jobs := []
  locks := []
  nextId := 1

/-- The limits of the settings. -/
def defaultLimits : UploadLimits where
  maxUploadSizeBytes := 50 * 1024 * 1024
  maxTextLength := 5000000
  maxChunksPerDocument := 10000

/-- A short text file, and an embedder that answers. -/
def noteUpload : UploadRequest where
  file :=
    { filename := some "note.txt", size := 7, text := .ok ['p', 'a', 's', 's'], pages := .ok [] }
  chunkStrategy := .fixed
  chunkSize := 512
  chunkOverlap := 0
  chunkSize_pos := by decide
  chunkSize_le := by decide

def quietUpload : UploadAttempt where
  raises _ := none
  embedTexts texts := .ok (texts.map fun _ => [])

/-- A dataset, a query case, a config, a document, and a heuristic run of them. -/
def evaluatedNote : List ApiEvent :=
  [.call (.createDataset "benchmark" none none),
    .call (.createQueryCase
      { datasetId := 1, queryText := "question", expectedAnswer := none, metadataJson := none }),
    .call (.createPipelineConfig
      { id := 0
        name := "config"
        embeddingModel := "all-MiniLM-L6-v2"
        chunkStrategy := "fixed"
        chunkSize := 512
        chunkOverlap := 0
        topK := 5
        metadataJson := none }),
    .call (.uploadDocument quietUpload noteUpload "uploads/note.txt"),
    .call (.createHeuristicRun quietAttempt
      { queryCaseId := 2, pipelineConfigId := 3, documentId := none } 0)]

/-- What the store then has: a completed run with one retrieved chunk, and its document. -/
theorem evaluatedNote_rows :
    ((apiSystem oneChunkEnv defaultLimits).exec .empty evaluatedNote).map (fun s =>
      (s.runs.map fun r => (r.run.status, r.run.retrievalResults.map RetrievalResult.chunkId),
        s.documents.map StoredDocument.id,
        s.chunks.map fun chunk => (chunk.id, chunk.documentId))) =
      some ([(.completed, [5])], [4], [(5, 4)]) := by decide

/-- Deleting the document takes the retrieval row of the completed run with it. -/
theorem document_delete_loses_trace :
    ¬∀ first second s t, first ++ second <+: evaluatedNote ++ [.call (.deleteDocument 4)] →
      (apiSystem oneChunkEnv defaultLimits).exec .empty first = some s →
        (apiSystem oneChunkEnv defaultLimits).exec s second = some t → TracesKept s t := by
  intro h
  obtain ⟨s, hs, hrows⟩ := Option.map_eq_some_iff.mp evaluatedNote_rows
  rw [Prod.mk.injEq, Prod.mk.injEq] at hrows
  obtain ⟨hruns, hdocuments, hchunks⟩ := hrows
  obtain ⟨r, hr, hrun⟩ := List.mem_map.mp (hruns ▸ List.mem_singleton.mpr rfl)
  obtain ⟨document, hdocument, hid⟩ := List.mem_map.mp (hdocuments ▸ List.mem_singleton.mpr rfl)
  obtain ⟨chunk, hchunk, hin⟩ := List.mem_map.mp (hchunks ▸ List.mem_singleton.mpr rfl)
  rw [Prod.mk.injEq] at hrun hin
  obtain ⟨row, hrow, hrowChunk⟩ := List.mem_map.mp (hrun.2 ▸ List.mem_singleton.mpr rfl)
  have hkept : (s.deleteDocument 4).1.Holds r.run :=
    h evaluatedNote [.call (.deleteDocument 4)] s _ (List.prefix_refl _) hs rfl r hr hrun.1
  rw [← hid] at hkept
  refine not_holds_deleteDocument hdocument hrow ⟨chunk, hchunk, ?_, ?_⟩ hkept
  · exact hin.2.trans hid.symm
  · exact hin.1.trans hrowChunk.symm

end ContextLens
