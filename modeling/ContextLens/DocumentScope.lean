import ContextLens.RunLifecycle

/-!
# The document scope of a full run

`create_run_endpoint` hands the requested `document_id` to the job it pushes and
stores it nowhere else.  A requeue pushes a job of its own, with the scope that
`infer_document_id_for_full_run` reads off the retrieval rows.

The inference comes too late.  A job executes the retrieval only while the run is
`running`, and a running run has no rows (`ScopedState.Sound.running`): so a
requeued job whose retrieval is executed was given no scope, whatever the
request asked for.  A requeued job that does carry a scope was pushed when there
were rows, and will never search again.
`document_scope_kept_iff` draws the line: the scope is kept exactly in the runs
in which a requeued job finds the run `running` only if there is no scope to
keep, or the attempt dies before it looks at the run.
-/

namespace ContextLens

open Foundations

/-! ## Jobs and their scopes -/

/-- A job pushed for the run. -/
structure ScopedJob where
  requeued : Bool
  documentId : Option ℕ
  deriving DecidableEq, Repr

/-- A full run, the jobs ever pushed for it, and the phases executed for it. -/
structure ScopedState where
  run : Run
  jobs : List ScopedJob
  executed : List Execution

/-- The state after `POST /runs` with a scope; `pushed` says whether its job reached
the queue. -/
def postedState (id : ℕ) (mode : FullEvalMode) (requestId : Option String)
    (documentId : Option ℕ) (pushed : Bool) : ScopedState where
  run := createFullRun id mode requestId
  jobs := if pushed then [{ requeued := false, documentId := documentId }] else []
  executed := []

/-- What may happen next: an attempt of one of the jobs, first or retried, a failure
marking, the failure handler of the create endpoint, or a requeue. -/
inductive ScopeOp
  | attempt (job : ℕ) (env : PipelineEnv) (attempt : Attempt)
  | callback (reachesDatabase : Bool)
  | markSafe
  | enqueueFailure (error : String) (requestId : Option String)
  | requeue (found : QueueWorld) (call : RequeueCall)

/-- The jobs that a requeue pushed. -/
def pushedJobs (before after : List RqJob) : List ScopedJob :=
  (after.drop before.length).map fun job =>
    { requeued := true, documentId := job.documentId }

/-- The state after an operation; an attempt of a job that does not exist is none. -/
def ScopeOp.apply (s : ScopedState) : ScopeOp → ScopedState
  | attempt job env a =>
      match s.jobs[job]? with
      | none => s
      | some j =>
          let result := runFullBenchmarkPipeline env a j.documentId s.run
          { s with run := result.run, executed := s.executed ++ result.log }
  | callback reachesDatabase => { s with run := markRunFailedSync reachesDatabase s.run }
  | markSafe => { s with run := markRunFailedSafe s.run }
  | enqueueFailure error requestId =>
      { s with run := s.run.apply (enqueueFailureChanges s.run error requestId) }
  | requeue found call =>
      let after := (requeueFullRun { found with run := some s.run } call).1
      { s with
        run := after.run.getD s.run
        jobs := s.jobs ++ pushedJobs found.jobs after.jobs }

/-- The operations as a system. -/
def scopeSystem : LabelledSystem ScopedState ScopeOp where
  step s op := some (op.apply s)

/-- Every retrieval executed for the run searched in its scope. -/
def ScopeKept (documentId : Option ℕ) (s : ScopedState) : Prop :=
  ∀ x ∈ s.executed, x.phase = .retrieval → x.documentId = documentId

/-! ## What the scopes of the jobs say about the run -/

/-- The facts about jobs and rows that every operation keeps. -/
structure ScopedState.Sound (documentId : Option ℕ) (s : ScopedState) : Prop where
  running : s.run.status = .running → s.run.retrievalResults = []
  posted : ∀ job ∈ s.jobs, job.requeued = false → job.documentId = documentId
  requeued : ∀ job ∈ s.jobs, job.requeued = true → job.documentId ≠ none →
    s.run.retrievalResults ≠ []

/-- A scope is inferred from rows only. -/
theorem retrievalResults_ne_nil_of_infer {chunks : List Chunk} {run : Run}
    (h : inferDocumentIdForFullRun chunks run ≠ none) : run.retrievalResults ≠ [] := by
  intro hnil
  exact h (by simp [inferDocumentIdForFullRun, retrievedDocumentIds, hnil])

/-- What an operation may do to the rows: keep them and stay clear of `running`
when there are some, or add to them. -/
structure RowsGrow (before after : Run) : Prop where
  running : (before.status = .running → before.retrievalResults = []) →
    after.status = .running → after.retrievalResults = []
  rows : before.retrievalResults ≠ [] → after.retrievalResults ≠ []

theorem RowsGrow.refl (run : Run) : RowsGrow run run := ⟨fun h => h, fun h => h⟩

section

variable {env : PipelineEnv} {attempt : Attempt} {documentId : Option ℕ} {run run' : Run}

theorem RowsGrow.commitPhase {phase : Phase}
    (hcommit : commitPhase env attempt documentId phase run = .ok run') :
    RowsGrow run run' := by
  cases phase with
  | retrieval =>
      rw [commitPhase_retrieval] at hcommit
      cases hcommit
      exact ⟨by simp, by simp +contextual⟩
  | generation =>
      obtain ⟨-, -, -, rfl⟩ := commitPhase_generation_eq_ok hcommit
      exact ⟨by simp, fun h => h⟩
  | judge =>
      obtain ⟨_, -, -, -, rfl⟩ := commitPhase_judge_eq_ok hcommit
      exact ⟨by simp, fun h => h⟩

theorem RowsGrow.trans {run'' : Run} (h : RowsGrow run run') (h' : RowsGrow run' run'') :
    RowsGrow run run'' :=
  ⟨fun hrunning => h'.running (h.running hrunning), fun hrows => h'.rows (h.rows hrows)⟩

theorem RowsGrow.markFailed : RowsGrow run (run.apply (markFailedChanges run)) := by
  rcases apply_markFailedChanges run with hsame | ⟨-, hfailed⟩
  · rw [hsame]
    exact RowsGrow.refl run
  · rw [hfailed]
    exact ⟨by simp, fun h => h⟩

theorem RowsGrow.pipeline :
    RowsGrow run (runFullBenchmarkPipeline env attempt documentId run).run :=
  runFullBenchmarkPipeline_invariant (I := fun s => RowsGrow run s.run)
    (fun _ _ hs _ => hs) (fun _ _ _ hs _ hcommit => hs.trans (RowsGrow.commitPhase hcommit))
    (fun _ hs => hs.trans RowsGrow.markFailed) (RowsGrow.refl run)

theorem RowsGrow.normalize : RowsGrow run (normalizeFailedRunForResume run) := by
  unfold normalizeFailedRunForResume
  split_ifs with hfailed hgeneration hrows
  · exact RowsGrow.refl run
  · exact ⟨by simp, fun h => h⟩
  · exact ⟨by simp, fun h => h⟩
  · exact ⟨fun _ _ => List.length_eq_zero_iff.mp (Nat.eq_zero_of_not_pos hrows), fun h => h⟩

theorem RowsGrow.failed (metadata : Option JsonObject) :
    RowsGrow run { run with status := .failed, metadataJson := metadata } :=
  ⟨by simp, fun h => h⟩

/-! ## What an invocation executes -/

/-- A phase is entered in the scope of the job, and the retrieval only while the run is
`running`. -/
theorem entered_documentId {s : Progress} {phase : Phase} {committed : Bool}
    (hs : (∀ x ∈ s.log, x.documentId = documentId ∧
      (x.phase = .retrieval → run.status = .running)) ∧
        (s.run.status = .running → run.status = .running))
    (hdue : s.run.status = phase.prerequisite) :
    ∀ x ∈ s.entered phase documentId committed, x.documentId = documentId ∧
      (x.phase = .retrieval → run.status = .running) := by
  intro x hx
  rcases Progress.mem_entered.mp hx with hx | rfl
  · exact hs.1 x hx
  · refine ⟨rfl, fun hphase => hs.2 ?_⟩
    rw [hdue, show phase = .retrieval from hphase]
    rfl

/-- An invocation searches in the scope of its job, and only on a run that it found
`running`. -/
theorem executed_documentId :
    (∀ x ∈ (runFullBenchmarkPipeline env attempt documentId run).log,
      x.documentId = documentId ∧ (x.phase = .retrieval → run.status = .running)) ∧
      ((runFullBenchmarkPipeline env attempt documentId run).run.status = .running →
        run.status = .running) := by
  refine runFullBenchmarkPipeline_invariant
    (I := fun s => (∀ x ∈ s.log, x.documentId = documentId ∧
      (x.phase = .retrieval → run.status = .running)) ∧
        (s.run.status = .running → run.status = .running)) ?_ ?_ ?_ ?_
  · intro phase s hs hdue
    exact ⟨entered_documentId hs hdue, hs.2⟩
  · intro phase s run' hs hdue hcommit
    refine ⟨entered_documentId hs hdue, fun hrunning => ?_⟩
    have hstatus : run'.status = phase.completion := commitPhase_status hcommit
    rw [hstatus] at hrunning
    cases phase <;> exact RunStatus.noConfusion hrunning
  · intro s hs
    refine ⟨hs.1, fun hrunning => ?_⟩
    rcases apply_markFailedChanges s.run with hsame | ⟨-, hfailed⟩
    · rw [markRunFailedSafe, hsame] at hrunning
      exact hs.2 hrunning
    · rw [markRunFailedSafe, hfailed] at hrunning
      exact RunStatus.noConfusion hrunning
  · exact ⟨by simp, fun h => h⟩

/-- An invocation that gets to look at a `running` run executes its retrieval. -/
theorem exists_retrieval_executed (hstart : attempt.abortAt .atStart = none)
    (hrunning : run.status = .running) :
    ∃ x ∈ (runFullBenchmarkPipeline env attempt documentId run).log,
      x.phase = .retrieval ∧ x.documentId = documentId := by
  have hpipeline : (runFullBenchmarkPipeline env attempt documentId run).log =
      (runPhases env attempt documentId Phase.all { run := run, log := [] }).1.log := by
    rw [← @handleInterruption_log attempt]
    simp [runFullBenchmarkPipeline, hstart, hrunning]
  obtain ⟨committed, hlog⟩ : ∃ committed,
      (runPhase env attempt documentId .retrieval { run := run, log := [] }).1.log =
        Progress.entered { run := run, log := [] } .retrieval documentId committed :=
    runPhase_log_of_due hrunning
  refine ⟨{ phase := .retrieval, documentId := documentId, committed := committed }, ?_, rfl, rfl⟩
  rw [hpipeline, Phase.all, runPhases]
  cases hphase : runPhase env attempt documentId .retrieval { run := run, log := [] } with
  | mk s cut =>
      rw [hphase] at hlog
      have hmem : { phase := .retrieval, documentId := documentId, committed := committed } ∈
          s.log := by
        rw [hlog]
        exact List.mem_append_right _ (List.mem_singleton.mpr rfl)
      cases cut with
      | some i => exact hmem
      | none =>
          exact runPhases_invariant (I := fun t => _ ∈ t.log)
            (fun _ _ hs _ => List.mem_append_left _ hs)
            (fun _ _ _ hs _ _ => List.mem_append_left _ hs) hmem

/-! ## The scope along a run of operations -/

theorem ScopedState.Sound.of_rowsGrow {s : ScopedState} (h : s.Sound documentId)
    (hgrow : RowsGrow s.run run) (log : List Execution) :
    ScopedState.Sound documentId { s with run := run, executed := log } where
  running := hgrow.running h.running
  posted := h.posted
  requeued := fun job hjob hrequeued hscope => hgrow.rows (h.requeued job hjob hrequeued hscope)

theorem ScopedState.Sound.requeue {s : ScopedState} (h : s.Sound documentId)
    (found : QueueWorld) (call : RequeueCall) :
    (ScopeOp.apply s (.requeue found call)).Sound documentId := by
  have hgrow : RowsGrow s.run
      ((requeueFullRun { found with run := some s.run } call).1.run.getD s.run) := by
    rcases requeueFullRun_run { found with run := some s.run } call with hsame | hnormalized
    · rw [hsame]
      exact RowsGrow.refl s.run
    · rw [hnormalized]
      exact RowsGrow.normalize
  have hkept := h.of_rowsGrow hgrow s.executed
  refine ⟨hkept.running, fun job hjob hposted => ?_, fun job hjob hrequeued hscope => ?_⟩
  · rcases List.mem_append.mp hjob with hjob | hjob
    · exact h.posted job hjob hposted
    · obtain ⟨pushed, -, rfl⟩ := List.mem_map.mp hjob
      exact Bool.noConfusion hposted
  · rcases List.mem_append.mp hjob with hjob | hjob
    · exact hkept.requeued job hjob hrequeued hscope
    · rcases requeueFullRun_jobs { found with run := some s.run } call with
        hsame | ⟨run, hrun, hresumed, hpushed⟩
      · simp [pushedJobs, hsame] at hjob
      · cases hrun
        simp only [pushedJobs, hpushed, List.drop_left, List.map_cons, List.map_nil,
          List.mem_singleton] at hjob
        rw [hjob] at hscope
        rw [ScopeOp.apply, hresumed]
        exact retrievalResults_ne_nil_of_infer hscope

theorem ScopedState.Sound.apply {s : ScopedState} (h : s.Sound documentId) (op : ScopeOp) :
    (op.apply s).Sound documentId := by
  cases op with
  | attempt job env a =>
      rw [ScopeOp.apply]
      cases hjob : s.jobs[job]? with
      | none => exact h
      | some j => exact h.of_rowsGrow RowsGrow.pipeline _
  | callback reachesDatabase =>
      cases reachesDatabase with
      | true => exact h.of_rowsGrow RowsGrow.markFailed _
      | false => exact h
  | markSafe => exact h.of_rowsGrow RowsGrow.markFailed _
  | enqueueFailure error requestId =>
      rw [ScopeOp.apply, apply_enqueueFailureChanges]
      exact h.of_rowsGrow (RowsGrow.failed _) _
  | requeue found call => exact h.requeue found call

/-- The guard: an attempt of a requeued job that gets to look at a `running` run has
no scope to lose. -/
def ScopeOp.SparesScope (documentId : Option ℕ) (s : ScopedState) : ScopeOp → Prop
  | .attempt job _ a => ∀ j, s.jobs[job]? = some j → j.requeued = true →
      s.run.status = .running → a.abortAt .atStart = none → documentId = none
  | _ => True

/-- A job that searches does so without a scope, if it was requeued. -/
theorem ScopedState.Sound.documentId_of_running {s : ScopedState} (h : s.Sound documentId)
    {j : ScopedJob} (hj : j ∈ s.jobs) (hrequeued : j.requeued = true)
    (hrunning : s.run.status = .running) : j.documentId = none := by
  -- A scope would have been inferred from rows, and a running run has none.
  by_contra hscope
  exact h.requeued j hj hrequeued hscope (h.running hrunning)

theorem scopeKept_apply {s : ScopedState} (h : s.Sound documentId)
    (hkept : ScopeKept documentId s) {op : ScopeOp} (hguard : op.SparesScope documentId s) :
    ScopeKept documentId (op.apply s) := by
  cases op with
  | attempt job env a =>
      rw [ScopeOp.apply]
      cases hjob : s.jobs[job]? with
      | none => exact hkept
      | some j =>
          intro x hx hphase
          rcases List.mem_append.mp hx with hx | hx
          · exact hkept x hx hphase
          · obtain ⟨hscope, hfound⟩ := executed_documentId.1 x hx
            rw [hscope]
            have hmem : j ∈ s.jobs := List.mem_of_getElem? hjob
            cases hrequeued : j.requeued with
            | false => exact h.posted j hmem hrequeued
            | true =>
                have hrunning := hfound hphase
                rw [h.documentId_of_running hmem hrequeued hrunning]
                refine (hguard j hjob hrequeued hrunning ?_).symm
                -- An attempt that dies at its start executes nothing.
                by_contra hstart
                obtain ⟨i, hi⟩ := Option.ne_none_iff_exists'.mp hstart
                unfold runFullBenchmarkPipeline at hx
                rw [hi] at hx
                cases i <;> simp at hx
  | callback reachesDatabase => exact hkept
  | markSafe => exact hkept
  | enqueueFailure error requestId => exact hkept
  | requeue found call => exact hkept

theorem not_scopeKept_apply {s : ScopedState} (h : s.Sound documentId) {op : ScopeOp}
    (hguard : ¬op.SparesScope documentId s) : ¬ScopeKept documentId (op.apply s) := by
  cases op with
  | attempt job env a =>
      simp only [ScopeOp.SparesScope, not_forall] at hguard
      obtain ⟨j, hjob, hrequeued, hrunning, hstart, hscope⟩ := hguard
      intro hkept
      obtain ⟨x, hx, hphase, hdocument⟩ :
          ∃ x ∈ (runFullBenchmarkPipeline env a j.documentId s.run).log,
            x.phase = .retrieval ∧ x.documentId = j.documentId :=
        exists_retrieval_executed hstart hrunning
      have hnone := h.documentId_of_running (List.mem_of_getElem? hjob) hrequeued hrunning
      refine hscope ?_
      rw [← hkept x ?_ hphase, hdocument, hnone]
      simp only [ScopeOp.apply, hjob]
      exact List.mem_append_right _ hx
  | callback reachesDatabase => exact absurd trivial hguard
  | markSafe => exact absurd trivial hguard
  | enqueueFailure error requestId => exact absurd trivial hguard
  | requeue found call => exact absurd trivial hguard

end

theorem sound_postedState (id : ℕ) (mode : FullEvalMode) (requestId : Option String)
    (documentId : Option ℕ) (pushed : Bool) :
    (postedState id mode requestId documentId pushed).Sound documentId := by
  cases pushed <;>
    exact ⟨fun _ => rfl, by simp [postedState], by simp [postedState]⟩

/-- **When the document scope of a full run is kept.** -/
theorem document_scope_kept_iff (id : ℕ) (mode : FullEvalMode) (requestId : Option String)
    (documentId : Option ℕ) (pushed : Bool) (ops : List ScopeOp) :
    (∀ s, scopeSystem.Visits (postedState id mode requestId documentId pushed) ops s →
        ScopeKept documentId s) ↔
      scopeSystem.Meets (fun s op => op.SparesScope documentId s)
        (postedState id mode requestId documentId pushed) ops := by
  have hsound := sound_postedState id mode requestId documentId pushed
  have hvisits : ∀ s, scopeSystem.Visits (postedState id mode requestId documentId pushed) ops s →
      s.Sound documentId := by
    intro s hs
    refine LabelledSystem.visits_invariant (G := fun _ _ => True) ?_ hsound
      (LabelledSystem.meets_true _ _) hs
    intro s op t h _ hstep
    cases hstep
    exact h.apply op
  -- `ScopeKept` is not inductive by itself: what a requeued job carries is known from
  -- `Sound` only, which no operation breaks.
  rw [← LabelledSystem.visits_iff_meets
    (I := fun s : ScopedState => s.Sound documentId ∧ ScopeKept documentId s)]
  · constructor
    · intro hkept s hs
      exact ⟨hvisits s hs, hkept s hs⟩
    · intro hboth s hs
      exact (hboth s hs).2
  · intro s op
    exact ⟨op.apply s, rfl⟩
  · intro s op t h hguard hstep
    cases hstep
    exact ⟨h.1.apply op, scopeKept_apply h.1 h.2 hguard⟩
  · intro s op t h hguard hstep hafter
    cases hstep
    exact not_scopeKept_apply h.1 hguard hafter.2
  · exact ⟨hsound, by simp [ScopeKept, postedState]⟩

/-- An attempt whose embedding call fails. -/
def diesInRetrieval : Attempt where
  abort := some (.inPhase .retrieval, .raised (.apiError "connection reset"))
  elapsedMs := fun _ => 0
  marks := true

/-- A requeue that everything lets through. -/
def acceptedCall : RequeueCall where
  runId := 1
  scan := .ok
  staleExists := .ok
  staleDelete := .ok
  lockExists := .ok
  enqueue := .ok
  jobId := 8
  now := 1

/-- The posted job dies in its retrieval and the run is marked failed; the run is
requeued, and the new job searches the whole corpus. -/
def scopeLost : List ScopeOp :=
  [.attempt 0 oneChunkEnv diesInRetrieval, .callback true,
    .requeue failedRunWorld acceptedCall, .attempt 1 oneChunkEnv undisturbed]

theorem document_scope_lost_by_requeue :
    ¬∀ (id : ℕ) (mode : FullEvalMode) (requestId : Option String) (documentId : Option ℕ)
      (pushed : Bool) (ops : List ScopeOp) (s : ScopedState),
      scopeSystem.Visits (postedState id mode requestId documentId pushed) ops s →
        ScopeKept documentId s := by
  intro h
  have hkept := h 1 .full none (some 3) true scopeLost _ ⟨scopeLost, List.prefix_refl _, rfl⟩
  have hsearched := hkept { phase := .retrieval, documentId := none, committed := true }
    (by decide) rfl
  exact absurd hsearched (by decide)

end ContextLens
