import ContextLens.WorkerLock

/-!
# Requeueing a dead run

What a requeue that is executed without interruption does in the world of
`ContextLens.WorkerLock` is `requeueFullRun` (`requeue_alone`); so the question
whether a run whose workers are dead can be requeued is one about `requeueFullRun` in
the reachable worlds.

There a full run is well formed, whatever its sessions, workers and requests did, and
only the lock can stand in the way: a key that a stopped worker left is cleared for a
`running` or `failed` run, but not between two phase commits.

The inspection of the queue announces the requeues that are accepted and no others
(`queueStatus_eligible_iff`).
-/

namespace ContextLens

open Foundations

/-! ## A request that is executed alone -/

section

variable {s : LockWorld}

/-- The world after `n` more steps of a request, or after its end. -/
def LockWorld.finish : ℕ → LockWorld → Request → LockWorld
  | 0, s, _ => s
  | n + 1, s, request =>
      match (s.plan request).2 with
      | some point => (s.perform (s.plan request).1).finish n { request with point := point }
      | none => s.perform (s.plan request).1

theorem LockWorld.run_resume : (s.resume s.run).run = normalizeFailedRunForResume s.run := by
  unfold LockWorld.resume
  split_ifs with hfailed
  · have hsame : { s.run with status := .failed } = s.run := by
      rw [← hfailed]
    rw [hsame]
    rfl
  · exact (normalizeFailedRunForResume_of_ne hfailed).symm

theorem LockWorld.queueWorld_resume :
    (s.resume s.run).queueWorld =
      { s.queueWorld with run := some (normalizeFailedRunForResume s.run) } := by
  have hrun := s.run_resume
  have hrest : (s.resume s.run).queueWorld =
      { s.queueWorld with run := some (s.resume s.run).run } := by
    unfold LockWorld.resume
    split_ifs <;> rfl
  rw [hrest, hrun]

theorem LockWorld.queueWorld_push (record : RqJob) :
    (s.push record).queueWorld = { s.queueWorld with jobs := s.queueWorld.jobs ++ [record] } := by
  simp [LockWorld.queueWorld, LockWorld.push, LockWorld.run, WorkedJob.waiting]

/-- The end of a request, from the commit of the resumable status. -/
theorem LockWorld.queueWorld_finish_resuming (n : ℕ) (call : RequeueCall) :
    (s.finish (n + 2)
        { kind := .requeue, call := call, loaded := s.run, point := .resuming }).queueWorld =
      (resumeAndEnqueue s.queueWorld call s.run).1 := by
  have hjob : inferDocumentIdForFullRun (s.resume s.run).chunks (s.resume s.run).run =
      inferDocumentIdForFullRun s.chunks (normalizeFailedRunForResume s.run) := by
    rw [s.run_resume]
    unfold LockWorld.resume
    split_ifs <;> rfl
  simp only [LockWorld.finish, LockWorld.plan, LockWorld.perform, hjob]
  unfold resumeAndEnqueue
  cases call.enqueue with
  | ok =>
      rw [LockWorld.queueWorld_push, LockWorld.queueWorld_resume]
      rfl
  | error applied =>
      cases applied with
      | true =>
          show (LockWorld.push (s.resume s.run) _).queueWorld = _
          rw [LockWorld.queueWorld_push, LockWorld.queueWorld_resume]
          rfl
      | false =>
          show (s.resume s.run).queueWorld = _
          rw [LockWorld.queueWorld_resume]
          rfl

/-- The end of a request, from the check of the lock. -/
theorem LockWorld.queueWorld_finish_checkingLock (n : ℕ) (call : RequeueCall) :
    (s.finish (n + 3)
        { kind := .requeue, call := call, loaded := s.run, point := .checkingLock }).queueWorld =
      (requeueUnlocked s.queueWorld call s.run).1 := by
  have hsettings : s.queueWorld.settings = s.settings := rfl
  rw [LockWorld.finish, LockWorld.plan, requeueUnlocked, hsettings]
  cases s.settings.requireLlmApiKeyForFullMode with
  | error e => rfl
  | ok key =>
      cases call.lockExists with
      | error applied => rfl
      | ok =>
          cases hlock : s.lock with
          | none =>
              have habsent : s.queueWorld.lock = false := by
                rw [LockWorld.queueWorld, hlock]
                rfl
              simp only [habsent]
              exact s.queueWorld_finish_resuming n call
          | some i =>
              have hpresent : s.queueWorld.lock = true := by
                rw [LockWorld.queueWorld, hlock]
                rfl
              simp only [hpresent]
              rfl

/-- **A requeue that nothing interrupts** is `requeueFullRun`. -/
theorem LockWorld.queueWorld_finish (call : RequeueCall) (hadmits : s.admits .requeue = true) :
    (s.finish 6
        { kind := .requeue, call := call, loaded := s.run, point := .scanning }).queueWorld =
      (requeueFullRun s.queueWorld call).1 := by
  have hrun : s.queueWorld.run = some s.run := rfl
  have hjobs : s.queueWorld.jobs = s.jobs.map WorkedJob.record := rfl
  have hlock : s.queueWorld.lock = s.lock.isSome := rfl
  obtain ⟨detail, heligible⟩ : ∃ detail,
      structuralRequeueEligibility s.run = .ok (true, detail) := by
    simp only [LockWorld.admits] at hadmits
    split at hadmits
    · rename_i eligible detail heligible
      exact ⟨detail, by rw [heligible, hadmits]⟩
    · cases hadmits
  simp only [requeueFullRun, hrun, heligible, hjobs, hlock]
  rw [LockWorld.finish, LockWorld.plan]
  cases scanPrimaryJob call (s.jobs.map WorkedJob.record) with
  | error e => rfl
  | ok primary =>
      show (s.finish 5
        { kind := .requeue, call := call, loaded := s.run, point := .checkingStale primary
          }).queueWorld = _
      rw [LockWorld.finish, LockWorld.plan]
      simp only [clearStaleFullRunLockIfApplicable]
      cases lockLooksStale s.run.status primary with
      | false => exact s.queueWorld_finish_checkingLock 1 call
      | true =>
          cases call.staleExists with
          | error applied => rfl
          | ok =>
              cases hkey : s.lock with
              | none =>
                  have hsame : { s.queueWorld with lock := (none : Option ℕ).isSome } =
                      s.queueWorld := by
                    rw [← hkey]
                    rfl
                  have hrest := s.queueWorld_finish_checkingLock 1 call
                  rw [← hsame] at hrest
                  exact hrest
              | some i =>
                  show (s.finish 4
                    { kind := .requeue, call := call, loaded := s.run, point := .deleting
                      }).queueWorld = _
                  rw [LockWorld.finish, LockWorld.plan]
                  cases call.staleDelete with
                  | error applied =>
                      cases applied with
                      | true => rfl
                      | false =>
                          have hsame : { s.queueWorld with lock := true } = s.queueWorld := by
                            rw [LockWorld.queueWorld, hkey]
                            rfl
                          exact hsame.symm
                  | ok => exact (s.setLock none).queueWorld_finish_checkingLock 0 call

/-- The other requests do not matter to one that is executed alone. -/
theorem LockWorld.queueWorld_finish_requests (n : ℕ) (requests : List Request)
    (request : Request) :
    (({ s with requests := requests } : LockWorld).finish n request).queueWorld =
      (s.finish n request).queueWorld := by
  induction n generalizing s request with
  | zero => rfl
  | succ n ih =>
      have hplan : ({ s with requests := requests } : LockWorld).plan request =
          s.plan request := by
        simp only [LockWorld.plan, LockWorld.run]
      have hperform : ({ s with requests := requests } : LockWorld).perform (s.plan request).1 =
          { s.perform (s.plan request).1 with requests := requests } := by
        cases (s.plan request).1 with
        | nothing => rfl
        | deleteKey => rfl
        | resume loaded =>
            simp only [LockWorld.perform, LockWorld.resume]
            split_ifs <;> rfl
        | push record => rfl
      rw [LockWorld.finish, LockWorld.finish, hplan, hperform]
      cases (s.plan request).2 with
      | none => rfl
      | some point => exact ih { request with point := point }

/-- With no request open, advancing one does nothing. -/
theorem exec_advance_nil (hnone : s.requests = []) (n : ℕ) :
    lockSystem.exec s (List.replicate n (.advance 0)) = some s := by
  induction n with
  | zero => rfl
  | succ n ih =>
      have hstep : lockSystem.step s (.advance 0) = some s := by
        simp [lockSystem, LockWorld.step, hnone]
      rw [List.replicate_succ, LabelledSystem.exec_cons, hstep]
      exact ih

/-- Advancing the only request finishes it. -/
theorem exec_advance {request : Request} (hone : s.requests = [request]) (n : ℕ) :
    ∃ t, lockSystem.exec s (List.replicate n (.advance 0)) = some t ∧
      t.queueWorld = (s.finish n request).queueWorld := by
  induction n generalizing s request with
  | zero => exact ⟨s, rfl, rfl⟩
  | succ n ih =>
      have hstep : lockSystem.step s (.advance 0) = some (s.advanceAt 0 request) := by
        simp [lockSystem, LockWorld.step, hone]
      rw [List.replicate_succ, LabelledSystem.exec_cons, hstep, Option.bind_some,
        LockWorld.finish]
      cases hnext : (s.plan request).2 with
      | none =>
          have hclosed : (s.advanceAt 0 request).requests = [] := by
            simp [LockWorld.advanceAt, hnext, hone]
          refine ⟨s.advanceAt 0 request, exec_advance_nil hclosed n, ?_⟩
          rfl
      | some point =>
          have hopen : (s.advanceAt 0 request).requests = [{ request with point := point }] := by
            simp [LockWorld.advanceAt, hnext, hone]
          obtain ⟨t, ht, hworld⟩ := ih hopen
          refine ⟨t, ht, hworld.trans ?_⟩
          exact LockWorld.queueWorld_finish_requests n _ _

/-- **A requeue that nothing interrupts** leaves what `requeueFullRun` leaves. -/
theorem requeue_alone (hnone : s.requests = []) {call : RequeueCall}
    (hrunId : call.runId = s.run.id) (hadmits : s.admits .requeue = true) :
    ∃ t, lockSystem.exec s (.request .requeue call :: List.replicate 6 (.advance 0)) = some t ∧
      t.queueWorld = (requeueFullRun s.queueWorld call).1 := by
  have hopen : lockSystem.step s (.request .requeue call) =
      some { s with requests :=
        [{ kind := .requeue, call := call, loaded := s.run, point := .scanning }] } := by
    simp [lockSystem, LockWorld.step, hadmits, hrunId, hnone]
  rw [LabelledSystem.exec_cons, hopen, Option.bind_some]
  obtain ⟨t, ht, hworld⟩ := exec_advance (s := { s with requests :=
    [{ kind := .requeue, call := call, loaded := s.run, point := .scanning }] }) rfl 6
  refine ⟨t, ht, ?_⟩
  rw [hworld, LockWorld.queueWorld_finish_requests, s.queueWorld_finish call hadmits]

/-! ## Reachable worlds -/

/-- What a step can do to the database: nothing, a step of a session, the commit of
the handler of `POST /runs`, or the commit of a requeue. -/
theorem LockWorld.database_of_step {t : LockWorld} {a : LockAction} (h : s.step a = some t) :
    t.database = s.database ∨ (∃ action, s.database.step action = some t.database) ∨
      (∃ error requestId, t.database =
        { s.database with run := s.run.apply (enqueueFailureChanges s.run error requestId) }) ∨
      t.database = { s.database with
        run := normalizeFailedRunForResume { s.run with status := .failed } } := by
  cases a with
  | post documentId jobId now reply =>
      left
      cases h
      cases reply with
      | ok => rfl
      | error applied => cases applied <;> rfl
  | handleEnqueueFailure error requestId =>
      simp only [LockWorld.step] at h
      split_ifs at h
      cases h
      exact Or.inr (Or.inr (Or.inl ⟨error, requestId, rfl⟩))
  | acquire i reply =>
      left
      obtain ⟨job, hjob, h⟩ := Option.bind_eq_some_iff.mp h
      split_ifs at h
      cases h
      cases reply with
      | ok =>
          simp only [LockWorld.acquire]
          cases s.lock <;> rfl
      | error applied =>
          simp only [LockWorld.acquire]
          split_ifs <;> rfl
  | release i reply =>
      left
      obtain ⟨job, hjob, h⟩ := Option.bind_eq_some_iff.mp h
      split_ifs at h
      cases h
      cases reply with
      | ok => rfl
      | error applied => cases applied <;> rfl
  | session action =>
      simp only [LockWorld.step] at h
      split_ifs at h
      obtain ⟨database, hdatabase, rfl⟩ := Option.map_eq_some_iff.mp h
      exact Or.inr (Or.inl ⟨action, hdatabase⟩)
  | advance j =>
      simp only [LockWorld.step] at h
      split at h
      · rename_i request hrequest
        cases h
        unfold LockWorld.advanceAt
        cases (s.plan request).1 with
        | resume loaded =>
            simp only [LockWorld.perform, LockWorld.resume]
            split_ifs
            · exact Or.inr (Or.inr (Or.inr rfl))
            · exact Or.inl rfl
        | _ => exact Or.inl rfl
      · cases h
        exact Or.inl rfl
  | take i now =>
      left
      obtain ⟨job, hjob, h⟩ := Option.bind_eq_some_iff.mp h
      split_ifs at h
      cases h
      rfl
  | leave i =>
      left
      obtain ⟨job, hjob, h⟩ := Option.bind_eq_some_iff.mp h
      split_ifs at h
      cases h
      rfl
  | die i =>
      left
      obtain ⟨job, hjob, rfl⟩ := Option.map_eq_some_iff.mp h
      rfl
  | record i record =>
      left
      obtain ⟨job, hjob, h⟩ := Option.bind_eq_some_iff.mp h
      split_ifs at h
      cases h
      rfl
  | expire =>
      left
      obtain ⟨i, hlock, h⟩ := Option.bind_eq_some_iff.mp h
      split_ifs at h
      cases h
      rfl
  | request kind call =>
      left
      simp only [LockWorld.step] at h
      split_ifs at h
      cases h
      rfl

/-- A commit that moves only status and metadata, to a well-formed run. -/
theorem SessionState.Sound.withRun {d : SessionState} (h : d.Sound) {run : Run}
    (hwell : WellFormedRun run) (hrows : run.generationResults = d.run.generationResults) :
    SessionState.Sound { d with run := run } :=
  ⟨h.went_on, fun session hsession => (h.sound session hsession).mono (by rw [hrows]; exact id),
    hwell⟩

/-- The step lemma: the database stays sound. -/
theorem LockWorld.database_sound_step {t : LockWorld} {a : LockAction}
    (h : s.database.Sound) (hstep : s.step a = some t) : t.database.Sound := by
  rcases LockWorld.database_of_step hstep with hsame | ⟨action, haction⟩ |
    ⟨error, requestId, hfailed⟩ | hresumed
  · rw [hsame]
    exact h
  · exact h.step haction
  · rw [hfailed]
    refine h.withRun ?_ ?_
    · rw [apply_enqueueFailureChanges]
      exact h.wellFormed.of_status (by decide) _
    · rw [apply_enqueueFailureChanges]
      rfl
  · rw [hresumed]
    have hwell : WellFormedRun { s.run with status := .failed } :=
      h.wellFormed.of_status (by decide) s.run.metadataJson
    refine h.withRun hwell.normalize ?_
    rw [normalizeFailedRunForResume_eq]
    rfl

/-- The worlds of a full run. -/
def LockWorld.IsCreated (s : LockWorld) : Prop :=
  ∃ id mode requestId chunks settings,
    s = LockWorld.created (createFullRun id mode requestId) chunks settings

/-- **The run of a reachable world is well formed.** -/
theorem LockWorld.wellFormed_of_reachable (h : lockSystem.Reachable LockWorld.IsCreated s) :
    WellFormedRun s.run := by
  have hsound : s.database.Sound := by
    refine LabelledSystem.reachable_invariant (I := fun s : LockWorld => s.database.Sound) ?_
      (fun s a t hs hstep => LockWorld.database_sound_step hs hstep) h
    -- A new world has no session open.
    rintro s ⟨id, mode, requestId, chunks, settings, rfl⟩
    exact sound_of_isFullRun (isFullRun_createFullRun id mode requestId)
  exact hsound.wellFormed

/-! ## What stands in the way of a requeue -/

/-- Every Redis command of the request succeeds. -/
structure RequeueCall.Answered (call : RequeueCall) : Prop where
  scan : call.scan = .ok
  staleExists : call.staleExists = .ok
  staleDelete : call.staleDelete = .ok
  lockExists : call.lockExists = .ok
  enqueue : call.enqueue = .ok

/-- A run that is not completed and has only rows of a full run is eligible. -/
theorem WellFormedRun.eligible {run : Run} (h : WellFormedRun run)
    (hopen : run.status ≠ .completed) : structuralRequeueEligibility run = .ok (true, none) := by
  have hallowed : run.status ∈ allowRequeueStatuses := by
    have hpending := h.not_pending
    cases hstatus : run.status with
    | pending => exact absurd hstatus hpending
    | completed => exact absurd hstatus hopen
    | running => decide
    | retrievalCompleted => decide
    | generationCompleted => decide
    | failed => decide
  have hfull : isHeuristicOnlyEvaluatedRun run.generationResults.head?
      run.evaluationResults.head? = false := by
    cases hgeneration : run.generationResults with
    | cons row rows => rfl
    | nil =>
        -- Without a generation row there is no evaluation row either.
        have hevaluation : run.evaluationResults = [] := by
          by_contra hrows
          exact h.evaluation_generated hrows hgeneration
        rw [hevaluation]
        rfl
  simp [structuralRequeueEligibility, evaluateStructuralRequeueEligibility,
    scalarOneOrNone_of_length_le h.generation_unique,
    scalarOneOrNone_of_length_le h.evaluation_unique, hopen, hallowed, hfull, bind, Except.bind,
    pure, Except.pure]

/-- A requeue is accepted when its checks pass and the push succeeds. -/
theorem requeueFullRun_accepted_iff {w : QueueWorld} {call : RequeueCall} {run : Run}
    (hrun : w.run = some run) (henqueue : call.enqueue = .ok) :
    (∃ answer, (requeueFullRun w call).2 = .ok answer) ↔ RequeueChecksPass w call run := by
  constructor
  · rintro ⟨answer, haccepted⟩
    by_contra hchecks
    obtain ⟨e, he⟩ := (requeueFullRun_of_not_checks hrun hchecks).2.2
    rw [haccepted] at he
    cases he
  · intro hchecks
    rw [requeueFullRun_of_checks hrun hchecks, resumeAndEnqueue, henqueue]
    exact ⟨_, rfl⟩

/-- The clearing of a stale key that Redis answers. -/
theorem clearStale_answered {call : RequeueCall} (hcall : call.Answered) (status : RunStatus)
    (primary : Option (ℕ × String)) (lock : Bool) :
    ∃ lock' deleted, clearStaleFullRunLockIfApplicable status primary call.staleExists
      call.staleDelete lock = (lock', .ok deleted) := by
  unfold clearStaleFullRunLockIfApplicable
  rw [hcall.staleExists, hcall.staleDelete]
  split_ifs
  · exact ⟨lock, false, rfl⟩
  · exact ⟨lock, false, rfl⟩
  · exact ⟨false, true, rfl⟩

/-- **The inspection of the queue tells whether a requeue is accepted**, when Redis is up
and the API key set. -/
theorem queueStatus_eligible_iff {w : QueueWorld} {call : RequeueCall} {run : Run}
    {response : RunQueueStatusResponse} (hrun : w.run = some run) (hcall : call.Answered)
    (hkey : w.settings.requireLlmApiKeyForFullMode = .ok ())
    (h : (getRunQueueStatus w call).2 = .ok response) :
    response.requeueEligible = true ↔ ∃ answer, (requeueFullRun w call).2 = .ok answer := by
  rw [requeueFullRun_accepted_iff hrun hcall.enqueue]
  simp only [getRunQueueStatus, hrun] at h
  cases hgeneration : scalarOneOrNone run.generationResults with
  | error e => simp [hgeneration] at h
  | ok generation =>
  cases hevaluation : scalarOneOrNone run.evaluationResults with
  | error e => simp [hgeneration, hevaluation] at h
  | ok evaluation =>
  have heligibility : structuralRequeueEligibility run =
      .ok (evaluateStructuralRequeueEligibility run.status generation evaluation) := by
    simp [structuralRequeueEligibility, hgeneration, hevaluation, bind, Except.bind, pure,
      Except.pure]
  simp only [hgeneration, hevaluation] at h
  split_ifs at h with hheuristic
  · -- A heuristic run is refused in every status.
    cases h
    constructor
    · exact fun heligible => Bool.noConfusion heligible
    · intro hchecks
      obtain ⟨detail, heligible⟩ := hchecks.eligible
      rw [heligibility, evaluateStructuralRequeueEligibility] at heligible
      have honly : isHeuristicOnlyEvaluatedRun generation evaluation = true := by
        by_contra hfull
        simp [inferPipelineHeuristicVsFull, hfull] at hheuristic
      split_ifs at heligible <;> cases heligible
  · obtain ⟨primary, hscan⟩ : ∃ primary, scanPrimaryJob call w.jobs = .ok primary := by
      rw [scanPrimaryJob, hcall.scan]
      exact ⟨_, rfl⟩
    obtain ⟨lock, deleted, hclear⟩ := clearStale_answered hcall run.status primary w.lock
    simp only [hscan, hclear, hcall.lockExists, Except.ok.injEq] at h
    rw [← h, fullRunQueueStatus, Bool.and_eq_true]
    constructor
    · rintro ⟨heligible, hfree⟩
      have hfree : lock = false := by simpa using hfree
      refine ⟨⟨_, heligibility.trans (congrArg Except.ok (Prod.ext heligible rfl))⟩,
        ⟨primary, deleted, hscan, ?_⟩, hkey, hcall.lockExists⟩
      rw [hclear, hfree]
    · intro hchecks
      obtain ⟨detail, heligible⟩ := hchecks.eligible
      obtain ⟨primary', deleted', hscan', hclear'⟩ := hchecks.unlocked
      rw [heligibility, Except.ok.injEq] at heligible
      rw [hscan, Except.ok.injEq] at hscan'
      rw [← hscan', hclear, Prod.mk.injEq] at hclear'
      rw [heligible, hclear'.1]
      exact ⟨rfl, rfl⟩

/-- **When a dead run can be requeued.**  With its newest job failed or stopped, Redis
up and the API key set, a full run that is not completed is requeued unless a key is
left and the run is between two phase commits. -/
theorem dead_run_requeued_iff {w : LockWorld}
    (hreach : lockSystem.Reachable LockWorld.IsCreated w) (hopen : w.run.status ≠ .completed)
    {call : RequeueCall} (hcall : call.Answered) {job : RqJob}
    (hnewest : primaryJob call.runId w.queueWorld.jobs = some job)
    (hdead : job.status = .failed ∨ job.status = .stopped)
    (hkey : w.settings.requireLlmApiKeyForFullMode = .ok ()) :
    (∃ answer, (requeueFullRun w.queueWorld call).2 = .ok answer) ↔
      ¬(w.lock.isSome = true ∧
        (w.run.status = .retrievalCompleted ∨ w.run.status = .generationCompleted)) := by
  have hwell := LockWorld.wellFormed_of_reachable hreach
  have heligible := hwell.eligible hopen
  have hrun : w.queueWorld.run = some w.run := rfl
  have hscan : scanPrimaryJob call w.queueWorld.jobs = .ok (some (job.id, job.status.text)) := by
    simp [scanPrimaryJob, hcall.scan, findPrimaryJobForRun, hnewest]
  have htext : Python.lower job.status.text ∈ staleLockRqStatuses := by
    rcases hdead with hstatus | hstatus <;> rw [hstatus] <;> decide
  rw [requeueFullRun_accepted_iff hrun hcall.enqueue]
  constructor
  · rintro hchecks ⟨hlock, hbetween⟩
    obtain ⟨primary, deleted, hprimary, hclear⟩ := hchecks.unlocked
    rw [hscan, Except.ok.injEq] at hprimary
    have hkept : lockLooksStale w.run.status primary = false := by
      rw [← hprimary]
      rcases hbetween with hstatus | hstatus <;> simp [lockLooksStale, hstatus]
    have hlock' : w.queueWorld.lock = true := hlock
    simp [clearStaleFullRunLockIfApplicable, hkept, hlock'] at hclear
  · intro hfree
    refine ⟨⟨none, heligible⟩, ⟨_, w.lock.isSome, hscan, ?_⟩, hkey, hcall.lockExists⟩
    have hlock : w.queueWorld.lock = w.lock.isSome := rfl
    rw [hlock]
    cases hpresent : w.lock.isSome with
    | false =>
        cases hstale : lockLooksStale w.run.status (some (job.id, job.status.text)) <;>
          simp [clearStaleFullRunLockIfApplicable, hstale, hcall.staleExists]
    | true =>
        -- The key is left, so the run is `running` or `failed`, and the key is cleared.
        have hstale : lockLooksStale w.run.status (some (job.id, job.status.text)) = true := by
          rw [hpresent] at hfree
          have hpending := hwell.not_pending
          cases hstatus : w.run.status <;> simp_all [lockLooksStale]
        simp [clearStaleFullRunLockIfApplicable, hstale, hcall.staleExists, hcall.staleDelete]

/-! ## Two dead runs -/

/-- The worker of a new run is stopped before its first commit. -/
def stoppedInRetrieval : List LockAction :=
  [.post none 10 0 .ok, .take 0 0, .acquire 0 .ok, .die 0, .record 0 (stoppedJob 10 1 0)]

/-- The worker of a new run is stopped after the commit of the retrieval. -/
def stoppedAfterRetrieval : List LockAction :=
  [.post none 10 0 .ok, .take 0 0, .acquire 0 .ok,
    .session (.start (plainPhase .retrieval)), .session (.work 0), .session (.commit 0),
    .die 0, .record 0 (stoppedJob 10 1 0)]

theorem isCreated_createdWorld : createdWorld.IsCreated :=
  ⟨1, .full, none, oneChunkEnv.chunks, openaiSettings, rfl⟩

theorem answered_answeredCall (runId jobId : ℕ) (now : ℚ) :
    (answeredCall runId jobId now).Answered := ⟨rfl, rfl, rfl, rfl, rfl⟩

/-- The run that is still `running` is requeued although the key is left. -/
theorem dead_run_requeued_in_retrieval :
    ∃ w, lockSystem.exec createdWorld stoppedInRetrieval = some w ∧ w.lock.isSome = true ∧
      ((∃ answer, (requeueFullRun w.queueWorld (answeredCall 1 11 1)).2 = .ok answer) ↔
        ¬(w.lock.isSome = true ∧
          (w.run.status = .retrievalCompleted ∨ w.run.status = .generationCompleted))) :=
  ⟨_, rfl, rfl, dead_run_requeued_iff ⟨_, isCreated_createdWorld, stoppedInRetrieval, rfl⟩
    RunStatus.noConfusion (answered_answeredCall 1 11 1) rfl (Or.inr rfl) rfl⟩

/-- The run that has its retrieval committed is not. -/
theorem dead_run_not_requeued :
    ¬∀ (w : LockWorld) (call : RequeueCall) (job : RqJob),
      lockSystem.Reachable LockWorld.IsCreated w → w.run.status ≠ .completed →
      (∀ i, w.worker i = .idle) →
      (∀ job ∈ w.queueWorld.jobs, job.status ≠ .queued ∧ job.status ≠ .scheduled ∧
        job.status ≠ .started) →
      call.Answered → primaryJob call.runId w.queueWorld.jobs = some job →
      job.status = .failed ∨ job.status = .stopped →
      w.settings.requireLlmApiKeyForFullMode = .ok () →
        ∃ answer, (requeueFullRun w.queueWorld call).2 = .ok answer := by
  intro h
  obtain ⟨answer, haccepted⟩ := h _ (answeredCall 1 11 1) (stoppedJob 10 1 0)
    ⟨_, isCreated_createdWorld, stoppedAfterRetrieval, rfl⟩ RunStatus.noConfusion
    (fun i => by cases i <;> rfl) (by decide) (answered_answeredCall 1 11 1) rfl (Or.inr rfl) rfl
  cases haccepted

end

end ContextLens
