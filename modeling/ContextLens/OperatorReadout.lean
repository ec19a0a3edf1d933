import ContextLens.DeadRuns
import ContextLens.Foundations.JavascriptBuiltins

/-!
# What the operator is told about a run in the queue

`src/benchmark/queueOperatorState.ts` and `shouldShowRequeueButton` of
`src/benchmark/runQueueUi.ts`: the badge of a run, from the answer to
`GET /runs/{run_id}/queue-status`.

The badge is a statement about `POST /runs/{run_id}/requeue`, which another handler decides.
`badge_predicts_requeue` compares the two on every run, lock and list of jobs: while nothing
changes in between, the badge offers a requeue just when the request is accepted, and
otherwise the request is refused with the detail that the answer carried.
-/

namespace ContextLens

open Foundations

/-! ## The readout -/

/-- `QueueRowRemoteState`. -/
inductive QueueRowRemoteState
  | notFetched
  | loading
  | error (message : String)
  | ok (q : RunQueueStatusResponse)

/-- What the panel keeps of a row. -/
structure RowQueueState where
  loading : Bool
  data : Option RunQueueStatusResponse
  error : Option String

/-- `parseQueueRowRemoteState`. -/
def parseQueueRowRemoteState : Option RowQueueState → QueueRowRemoteState
  | none => .notFetched
  | some qs =>
      if qs.loading then .loading
      else match qs.error.filter fun message => message ≠ "", qs.data with
        | some message, _ => .error message
        | none, some data => .ok data
        | none, none => .notFetched

/-- `OperatorQueueKind`. -/
inductive OperatorQueueKind
  | needQueueStatus
  | loading
  | error
  | heuristicNoRq
  | fullRecoveryReady
  | fullLockBlocksRequeue
  | fullNotEligible
  | fullIneligibleNoDetail
  deriving DecidableEq, Repr

/-- `OperatorQueuePresentation`. -/
structure OperatorQueuePresentation where
  kind : OperatorQueueKind
  badge : String
  description : String

/-- `formatQueueField`. -/
def formatQueueField (value : Option String) : String :=
  match value.filter fun text => text ≠ "" with
  | none => "—"
  | some text => text

/-- `normalizeRqStatus`. -/
def normalizeRqStatus (builtins : Javascript.Builtins) (raw : Option String) : Option String :=
  (raw.filter fun text => text ≠ "").map builtins.toLowerCase

/-- The text of a job id. -/
def jobIdText (builtins : Javascript.Builtins) (jobId : Option ℕ) : Option String :=
  jobId.map fun id => builtins.numberText id

/-- `recoveryReadySuffix`. -/
def recoveryReadySuffix (builtins : Javascript.Builtins) (q : RunQueueStatusResponse) : String :=
  let st := normalizeRqStatus builtins q.rqJobStatus
  if st = some "queued" then " (RQ: queued)"
  else if st = some "started" then " (RQ: running)"
  else if st = some "finished" then " (RQ: finished)"
  else if st = some "failed" ∨ st = some "stopped" ∨ st = some "canceled" ∨
      st = some "cancelled" then " (RQ: terminal — failed/stopped)"
  else match q.jobId, q.rqJobStatus.filter fun text => text ≠ "" with
    | some _, some status => " (RQ: " ++ status ++ ")"
    | _, _ => " (RQ job not visible — registry scan miss or TTL)"

/-- `run_status.replace(/_/g, ' ')`. -/
def spacedStatus (status : RunStatus) : String :=
  String.ofList (status.text.toList.map fun c => if c = '_' then ' ' else c)

/-- `q.detail` behind a blank, or nothing. -/
def detailSuffix (q : RunQueueStatusResponse) : String :=
  match q.detail.filter fun text => text ≠ "" with
  | some detail => " " ++ detail
  | none => ""

/-- `hasDetail`. -/
def RunQueueStatusResponse.hasDetail (q : RunQueueStatusResponse) : Bool :=
  q.detail.any fun detail => Javascript.trim detail ≠ ""

/-- `presentationFromQueueStatus`. -/
def presentationFromQueueStatus (builtins : Javascript.Builtins) (q : RunQueueStatusResponse) :
    OperatorQueuePresentation :=
  if q.pipeline = "heuristic" then
    { kind := .heuristicNoRq
      badge := "Heuristic (no queue)"
      description := Javascript.trim
        ("No Redis/RQ for this run (heuristic-only pipeline)." ++ detailSuffix q) }
  else if q.requeueEligible then
    { kind := .fullRecoveryReady
      badge := "Recovery: can requeue" ++ recoveryReadySuffix builtins q
      description := Javascript.trim
        ("POST /requeue is structurally allowed and no worker lock is held. Run row status: " ++
          spacedStatus q.runStatus ++ ". After requeue, refresh queue status (and the list " ++
          "here) to see updates." ++
          (if q.jobId.isSome ∨ (q.rqJobStatus.filter fun text => text ≠ "").isSome then
            " Job id: " ++ formatQueueField (jobIdText builtins q.jobId) ++ "."
          else "")) }
  else if q.lockPresent then
    { kind := .fullLockBlocksRequeue
      badge := "Blocked: worker lock"
      description := Javascript.trim
        ("A full-run Redis lock exists — POST /requeue returns 409 until it clears or " ++
          "expires." ++ detailSuffix q) }
  else if q.hasDetail then
    { kind := .fullNotEligible
      badge := "Not requeue-eligible"
      description := Javascript.trim (q.detail.getD "") }
  else
    { kind := .fullIneligibleNoDetail
      badge := "Not requeue-eligible"
      description := "Requeue is not eligible, but the server returned no lock and no detail — " ++
        "retry queue status or open run detail." }

/-- `presentationFromRowState`. -/
def presentationFromRowState (builtins : Javascript.Builtins) :
    QueueRowRemoteState → OperatorQueuePresentation
  | .notFetched =>
      { kind := .needQueueStatus
        badge := "Queue status needed"
        description := "Click “Queue status” to load Redis/RQ fields and requeue eligibility." }
  | .loading =>
      { kind := .loading
        badge := "Loading…"
        description := "Fetching GET /runs/\x7bid\x7d/queue-status…" }
  | .error message =>
      { kind := .error
        badge := "Queue status error"
        description := message }
  | .ok q => presentationFromQueueStatus builtins q

/-- `shouldShowRequeueButton`. -/
def shouldShowRequeueButton (q : RunQueueStatusResponse) : Bool :=
  decide (q.pipeline = "full") && q.requeueEligible

/-! ## The details of a refusal -/

theorem trim_ne_empty {s : String} (h : ∃ c ∈ s.toList, Javascript.isWhiteSpace c = false) :
    Javascript.trim s ≠ "" := by
  obtain ⟨c, hc, hplain⟩ := h
  intro hempty
  have hall : ∀ d ∈ s.toList.dropWhile Javascript.isWhiteSpace,
      Javascript.isWhiteSpace d = true := by
    have hlist := congrArg String.toList hempty
    rw [Javascript.trim, String.toList_ofList] at hlist
    exact List.rdropWhile_eq_nil_iff.mp hlist
  have hleft : s.toList.dropWhile Javascript.isWhiteSpace ≠ [] := by
    rw [Ne, List.dropWhile_eq_nil_iff]
    intro hblank
    rw [hblank c hc] at hplain
    cases hplain
  -- The first character that is left is not blank.
  have hfirst := List.head_dropWhile_not Javascript.isWhiteSpace hleft
  rw [hall _ (List.head_mem hleft)] at hfirst
  cases hfirst

/-- A run that is not eligible is told why. -/
theorem exists_detail_of_ineligible {status : RunStatus} {generation : Option GenerationResult}
    {evaluation : Option EvaluationResult}
    (h : (evaluateStructuralRequeueEligibility status generation evaluation).1 = false) :
    ∃ detail, evaluateStructuralRequeueEligibility status generation evaluation =
      (false, some detail) ∧ Javascript.trim detail ≠ "" := by
  unfold evaluateStructuralRequeueEligibility at h ⊢
  split_ifs at h ⊢
  · exact ⟨_, rfl, trim_ne_empty ⟨'R', by simp, by decide⟩⟩
  · exact ⟨_, rfl, trim_ne_empty ⟨'R', by simp, by decide⟩⟩
  · refine ⟨_, rfl, trim_ne_empty ⟨'R', ?_, by decide⟩⟩
    have hstart : 'R' ∈ (toString "Run status '").toList := show 'R' ∈ "Run status '".toList by simp
    simp only [String.toList_append, List.mem_append]
    exact Or.inl (Or.inl (Or.inl hstart))

/-- A run that is eligible is so without a detail. -/
theorem eligible_eq_of_fst {status : RunStatus} {generation : Option GenerationResult}
    {evaluation : Option EvaluationResult}
    (h : (evaluateStructuralRequeueEligibility status generation evaluation).1 = true) :
    evaluateStructuralRequeueEligibility status generation evaluation = (true, none) := by
  unfold evaluateStructuralRequeueEligibility at h ⊢
  split_ifs at h ⊢
  rfl

/-- A heuristic run is not eligible. -/
theorem ineligible_of_heuristic {status : RunStatus} {generation : Option GenerationResult}
    {evaluation : Option EvaluationResult}
    (h : isHeuristicOnlyEvaluatedRun generation evaluation = true) :
    (evaluateStructuralRequeueEligibility status generation evaluation).1 = false := by
  rw [evaluateStructuralRequeueEligibility, if_pos h]
  split_ifs <;> rfl

/-! ## The badge and the requeue -/

/-- What the inspection leaves behind: it may have cleared a stale key. -/
def QueueWorld.inspected (w : QueueWorld) (call : RequeueCall) : QueueWorld :=
  { w with lock := (getRunQueueStatus w call).1 }

/-- The readout of an answer that speaks of the next requeue. -/
structure SaysWhatRequeueDoes (builtins : Javascript.Builtins) (response : RunQueueStatusResponse)
    (result : Except RequeueError (Run × ℕ)) : Prop where
  never_without_detail :
    (presentationFromQueueStatus builtins response).kind ≠ .fullIneligibleNoDetail
  ready_iff : (presentationFromQueueStatus builtins response).kind = .fullRecoveryReady ↔
    ∃ answer, result = .ok answer
  button_iff : shouldShowRequeueButton response = true ↔ ∃ answer, result = .ok answer
  refused : (presentationFromQueueStatus builtins response).kind ≠ .fullRecoveryReady →
    ∃ detail, response.detail = some detail ∧ result = .error (.conflict detail)
  not_eligible : (presentationFromQueueStatus builtins response).kind = .fullNotEligible →
    ∃ detail, (presentationFromQueueStatus builtins response).description =
      Javascript.trim detail ∧ result = .error (.conflict detail)

section

variable {w : QueueWorld} {call call' : RequeueCall} {run : Run}
  {generation : Option GenerationResult} {evaluation : Option EvaluationResult}

/-- The verdict that both handlers start from. -/
theorem structuralRequeueEligibility_eq
    (hgeneration : scalarOneOrNone run.generationResults = .ok generation)
    (hevaluation : scalarOneOrNone run.evaluationResults = .ok evaluation) :
    structuralRequeueEligibility run =
      .ok (evaluateStructuralRequeueEligibility run.status generation evaluation) := by
  simp [structuralRequeueEligibility, hgeneration, hevaluation, bind, Except.bind, pure,
    Except.pure]

/-- A run that is not eligible is refused with the reason. -/
theorem requeueFullRun_of_ineligible (hrun : w.run = some run) {detail : String}
    (h : structuralRequeueEligibility run = .ok (false, some detail)) :
    (requeueFullRun w call).2 = .error (.conflict detail) := by
  simp only [requeueFullRun, hrun, h, Option.getD_some]

/-- A key that looks stale does so once only: what the inspection leaves stays. -/
theorem clearStale_again {primary : Option (ℕ × String)} {status : RunStatus} {lock lock' : Bool}
    {deleted : Bool}
    (h : clearStaleFullRunLockIfApplicable status primary .ok .ok lock = (lock', .ok deleted)) :
    ∃ deleted', clearStaleFullRunLockIfApplicable status primary .ok .ok lock' =
      (lock', .ok deleted') := by
  unfold clearStaleFullRunLockIfApplicable at h ⊢
  cases hstale : lockLooksStale status primary with
  | false => exact ⟨false, rfl⟩
  | true =>
      rw [hstale] at h
      cases lock with
      | false =>
          cases h
          exact ⟨false, rfl⟩
      | true =>
          cases h
          exact ⟨false, rfl⟩

/-- A run that is eligible is requeued or refused by the key that is left. -/
theorem requeueFullRun_of_eligible (hrun : w.run = some run) (hcall : call.Answered)
    (hkey : w.settings.requireLlmApiKeyForFullMode = .ok ())
    (heligible : structuralRequeueEligibility run = .ok (true, none))
    {primary : Option (ℕ × String)} (hscan : scanPrimaryJob call w.jobs = .ok primary)
    {lock deleted : Bool} (hclear : clearStaleFullRunLockIfApplicable run.status primary .ok .ok
      w.lock = (lock, .ok deleted)) :
    (requeueFullRun w call).2 =
      if lock then .error (.conflict lockHeldDetail)
      else .ok (normalizeFailedRunForResume run, call.jobId) := by
  simp only [requeueFullRun, hrun, heligible, hscan, hcall.staleExists, hcall.staleDelete, hclear,
    requeueUnlocked, hkey, hcall.lockExists]
  cases lock with
  | true => rfl
  | false => simp [resumeAndEnqueue, hcall.enqueue]

/-- The two ways in which the inspection of a stored run can end well. -/
theorem getRunQueueStatus_cases (hcall : call.Answered) {response : RunQueueStatusResponse}
    (h : (getRunQueueStatus w call).2 = .ok response) :
    ∃ run generation evaluation, w.run = some run ∧
      scalarOneOrNone run.generationResults = .ok generation ∧
      scalarOneOrNone run.evaluationResults = .ok evaluation ∧
      (isHeuristicOnlyEvaluatedRun generation evaluation = true ∧
          (getRunQueueStatus w call).1 = w.lock ∧ response.pipeline = "heuristic" ∧
          response.requeueEligible = false ∧ response.detail =
            (evaluateStructuralRequeueEligibility run.status generation evaluation).2 ∨
        ∃ primary lock deleted, scanPrimaryJob call w.jobs = .ok primary ∧
          clearStaleFullRunLockIfApplicable run.status primary .ok .ok w.lock =
            (lock, .ok deleted) ∧ (getRunQueueStatus w call).1 = lock ∧
          response = fullRunQueueStatus run (evaluateStructuralRequeueEligibility run.status
            generation evaluation) primary lock) := by
  cases hrun : w.run with
  | none => simp [getRunQueueStatus, hrun] at h
  | some run =>
  cases hgeneration : scalarOneOrNone run.generationResults with
  | error e => simp [getRunQueueStatus, hrun, hgeneration] at h
  | ok generation =>
  cases hevaluation : scalarOneOrNone run.evaluationResults with
  | error e => simp [getRunQueueStatus, hrun, hgeneration, hevaluation] at h
  | ok evaluation =>
  refine ⟨run, generation, evaluation, rfl, hgeneration, hevaluation, ?_⟩
  simp only [getRunQueueStatus, hrun, hgeneration, hevaluation] at h ⊢
  by_cases hheuristic : isHeuristicOnlyEvaluatedRun generation evaluation = true
  · left
    have hpipeline : inferPipelineHeuristicVsFull generation evaluation = "heuristic" :=
      if_pos hheuristic
    rw [if_pos hpipeline] at h ⊢
    cases h
    exact ⟨hheuristic, rfl, rfl, rfl, rfl⟩
  · right
    have hpipeline : inferPipelineHeuristicVsFull generation evaluation ≠ "heuristic" := by
      rw [inferPipelineHeuristicVsFull, if_neg hheuristic]
      decide
    obtain ⟨primary, hscan⟩ : ∃ primary, scanPrimaryJob call w.jobs = .ok primary := by
      rw [scanPrimaryJob, hcall.scan]
      exact ⟨_, rfl⟩
    obtain ⟨lock, deleted, hclear⟩ := clearStale_answered hcall run.status primary w.lock
    rw [hcall.staleExists, hcall.staleDelete] at hclear
    rw [if_neg hpipeline] at h ⊢
    simp only [hscan, hcall.staleExists, hcall.staleDelete, hclear, hcall.lockExists,
      Except.ok.injEq] at h ⊢
    exact ⟨primary, lock, deleted, rfl, hclear, rfl, h.symm⟩

end

/-- The kind of a badge. -/
theorem kind_presentation (builtins : Javascript.Builtins) (q : RunQueueStatusResponse) :
    (presentationFromQueueStatus builtins q).kind =
      if q.pipeline = "heuristic" then .heuristicNoRq
      else if q.requeueEligible then .fullRecoveryReady
      else if q.lockPresent then .fullLockBlocksRequeue
      else if q.hasDetail then .fullNotEligible
      else .fullIneligibleNoDetail := by
  unfold presentationFromQueueStatus
  split_ifs <;> rfl

/-- The text of a badge without a lock. -/
theorem description_of_not_eligible {builtins : Javascript.Builtins}
    {response : RunQueueStatusResponse}
    (h : (presentationFromQueueStatus builtins response).kind = .fullNotEligible) :
    (presentationFromQueueStatus builtins response).description =
      Javascript.trim (response.detail.getD "") := by
  unfold presentationFromQueueStatus at h ⊢
  split_ifs at h ⊢
  rfl

/-- A readout that offers no requeue, of a request that is refused. -/
theorem SaysWhatRequeueDoes.of_refused {builtins : Javascript.Builtins}
    {response : RunQueueStatusResponse} {result : Except RequeueError (Run × ℕ)} {detail : String}
    (hbadge : response.requeueEligible = false) (hdetail : response.detail = some detail)
    (htext : Javascript.trim detail ≠ "") (hresult : result = .error (.conflict detail)) :
    SaysWhatRequeueDoes builtins response result := by
  have hnone : ¬∃ answer, result = .ok answer := by
    rintro ⟨answer, hok⟩
    rw [hresult] at hok
    cases hok
  have hhas : response.hasDetail = true := by
    rw [RunQueueStatusResponse.hasDetail, hdetail, Option.any_some]
    exact decide_eq_true htext
  have hkinds : (presentationFromQueueStatus builtins response).kind ≠ .fullRecoveryReady ∧
      (presentationFromQueueStatus builtins response).kind ≠ .fullIneligibleNoDetail := by
    rw [kind_presentation, hbadge, hhas, if_neg Bool.false_ne_true, if_pos rfl]
    split_ifs <;> decide
  refine ⟨hkinds.2, iff_of_false hkinds.1 hnone, iff_of_false ?_ hnone,
    fun _ => ⟨detail, hdetail, hresult⟩, fun hkind => ⟨detail, ?_, hresult⟩⟩
  · rw [shouldShowRequeueButton, hbadge, Bool.and_false]
    exact Bool.false_ne_true
  · rw [description_of_not_eligible hkind, hdetail, Option.getD_some]

/-- **The badge says what the next requeue does.**  With Redis up and the API key set, the
operator is offered a requeue of a stored run just when the request that follows is accepted;
otherwise it is refused as a conflict, with the detail that the readout has. -/
theorem badge_predicts_requeue (builtins : Javascript.Builtins) {w : QueueWorld}
    {call call' : RequeueCall} (hcall : call.Answered) (hcall' : call'.Answered)
    (hsame : call'.runId = call.runId)
    (hkey : w.settings.requireLlmApiKeyForFullMode = .ok ())
    {response : RunQueueStatusResponse} (h : (getRunQueueStatus w call).2 = .ok response) :
    SaysWhatRequeueDoes builtins response (requeueFullRun (w.inspected call) call').2 := by
  obtain ⟨run, generation, evaluation, hrun, hgeneration, hevaluation, hcases⟩ :=
    getRunQueueStatus_cases hcall h
  have hverdict := structuralRequeueEligibility_eq hgeneration hevaluation
  have hrun' : (w.inspected call).run = some run := hrun
  rcases hcases with ⟨hheuristic, hlock, hpipeline, heligible, hdetail⟩ |
    ⟨primary, lock, deleted, hscan, hclear, hlock, hresponse⟩
  · -- A heuristic run has no queue, and the requeue refuses it.
    obtain ⟨detail, hineligible, htext⟩ := exists_detail_of_ineligible
      (@ineligible_of_heuristic run.status _ _ hheuristic)
    rw [hineligible] at hverdict hdetail
    exact .of_refused heligible hdetail htext (requeueFullRun_of_ineligible hrun' hverdict)
  · have hscan' : scanPrimaryJob call' (w.inspected call).jobs = .ok primary := by
      rw [← hscan, scanPrimaryJob, scanPrimaryJob, hcall.scan, hcall'.scan, hsame]
      rfl
    obtain ⟨deleted', hagain⟩ := clearStale_again hclear
    have hclear' : clearStaleFullRunLockIfApplicable run.status primary .ok .ok
        (w.inspected call).lock = (lock, .ok deleted') := by
      rw [QueueWorld.inspected, hlock]
      exact hagain
    cases hfirst : (evaluateStructuralRequeueEligibility run.status generation evaluation).1 with
    | false =>
        obtain ⟨detail, hineligible, htext⟩ := exists_detail_of_ineligible hfirst
        rw [hineligible] at hverdict hresponse
        refine .of_refused ?_ ?_ htext (requeueFullRun_of_ineligible hrun' hverdict)
        · rw [hresponse]
          rfl
        · rw [hresponse]
          rfl
    | true =>
        have heligible := eligible_eq_of_fst hfirst
        rw [heligible] at hverdict hresponse
        have hresult := requeueFullRun_of_eligible hrun' hcall' hkey hverdict hscan' hclear'
        cases lock with
        | true =>
            refine .of_refused ?_ ?_ ?_ hresult
            · rw [hresponse]
              rfl
            · rw [hresponse]
              rfl
            · exact trim_ne_empty ⟨'A', by simp [lockHeldDetail], by decide⟩
        | false =>
            have hready : (presentationFromQueueStatus builtins response).kind =
                .fullRecoveryReady := by
              rw [kind_presentation, hresponse]
              rfl
            have hbutton : shouldShowRequeueButton response = true := by
              rw [hresponse]
              rfl
            have hanswer : ∃ answer, (requeueFullRun (w.inspected call) call').2 = .ok answer :=
              ⟨_, hresult⟩
            refine ⟨?_, iff_of_true hready hanswer, iff_of_true hbutton hanswer,
              fun hkind => absurd hready hkind, fun hkind => ?_⟩
            · rw [hready]
              decide
            · rw [hready] at hkind
              cases hkind

/-- The failed run with the key of its stopped worker left. -/
def staleKeyWorld : QueueWorld :=
  { failedRunWorld with lock := true, jobs := [stoppedJob 7 1 0] }

/-- The inspection finds the stopped job and clears the key. -/
theorem getRunQueueStatus_staleKeyWorld :
    getRunQueueStatus staleKeyWorld (answeredCall 1 7 0) = (false, .ok
      { runId := 1
        runStatus := .failed
        pipeline := "full"
        jobId := some 7
        rqJobStatus := some "stopped"
        lockPresent := false
        requeueEligible := true
        detail := none }) := by
  have hscan : scanPrimaryJob (answeredCall 1 7 0) staleKeyWorld.jobs =
      .ok (some (7, "stopped")) := by
    simp [scanPrimaryJob, answeredCall, staleKeyWorld, findPrimaryJobForRun, primaryJob,
      candidateJobs, stoppedJob, fullRunJob, RqStatus.text]
  have hstale : lockLooksStale .failed (some (7, "stopped")) = true := by decide
  have hclear : clearStaleFullRunLockIfApplicable .failed (some (7, "stopped")) .ok .ok true =
      (false, .ok true) := by
    rw [clearStaleFullRunLockIfApplicable, hstale]
    rfl
  simp only [getRunQueueStatus, hscan]
  simp only [staleKeyWorld, failedRunWorld, answeredCall, createRun, hclear, scalarOneOrNone]
  rfl

/-- The badge offers the requeue that is then accepted. -/
theorem stale_key_badge :
    SaysWhatRequeueDoes { numberText := fun _ => "7", toLowerCase := fun s => s }
      { runId := 1
        runStatus := .failed
        pipeline := "full"
        jobId := some 7
        rqJobStatus := some "stopped"
        lockPresent := false
        requeueEligible := true
        detail := none }
      (requeueFullRun (staleKeyWorld.inspected (answeredCall 1 7 0)) (answeredCall 1 8 1)).2 := by
  refine badge_predicts_requeue _ (answered_answeredCall 1 7 0) (answered_answeredCall 1 8 1)
    ?_ ?_ ?_
  · rfl
  · rfl
  · rw [getRunQueueStatus_staleKeyWorld]

end ContextLens
