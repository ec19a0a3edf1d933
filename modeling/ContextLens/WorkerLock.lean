import ContextLens.RunSessions
import ContextLens.Foundations.KeyLock

/-!
# The worker lock of a run

One run, its jobs with their workers, the lock key and the open requests, step by
step: `full_benchmark_run_job` of `app/workers/full_run_worker.py`, and the
requests `GET queue-status` and `POST requeue` with every Redis command a step of
its own, so that their commands interleave with those of the workers.

The value of the key says nothing of who set it.  The model remembers the job whose
worker did (`LockWorld.lock`); no step reads it but to see whether the key is there.
That RQ reports truthfully is part of a `WorkedJob`: a job with a live worker is
`started`.

A request clears the key on what it read before: the status of the run, and that of
the newest job.  Neither is about the job whose worker set the key.
`worker_lock_protects` says that this is all that can go wrong.
-/

namespace ContextLens

open Foundations

/-! ## Workers and jobs -/

/-- Where the worker of a job is: there is none, it has not tried the lock yet, it is
inside `run_full_benchmark_pipeline`, or it is in the `finally` after it. -/
inductive WorkerPoint
  | idle
  | starting
  | inside
  | leaving
  deriving DecidableEq, Repr

/-- A job of the run as RQ has it, and its worker. -/
structure WorkedJob where
  record : RqJob
  worker : WorkerPoint
  truthful : worker ≠ .idle → record.status = .started

namespace WorkedJob

/-- A job that no worker has. -/
def waiting (record : RqJob) : WorkedJob where
  record := record
  worker := .idle
  truthful h := absurd rfl h

/-- A worker takes the job. -/
def taken (job : WorkedJob) (now : ℚ) : WorkedJob where
  record := { job.record with status := .started, startedAt := some now }
  worker := .starting
  truthful _ := rfl

/-- The worker of the job moves on. -/
def moved (job : WorkedJob) (point : WorkerPoint) (h : job.worker ≠ .idle) : WorkedJob where
  record := job.record
  worker := point
  truthful _ := job.truthful h

/-- The worker of the job is gone. -/
def left (job : WorkedJob) : WorkedJob := waiting job.record

end WorkedJob

/-! ## Requests -/

/-- The two requests that look at the lock. -/
inductive RequestKind
  | queueStatus
  | requeue
  deriving DecidableEq, Repr

/-- What a request does next. -/
inductive RequestPoint
  | scanning
  | checkingStale (primary : Option (ℕ × String))
  | deleting
  | checkingLock
  | resuming
  | enqueueing

/-- What a step of a request does to the world: nothing, the deletion of the key, the
commit of the resumable status of the run it loaded, or the push of a job. -/
inductive RequestEffect
  | nothing
  | deleteKey
  | resume (loaded : Run)
  | push (record : RqJob)

/-- An open request, with the run as it loaded it. -/
structure Request where
  kind : RequestKind
  call : RequeueCall
  loaded : Run
  point : RequestPoint

/-! ## The world of one run -/

/-- The committed run with its open sessions, the key with the job whose worker set
it, the jobs, the requests, and the failed posts whose handler has not run yet. -/
structure LockWorld where
  database : SessionState
  lock : Option ℕ
  jobs : List WorkedJob
  requests : List Request
  failedPosts : ℕ
  chunks : List Chunk
  settings : Settings

/-- A step of a job, of a request, of a session, or of the store. -/
inductive LockAction
  | post (documentId : Option ℕ) (jobId : ℕ) (now : ℚ) (reply : RedisReply)
  | handleEnqueueFailure (error : String) (requestId : Option String)
  | take (job : ℕ) (now : ℚ)
  | acquire (job : ℕ) (reply : RedisReply)
  | leave (job : ℕ)
  | release (job : ℕ) (reply : RedisReply)
  | die (job : ℕ)
  | record (job : ℕ) (record : RqJob)
  | expire
  | session (action : SessionAction)
  | request (kind : RequestKind) (call : RequeueCall)
  | advance (request : ℕ)

namespace LockWorld

/-- The world of a run that was just created. -/
def created (run : Run) (chunks : List Chunk) (settings : Settings) : LockWorld where
  database := { run := run, sessions := [] }
  lock := none
  jobs := []
  requests := []
  failedPosts := 0
  chunks := chunks
  settings := settings

/-- The committed run. -/
def run (s : LockWorld) : Run := s.database.run

/-- A commit that is not one of a session. -/
def withRun (s : LockWorld) (run : Run) : LockWorld :=
  { s with database := { s.database with run := run } }

/-- What a request that is executed alone finds. -/
def queueWorld (s : LockWorld) : QueueWorld where
  run := some s.run
  lock := s.lock.isSome
  jobs := s.jobs.map WorkedJob.record
  chunks := s.chunks
  settings := s.settings

/-- Where the worker of a job is. -/
def worker (s : LockWorld) (i : ℕ) : WorkerPoint :=
  (s.jobs[i]?.map WorkedJob.worker).getD .idle

/-- Another state of a job. -/
def setJob (s : LockWorld) (i : ℕ) (job : WorkedJob) : LockWorld :=
  { s with jobs := s.jobs.set i job }

/-- Another lock key. -/
def setLock (s : LockWorld) (lock : Option ℕ) : LockWorld := { s with lock := lock }

/-- A job is pushed. -/
def push (s : LockWorld) (record : RqJob) : LockWorld :=
  { s with jobs := s.jobs ++ [.waiting record] }

/-- Whether the worker of a job is between its setting and its deletion of the key. -/
def holds (s : LockWorld) (i : ℕ) : Bool :=
  s.worker i = .inside || s.worker i = .leaving

/-! ### Jobs -/

/-- `enqueue_full_benchmark_run` in `POST /runs`. -/
def post (s : LockWorld) (documentId : Option ℕ) (jobId : ℕ) (now : ℚ) : RedisReply → LockWorld
  | .ok => s.push (fullRunJob jobId s.run.id documentId now)
  | .error applied =>
      let s := if applied then s.push (fullRunJob jobId s.run.id documentId now) else s
      { s with failedPosts := s.failedPosts + 1 }

/-- `redis.set(key, b"1", nx=True, ex=LOCK_TTL_SEC)`: the worker enters the pipeline
when it has set the key, and returns when the key was there.  An error it does not
survive, although the key may be set. -/
def acquire (s : LockWorld) (i : ℕ) (job : WorkedJob) (h : job.worker ≠ .idle) :
    RedisReply → LockWorld
  | .ok =>
      match s.lock with
      | none => (s.setLock (some i)).setJob i (job.moved .inside h)
      | some _ => s.setJob i job.left
  | .error applied =>
      (if applied && s.lock.isNone then s.setLock (some i) else s).setJob i job.left

/-- The `finally`: `redis.delete(key)`, an error of which is only logged. -/
def release (s : LockWorld) (i : ℕ) (job : WorkedJob) : RedisReply → LockWorld
  | .ok => (s.setLock none).setJob i job.left
  | .error applied => (if applied then s.setLock none else s).setJob i job.left

/-! ### Requests -/

/-- What lets a request through after it loaded the run and its rows. -/
def admits (s : LockWorld) : RequestKind → Bool
  | .requeue =>
      match structuralRequeueEligibility s.run with
      | .ok (eligible, _) => eligible
      | .error _ => false
  | .queueStatus =>
      match scalarOneOrNone s.run.generationResults, scalarOneOrNone s.run.evaluationResults with
      | .ok generation, .ok evaluation =>
          inferPipelineHeuristicVsFull generation evaluation = "full"
      | _, _ => false

/-- The commit of the resumable status: by the rows as they are committed now, over
the status as it is committed now. -/
def resume (s : LockWorld) (loaded : Run) : LockWorld :=
  if loaded.status = .failed then
    s.withRun (normalizeFailedRunForResume { s.run with status := .failed })
  else s

/-- What a request does in one step, and what it does next; `none` when it has
ended. -/
def plan (s : LockWorld) (request : Request) : RequestEffect × Option RequestPoint :=
  match request.point with
  | .scanning =>
      match scanPrimaryJob request.call (s.jobs.map WorkedJob.record) with
      | .error _ => (.nothing, none)
      | .ok primary => (.nothing, some (.checkingStale primary))
  | .checkingStale primary =>
      if lockLooksStale request.loaded.status primary then
        match request.call.staleExists with
        | .error _ => (.nothing, none)
        | .ok => (.nothing, some (if s.lock.isSome then .deleting else .checkingLock))
      else (.nothing, some .checkingLock)
  | .deleting =>
      match request.call.staleDelete with
      | .error applied => (if applied then .deleteKey else .nothing, none)
      | .ok => (.deleteKey, some .checkingLock)
  | .checkingLock =>
      match request.kind with
      | .queueStatus => (.nothing, none)
      | .requeue =>
          match s.settings.requireLlmApiKeyForFullMode, request.call.lockExists with
          | .ok (), .ok => (.nothing, if s.lock.isSome then none else some .resuming)
          | _, _ => (.nothing, none)
  | .resuming => (.resume request.loaded, some .enqueueing)
  | .enqueueing =>
      let documentId := inferDocumentIdForFullRun s.chunks s.run
      let job := fullRunJob request.call.jobId request.call.runId documentId request.call.now
      match request.call.enqueue with
      | .ok => (.push job, none)
      | .error applied => (if applied then .push job else .nothing, none)

/-- The world after it. -/
def perform (s : LockWorld) : RequestEffect → LockWorld
  | .nothing => s
  | .deleteKey => s.setLock none
  | .resume loaded => s.resume loaded
  | .push record => s.push record

/-- One step of the request at a place in the list. -/
def advanceAt (s : LockWorld) (j : ℕ) (request : Request) : LockWorld :=
  { s.perform (s.plan request).1 with
    requests :=
      match (s.plan request).2 with
      | some point => s.requests.set j { request with point := point }
      | none => s.requests.eraseIdx j }

/-! ### All steps -/

/-- Whether a session may be opened: a phase and its failure marking belong to a
worker inside the pipeline. -/
def allows (s : LockWorld) : SessionAction → Bool
  | .start (.phase _ _ _ _) => s.jobs.any fun job => job.worker = .inside
  | .start .markSafe => s.jobs.any fun job => job.worker = .inside
  | _ => true

/-- One step. -/
def step (s : LockWorld) : LockAction → Option LockWorld
  | .post documentId jobId now reply => some (s.post documentId jobId now reply)
  | .handleEnqueueFailure error requestId =>
      if 0 < s.failedPosts then
        some { s.withRun (s.run.apply (enqueueFailureChanges s.run error requestId)) with
          failedPosts := s.failedPosts - 1 }
      else none
  | .take i now =>
      s.jobs[i]?.bind fun job =>
        if job.worker = .idle ∧ job.record.status = .queued then
          some (s.setJob i (job.taken now))
        else none
  | .acquire i reply =>
      s.jobs[i]?.bind fun job =>
        if h : job.worker = .starting then
          some (s.acquire i job (by rw [h]; exact WorkerPoint.noConfusion) reply)
        else none
  | .leave i =>
      s.jobs[i]?.bind fun job =>
        if h : job.worker = .inside then
          some (s.setJob i (job.moved .leaving (by rw [h]; exact WorkerPoint.noConfusion)))
        else none
  | .release i reply =>
      s.jobs[i]?.bind fun job =>
        if job.worker = .leaving then some (s.release i job reply) else none
  | .die i => s.jobs[i]?.map fun job => s.setJob i job.left
  | .record i record =>
      s.jobs[i]?.bind fun job =>
        if job.worker = .idle ∧ record.status ≠ .started ∧ record.id = job.record.id ∧
            record.runIdArg = job.record.runIdArg ∧
            record.documentId = job.record.documentId then
          some (s.setJob i (.waiting record))
        else none
  | .expire => s.lock.bind fun i => if s.holds i then none else some (s.setLock none)
  | .session action =>
      if s.allows action then
        (s.database.step action).map fun database => { s with database := database }
      else none
  | .request kind call =>
      if s.admits kind ∧ call.runId = s.run.id then
        some { s with requests := s.requests ++
          [{ kind := kind, call := call, loaded := s.run, point := .scanning }] }
      else none
  | .advance j =>
      match s.requests[j]? with
      | some request => some (s.advanceAt j request)
      | none => some s

end LockWorld

/-- The world of a run as a system. -/
def lockSystem : LabelledSystem LockWorld LockAction where
  step := LockWorld.step

/-! ## What is claimed of the lock -/

/-- At most one worker is inside the pipeline. -/
def LockWorld.AtMostOneInside (s : LockWorld) : Prop :=
  ∀ i j, s.worker i = .inside → s.worker j = .inside → i = j

/-- The key that a worker set which is inside the pipeline before a step is there
after it. -/
def LockWorld.KeepsLiveKey (s t : LockWorld) : Prop :=
  ∀ i, s.lock = some i → s.worker i = .inside → t.lock = some i

/-- The step deletes the key for a request that takes it for a stale one. -/
def LockAction.ClearsStale (s : LockWorld) : LockAction → Prop
  | .advance j => ∃ request, s.requests[j]? = some request ∧ request.point = .deleting ∧
      request.call.staleDelete ≠ .error false
  | _ => False

/-- The guard: when a request deletes the key, the job whose worker set it is not
`started` any more. -/
def LockAction.Guarded (s : LockWorld) (a : LockAction) : Prop :=
  a.ClearsStale s → ∀ i job, s.lock = some i → s.jobs[i]? = some job →
    job.record.status ≠ .started

/-! ## One step -/

section

variable {s t : LockWorld} {stale : Prop}

@[simp] theorem LockWorld.worker_push (record : RqJob) (j : ℕ) :
    (s.push record).worker j = s.worker j := by
  unfold LockWorld.worker LockWorld.push
  rcases lt_trichotomy j s.jobs.length with h | h | h
  · rw [List.getElem?_append_left h]
  · subst h
    simp [WorkedJob.waiting]
  · rw [List.getElem?_eq_none (by simp; omega), List.getElem?_eq_none h.le]

theorem LockWorld.worker_of_getElem? {i : ℕ} {job : WorkedJob} (h : s.jobs[i]? = some job) :
    s.worker i = job.worker := by
  rw [LockWorld.worker, h]
  rfl

theorem LockWorld.worker_setJob {i : ℕ} {job job' : WorkedJob} (h : s.jobs[i]? = some job)
    (j : ℕ) : (s.setJob i job').worker j = if i = j then job'.worker else s.worker j := by
  have hlt : i < s.jobs.length := by
    by_contra hge
    rw [List.getElem?_eq_none (not_lt.mp hge)] at h
    cases h
  unfold LockWorld.worker LockWorld.setJob
  rw [List.getElem?_set]
  split_ifs <;> simp_all

/-- A worker that holds the lock has a job that RQ knows as started. -/
theorem LockWorld.started_of_holds {i : ℕ} (h : s.holds i = true) :
    ∃ job, s.jobs[i]? = some job ∧ job.record.status = .started := by
  cases hjob : s.jobs[i]? with
  | none => simp [LockWorld.holds, LockWorld.worker, hjob] at h
  | some job =>
      refine ⟨job, rfl, job.truthful ?_⟩
      rw [LockWorld.holds, LockWorld.worker_of_getElem? hjob] at h
      intro hidle
      simp [hidle] at h

/-- A job whose worker is, afterwards, outside the lock. -/
theorem LockWorld.holds_setJob {i j : ℕ} {job job' : WorkedJob} (h : s.jobs[i]? = some job)
    (hout : job'.worker = .idle ∨ job'.worker = .starting) :
    (s.setJob i job').holds j = true → s.holds j = true ∧ j ≠ i := by
  unfold LockWorld.holds
  rw [LockWorld.worker_setJob h]
  by_cases hij : i = j
  · rcases hout with hout | hout <;> simp [hij, hout]
  · simp only [hij, if_false]
    exact fun hj => ⟨hj, fun heq => hij heq.symm⟩

@[simp] theorem LockWorld.worker_resume (loaded : Run) (j : ℕ) :
    (s.resume loaded).worker j = s.worker j := by
  unfold LockWorld.resume
  split_ifs <;> rfl

@[simp] theorem LockWorld.lock_resume (loaded : Run) : (s.resume loaded).lock = s.lock := by
  unfold LockWorld.resume
  split_ifs <;> rfl

/-- A request deletes the key only as a stale one. -/
theorem LockWorld.deleting_of_plan {request : Request}
    (h : (s.plan request).1 = .deleteKey) :
    request.point = .deleting ∧ request.call.staleDelete ≠ .error false := by
  obtain ⟨kind, call, loaded, point⟩ := request
  cases point with
  | deleting =>
      refine ⟨rfl, fun hreply => ?_⟩
      have hreply : call.staleDelete = .error false := hreply
      simp only [LockWorld.plan, hreply] at h
      cases h
  | scanning =>
      simp only [LockWorld.plan] at h
      split at h <;> cases h
  | checkingStale primary =>
      simp only [LockWorld.plan] at h
      split_ifs at h <;> split at h <;> cases h
  | checkingLock =>
      simp only [LockWorld.plan] at h
      split at h
      · cases h
      · split at h <;> cases h
  | resuming => cases h
  | enqueueing =>
      simp only [LockWorld.plan] at h
      split at h
      · cases h
      · split_ifs at h

theorem LockWorld.holds_congr (h : ∀ j, t.worker j = s.worker j) (j : ℕ) :
    t.holds j = s.holds j := by
  rw [LockWorld.holds, LockWorld.holds, h j]

/-- What a step can do to the lock: leave the key, set it for a worker that then is
inside, delete it for one that leaves, or clear it, for a request (`stale`) or when
its setter does not hold the lock any more.  No other worker gets to hold the lock. -/
inductive LockWorld.Effect (stale : Prop) (s t : LockWorld) : Prop
  | keep (hlock : t.lock = s.lock) (hholds : ∀ j, t.holds j = true → s.holds j = true)
  | set (i : ℕ) (habsent : s.lock = none) (hlock : t.lock = some i)
      (hholds : ∀ j, t.holds j = true → j = i ∨ s.holds j = true)
  | release (i : ℕ) (hleaving : s.worker i = .leaving) (hlock : t.lock = none)
      (hholds : ∀ j, t.holds j = true → s.holds j = true ∧ j ≠ i)
  | clear (hwhy : stale ∨ ∀ i, s.lock = some i → s.holds i = false) (hlock : t.lock = none)
      (hholds : ∀ j, t.holds j = true → s.holds j = true)

/-- A step that changes neither the key nor a worker. -/
theorem LockWorld.Effect.frame (hlock : t.lock = s.lock) (hworker : ∀ j, t.worker j = s.worker j) :
    LockWorld.Effect stale s t :=
  .keep hlock fun j hj => by rwa [LockWorld.holds_congr hworker] at hj

/-- A step after which the worker of one job is outside the lock. -/
theorem LockWorld.Effect.outside {i : ℕ} {job job' : WorkedJob} (h : s.jobs[i]? = some job)
    (hout : job'.worker = .idle ∨ job'.worker = .starting) :
    LockWorld.Effect stale s (s.setJob i job') :=
  .keep rfl fun _ hj => (LockWorld.holds_setJob h hout hj).1

/-- The effect of `SET NX`. -/
theorem LockWorld.effect_acquire {i : ℕ} {job : WorkedJob} (hjob : s.jobs[i]? = some job)
    (hworker : job.worker ≠ .idle) (reply : RedisReply) :
    LockWorld.Effect stale s (s.acquire i job hworker reply) := by
  have hleft : ∀ j, (s.setJob i job.left).holds j = true → s.holds j = true :=
    fun j hj => (LockWorld.holds_setJob hjob (Or.inl rfl) hj).1
  cases reply with
  | ok =>
      cases hlock : s.lock with
      | none =>
          have heq : s.acquire i job hworker .ok =
              (s.setLock (some i)).setJob i (job.moved .inside hworker) := by
            simp only [LockWorld.acquire, hlock]
          rw [heq]
          refine .set i hlock rfl fun j hj => ?_
          have hworker' : ((s.setLock (some i)).setJob i (job.moved .inside hworker)).worker j =
              if i = j then .inside else s.worker j :=
            LockWorld.worker_setJob (s := s.setLock (some i)) hjob j
          rw [LockWorld.holds, hworker'] at hj
          by_cases hij : i = j
          · exact Or.inl hij.symm
          · rw [if_neg hij] at hj
            exact Or.inr hj
      | some k =>
          have heq : s.acquire i job hworker .ok = s.setJob i job.left := by
            simp only [LockWorld.acquire, hlock]
          rw [heq]
          exact .outside hjob (Or.inl rfl)
  | error applied =>
      simp only [LockWorld.acquire]
      split_ifs with h
      · rw [Bool.and_eq_true, Option.isNone_iff_eq_none] at h
        exact .set i h.2 rfl fun j hj => Or.inr (hleft j hj)
      · exact .outside hjob (Or.inl rfl)

/-- The effect of the `finally`. -/
theorem LockWorld.effect_release {i : ℕ} {job : WorkedJob} (hjob : s.jobs[i]? = some job)
    (hleaving : job.worker = .leaving) (reply : RedisReply) :
    LockWorld.Effect stale s (s.release i job reply) := by
  have hworker : s.worker i = .leaving := (LockWorld.worker_of_getElem? hjob).trans hleaving
  have hdeleted : LockWorld.Effect stale s ((s.setLock none).setJob i job.left) :=
    .release i hworker rfl fun j hj =>
      LockWorld.holds_setJob (s := s) hjob (Or.inl rfl) hj
  cases reply with
  | ok => exact hdeleted
  | error applied =>
      simp only [LockWorld.release]
      split_ifs
      · exact hdeleted
      · exact .outside hjob (Or.inl rfl)

/-- **Every step has such an effect.** -/
theorem LockWorld.effect_of_step {a : LockAction} (h : s.step a = some t) :
    LockWorld.Effect (a.ClearsStale s) s t := by
  cases a with
  | post documentId jobId now reply =>
      cases h
      cases reply with
      | ok => exact .frame rfl (LockWorld.worker_push _)
      | error applied =>
          cases applied with
          | true => exact .frame rfl (LockWorld.worker_push _)
          | false => exact .frame rfl fun _ => rfl
  | handleEnqueueFailure error requestId =>
      simp only [LockWorld.step] at h
      split_ifs at h
      cases h
      exact .frame rfl fun _ => rfl
  | take i now =>
      obtain ⟨job, hjob, h⟩ := Option.bind_eq_some_iff.mp h
      split_ifs at h
      cases h
      exact .outside hjob (Or.inr rfl)
  | acquire i reply =>
      obtain ⟨job, hjob, h⟩ := Option.bind_eq_some_iff.mp h
      split_ifs at h
      cases h
      exact LockWorld.effect_acquire hjob _ reply
  | leave i =>
      obtain ⟨job, hjob, h⟩ := Option.bind_eq_some_iff.mp h
      split_ifs at h with hinside
      cases h
      refine .keep rfl fun j hj => ?_
      rw [LockWorld.holds, LockWorld.worker_setJob hjob] at hj
      by_cases hij : i = j
      · subst hij
        rw [LockWorld.holds, LockWorld.worker_of_getElem? hjob, hinside]
        rfl
      · rwa [if_neg hij] at hj
  | release i reply =>
      obtain ⟨job, hjob, h⟩ := Option.bind_eq_some_iff.mp h
      split_ifs at h with hleaving
      cases h
      exact LockWorld.effect_release hjob hleaving reply
  | die i =>
      obtain ⟨job, hjob, rfl⟩ := Option.map_eq_some_iff.mp h
      exact .outside hjob (Or.inl rfl)
  | record i record =>
      obtain ⟨job, hjob, h⟩ := Option.bind_eq_some_iff.mp h
      split_ifs at h
      cases h
      exact .outside hjob (Or.inl rfl)
  | expire =>
      obtain ⟨i, hlock, h⟩ := Option.bind_eq_some_iff.mp h
      split_ifs at h with hholds
      cases h
      refine .clear (Or.inr fun i' hlock' => ?_) rfl fun j hj => hj
      rw [hlock, Option.some.injEq] at hlock'
      rw [← hlock']
      simpa using hholds
  | session action =>
      simp only [LockWorld.step] at h
      split_ifs at h
      obtain ⟨database, -, rfl⟩ := Option.map_eq_some_iff.mp h
      exact .frame rfl fun _ => rfl
  | request kind call =>
      simp only [LockWorld.step] at h
      split_ifs at h
      cases h
      exact .frame rfl fun _ => rfl
  | advance j =>
      simp only [LockWorld.step] at h
      split at h
      · rename_i request hrequest
        cases h
        unfold LockWorld.advanceAt
        cases heffect : (s.plan request).1 with
        | nothing => exact .frame rfl fun _ => rfl
        | deleteKey =>
            obtain ⟨hpoint, hreply⟩ := LockWorld.deleting_of_plan heffect
            exact .clear (Or.inl ⟨request, hrequest, hpoint, hreply⟩) rfl fun i hi => hi
        | resume loaded => exact .frame (s.lock_resume loaded) (s.worker_resume loaded)
        | push record => exact .frame rfl (LockWorld.worker_push record)
      · cases h
        exact .frame rfl fun _ => rfl

/-! ## The lock of the world as a key lock -/

/-- What the world is to its lock: the key, and the workers between their setting and
their deletion of it. -/
def LockWorld.keyLock (s : LockWorld) : KeyLock ℕ where
  key := s.lock
  holders := {i | s.holds i = true}

/-- **The workers refine the key lock**, as long as the guard is met. -/
theorem LockWorld.keyLock_step {a : LockAction} (hguard : a.Guarded s) (h : s.step a = some t) :
    KeyLock.Step s.keyLock t.keyLock := by
  cases LockWorld.effect_of_step h with
  | keep hlock hholds => exact .keep hlock hholds
  | set i habsent hlock hholds => exact .acquire i habsent hlock hholds
  | release i hleaving hlock hholds =>
      have hi : s.holds i = true := by
        rw [LockWorld.holds, hleaving]
        rfl
      exact .release i hi hlock hholds
  | clear hwhy hlock hholds =>
      refine .clear (fun i hi hold => ?_) hlock hholds
      rcases hwhy with hstale | hdead
      · -- The setter holds the lock, so RQ has its job as started.
        obtain ⟨job, hjob, hstarted⟩ := LockWorld.started_of_holds hold
        exact hguard hstale i job hi hjob hstarted
      · exact Bool.noConfusion ((hdead i hi).symm.trans hold)

theorem LockWorld.atMostOneInside_of_sound (h : s.keyLock.Sound) : s.AtMostOneInside := by
  intro i j hi hj
  have hholds : ∀ k, s.worker k = .inside → k ∈ s.keyLock.holders := by
    intro k hk
    show s.holds k = true
    rw [LockWorld.holds, hk]
    rfl
  exact h.subsingleton (hholds i hi) (hholds j hj)

/-- A guarded step leaves the key of a worker that is inside. -/
theorem LockWorld.keepsLiveKey_of_step {a : LockAction} (hsound : s.keyLock.Sound)
    (hguard : a.Guarded s) (h : s.step a = some t) : s.KeepsLiveKey t := by
  intro i hlock hinside
  have hi : s.holds i = true := by
    rw [LockWorld.holds, hinside]
    rfl
  cases LockWorld.effect_of_step h with
  | keep hkept hholds => rw [hkept, hlock]
  | set j habsent hset hholds =>
      rw [hlock] at habsent
      cases habsent
  | release j hleaving hdeleted hholds =>
      -- The worker that leaves holds the lock, so it is the one inside.
      have hj : s.holds j = true := by
        rw [LockWorld.holds, hleaving]
        rfl
      rw [hsound.subsingleton hi hj, hleaving] at hinside
      cases hinside
  | clear hwhy hdeleted hholds =>
      rcases hwhy with hstale | hdead
      · obtain ⟨job, hjob, hstarted⟩ := LockWorld.started_of_holds hi
        exact absurd hstarted (hguard hstale i job hlock hjob)
      · exact Bool.noConfusion ((hdead i hlock).symm.trans hi)

end

/-! ## Whole runs -/

theorem LockWorld.keyLock_created (run : Run) (chunks : List Chunk) (settings : Settings) :
    (LockWorld.created run chunks settings).keyLock.Sound := by
  intro i hi
  have hnone : (LockWorld.created run chunks settings).holds i = false := rfl
  exact Bool.noConfusion (hnone.symm.trans hi)

/-- **What the lock protects.**  In every interleaving in which no request deletes the
key while the job whose worker set it is `started`, at most one worker is inside the
pipeline in every state, and no step deletes the key of a worker that is inside. -/
theorem worker_lock_protects {run : Run} {chunks : List Chunk} {settings : Settings}
    {actions : List LockAction}
    (hguard : lockSystem.Meets (fun s a => a.Guarded s)
      (LockWorld.created run chunks settings) actions) :
    (∀ s, lockSystem.Visits (LockWorld.created run chunks settings) actions s →
        s.AtMostOneInside) ∧
      ∀ before a after s t, actions = before ++ a :: after →
        lockSystem.exec (LockWorld.created run chunks settings) before = some s →
        lockSystem.step s a = some t → s.KeepsLiveKey t := by
  have hstep : ∀ s a t, s.keyLock.Sound → a.Guarded s → lockSystem.step s a = some t →
      t.keyLock.Sound := fun s a t hs hg h => hs.step (LockWorld.keyLock_step hg h)
  have hcreated := LockWorld.keyLock_created run chunks settings
  constructor
  · intro s hvisit
    exact LockWorld.atMostOneInside_of_sound
      (LabelledSystem.visits_invariant hstep hcreated hguard hvisit)
  · rintro before a after s t rfl hbefore h
    have hsound : s.keyLock.Sound := LabelledSystem.exec_invariant hstep hcreated
      (hguard.of_prefix (List.prefix_append before (a :: after))) hbefore
    exact LockWorld.keepsLiveKey_of_step hsound (hguard.guard hbefore) h

/-! ## Two runs -/

/-- A request all of whose Redis commands succeed. -/
def answeredCall (runId jobId : ℕ) (now : ℚ) : RequeueCall where
  runId := runId
  scan := .ok
  staleExists := .ok
  staleDelete := .ok
  lockExists := .ok
  enqueue := .ok
  jobId := jobId
  now := now

/-- What RQ records of a job that was stopped. -/
def stoppedJob (jobId runId : ℕ) (now : ℚ) : RqJob :=
  { fullRunJob jobId runId none now with status := .stopped, startedAt := some now }

/-- A new run that uses the default provider. -/
def createdWorld : LockWorld :=
  .created (createFullRun 1 .full none) oneChunkEnv.chunks openaiSettings

/-- The only worker is stopped inside the pipeline, and an inspection of the queue
clears its key. -/
def strandedKey : List LockAction :=
  [.post none 10 0 .ok, .take 0 0, .acquire 0 .ok, .die 0, .record 0 (stoppedJob 10 1 0),
    .request .queueStatus (answeredCall 1 0 0), .advance 0, .advance 0, .advance 0]

/-- While the first job is inside the pipeline, a second one, requeued before the
first was taken, is stopped before it reaches the lock.  An inspection of the queue
sees that newest job and clears the key, and a third job enters the pipeline. -/
def stoppedSecondJob : List LockAction :=
  [.post none 10 0 .ok,
    .request .requeue (answeredCall 1 11 1), .advance 0, .advance 0, .advance 0, .advance 0,
    .advance 0,
    .take 0 2, .acquire 0 .ok,
    .take 1 2, .die 1, .record 1 (stoppedJob 11 1 1),
    .request .queueStatus (answeredCall 1 0 0), .advance 0, .advance 0, .advance 0, .advance 0,
    .request .requeue (answeredCall 1 12 3), .advance 0, .advance 0, .advance 0, .advance 0,
    .advance 0,
    .take 2 4, .acquire 2 .ok]

/-- The clearing of a stranded key is guarded. -/
theorem worker_lock_protects_strandedKey :
    (∀ s, lockSystem.Visits createdWorld strandedKey s → s.AtMostOneInside) ∧
      ∀ before a after s t, strandedKey = before ++ a :: after →
        lockSystem.exec createdWorld before = some s →
        lockSystem.step s a = some t → s.KeepsLiveKey t := by
  have hother : ∀ (s : LockWorld) (a : LockAction), (∀ j, a ≠ .advance j) → a.Guarded s := by
    intro s a ha hstale
    cases a with
    | advance j => exact absurd rfl (ha j)
    | _ => exact hstale.elim
  have hreads : ∀ (s : LockWorld) (j : ℕ) (request : Request), s.requests[j]? = some request →
      request.point ≠ .deleting → (LockAction.advance j).Guarded s := by
    rintro s j request hrequest hpoint ⟨request', hrequest', hdeleting, -⟩
    rw [hrequest, Option.some.injEq] at hrequest'
    rw [hrequest'] at hpoint
    exact absurd hdeleting hpoint
  refine worker_lock_protects ?_
  refine .cons (hother _ _ (by simp)) rfl (.cons (hother _ _ (by simp)) rfl
    (.cons (hother _ _ (by simp)) rfl (.cons (hother _ _ (by simp)) rfl
      (.cons (hother _ _ (by simp)) rfl (.cons (hother _ _ (by simp)) rfl
        (.cons (hreads _ 0 _ rfl (by simp)) rfl (.cons (hreads _ 0 _ rfl (by simp)) rfl
          (.cons ?_ rfl trivial))))))))
  -- RQ has the job whose worker set the key as stopped.
  intro _ i job hi hjob
  cases hi
  cases hjob
  decide

/-- Two workers are inside the pipeline. -/
theorem second_worker_enters :
    ¬∀ (id : ℕ) (mode : FullEvalMode) (requestId : Option String) (chunks : List Chunk)
      (settings : Settings) (actions : List LockAction),
      (∀ s, lockSystem.Visits (.created (createFullRun id mode requestId) chunks settings)
          actions s → s.AtMostOneInside) ∧
        ∀ before a after s t, actions = before ++ a :: after →
          lockSystem.exec (.created (createFullRun id mode requestId) chunks settings) before =
            some s →
          lockSystem.step s a = some t → s.KeepsLiveKey t := by
  intro h
  have hone := (h 1 .full none oneChunkEnv.chunks openaiSettings stoppedSecondJob).1 _
    ⟨stoppedSecondJob, List.prefix_refl _, rfl⟩
  have heq : 0 = 2 := hone 0 2 rfl rfl
  exact absurd heq (by decide)

end ContextLens
