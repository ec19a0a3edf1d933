import ContextLens.PipelineStages

/-!
# Concurrent sessions on one run

The phases of the pipeline and the two failure markings as sessions under READ
COMMITTED.  A session loads the run and looks at its status; later it does its
work, which may select rows as they are by then; later still it commits what it
has pending.  Any number of sessions may be open, and their steps interleave.

No session checks the status again when it commits.  What protects a completed
run is therefore not the status but the unique rows: a generation or a judge
phase that is still open when another one has completed the run fails on its
`INSERT`.  A retrieval phase and a failure marking insert nothing unique, and
their commit overwrites the status.  `Session.overwrites` is exactly that, and
`completed_stays_completed_iff` says that nothing else can undo a completion.
-/

namespace ContextLens

open Foundations

/-! ## Sessions -/

/-- What a session is for. -/
inductive SessionKind
  | phase (phase : Phase) (env : PipelineEnv) (documentId : Option ℕ) (elapsedMs : ℕ)
  | markSafe
  | markSync

/-- An open session: the run as it loaded it, and what it has pending once its work
is done. -/
structure Session where
  kind : SessionKind
  loaded : Run
  pending : Option PendingChanges

/-- The committed run and the open sessions. -/
structure SessionState where
  run : Run
  sessions : List Session

/-- A step of one session. -/
inductive SessionAction
  | start (kind : SessionKind)
  | work (session : ℕ)
  | commit (session : ℕ)
  | rollback (session : ℕ)

/-- Whether a session that loaded the run goes on: a phase when the run is in its
status, a marking unless the run is completed. -/
def SessionKind.goesOn (loaded : Run) : SessionKind → Bool
  | .phase p _ _ _ => loaded.status = p.prerequisite
  | .markSafe => loaded.status ≠ .completed
  | .markSync => loaded.status ≠ .completed

/-- What the work of a session leaves pending, given the rows committed by now. -/
def SessionKind.work (loaded committed : Run) : SessionKind → Except PyException PendingChanges
  | .phase p env documentId elapsedMs => p.execute env documentId elapsedMs loaded committed
  | .markSafe => .ok (markFailedChanges loaded)
  | .markSync => .ok (markFailedChanges loaded)

/-- A session ends without effect. -/
def SessionState.close (s : SessionState) (i : ℕ) : SessionState :=
  { s with sessions := s.sessions.eraseIdx i }

/-- One step.  A session that does not go on, whose work fails or whose commit is
refused is closed. -/
def SessionState.step (s : SessionState) : SessionAction → Option SessionState
  | .start kind =>
      if kind.goesOn s.run then
        some { s with sessions :=
          s.sessions ++ [{ kind := kind, loaded := s.run, pending := none }] }
      else some s
  | .work i =>
      match s.sessions[i]? with
      | some { kind := kind, loaded := loaded, pending := none } =>
          match kind.work loaded s.run with
          | .ok changes =>
              some { s with sessions :=
                s.sessions.set i { kind := kind, loaded := loaded, pending := some changes } }
          | .error _ => some (s.close i)
      | _ => none
  | .commit i =>
      match s.sessions[i]? with
      | some { kind := _, loaded := _, pending := some changes } =>
          match s.run.commit changes with
          | .ok run => some { s.close i with run := run }
          | .error _ => some (s.close i)
      | _ => none
  | .rollback i => if i < s.sessions.length then some (s.close i) else none

/-- The sessions as a system. -/
def sessionSystem : LabelledSystem SessionState SessionAction where
  step := SessionState.step

/-! ## Sessions that overwrite a completed run -/

/-- A session whose commit writes over a completed run: a retrieval phase, or a
marking that did not find the run failed already. -/
def Session.overwrites (session : Session) : Bool :=
  match session.kind with
  | .phase .retrieval _ _ _ => true
  | .phase _ _ _ _ => false
  | .markSafe => session.loaded.status ≠ .failed
  | .markSync => session.loaded.status ≠ .failed

/-- The guard: a session that overwrites does not commit while the run is
completed. -/
def SessionAction.Guarded (s : SessionState) : SessionAction → Prop
  | .commit i => s.run.status = .completed → ∀ session ∈ s.sessions[i]?,
      session.pending ≠ none → session.overwrites = false
  | _ => True

/-- What a session has pending, by its kind, and the rows this rests on. -/
def Session.Sound (run : Run) (session : Session) : Prop :=
  ∀ changes, session.pending = some changes →
    match session.kind with
    | .phase .retrieval _ _ _ =>
        changes.status = some .retrievalCompleted ∧ changes.generationResults = [] ∧
          changes.evaluationResults = []
    | .phase .generation _ _ _ =>
        changes.status = some .generationCompleted ∧ changes.generationResults ≠ [] ∧
          changes.evaluationResults = []
    | .phase .judge _ _ _ =>
        changes.status = some .completed ∧ changes.evaluationResults ≠ [] ∧
          run.generationResults ≠ []
    | .markSafe => changes = markFailedChanges session.loaded
    | .markSync => changes = markFailedChanges session.loaded

/-- What holds in every interleaving. -/
structure SessionState.Sound (s : SessionState) : Prop where
  went_on : ∀ session ∈ s.sessions, session.kind.goesOn session.loaded = true
  sound : ∀ session ∈ s.sessions, session.Sound s.run
  wellFormed : WellFormedRun s.run

/-! ## One step -/

section

variable {s t : SessionState}

/-- The work of a session is sound for its kind. -/
theorem sound_of_work {kind : SessionKind} {loaded committed : Run} {changes : PendingChanges}
    (h : kind.work loaded committed = .ok changes) :
    Session.Sound committed { kind := kind, loaded := loaded, pending := some changes } := by
  intro changes' hpending
  cases hpending
  cases kind with
  | phase p env documentId elapsedMs =>
      cases p with
      | retrieval =>
          rw [← Except.ok.inj h]
          exact ⟨rfl, rfl, rfl⟩
      | generation =>
          obtain ⟨-, -, -, rfl⟩ := PipelineEnv.executeGeneration_eq_ok h
          exact ⟨rfl, List.cons_ne_nil _ _, rfl⟩
      | judge =>
          obtain ⟨gen, -, hgen, -, rfl⟩ := PipelineEnv.executeLlmJudge_eq_ok h
          refine ⟨rfl, List.cons_ne_nil _ _, ?_⟩
          rw [hgen]
          exact List.cons_ne_nil gen []
  | markSafe => exact (Except.ok.inj h).symm
  | markSync => exact (Except.ok.inj h).symm

/-- Rows are never removed, so soundness lasts. -/
theorem Session.Sound.mono {run run' : Run} {session : Session} (h : session.Sound run)
    (hrows : run.generationResults ≠ [] → run'.generationResults ≠ []) :
    session.Sound run' := by
  intro changes hpending
  have hsound := h changes hpending
  obtain ⟨kind, loaded, pending⟩ := session
  cases kind with
  | phase p env documentId elapsedMs =>
      cases p with
      | retrieval => exact hsound
      | generation => exact hsound
      | judge => exact ⟨hsound.1, hsound.2.1, hrows hsound.2.2⟩
  | markSafe => exact hsound
  | markSync => exact hsound

theorem markFailedChanges_of_failed {loaded : Run} (h : loaded.status = .failed) :
    markFailedChanges loaded = {} := by
  simp [markFailedChanges, h]

/-- **A commit that undoes no completion.**  Of the sessions that do not overwrite, a
generation or judge phase is refused on a completed run, and a marking changes
nothing. -/
theorem completed_of_commit {session : Session} {changes : PendingChanges} {run run' : Run}
    (hsound : session.Sound run) (hpending : session.pending = some changes)
    (hcommit : run.commit changes = .ok run') (hcompleted : run.status = .completed)
    (hrows : run.generationResults ≠ [] ∧ run.evaluationResults ≠ [])
    (hoverwrites : session.overwrites = false) : run'.status = .completed := by
  have hchanges := hsound changes hpending
  obtain ⟨kind, loaded, pending⟩ := session
  have hmarking : changes = markFailedChanges loaded → loaded.status = .failed →
      run'.status = .completed := by
    intro hmark hfailed
    rw [Run.commit_eq_ok hcommit, hmark, markFailedChanges_of_failed hfailed, Run.apply_empty,
      hcompleted]
  cases kind with
  | phase p env documentId elapsedMs =>
      cases p with
      | retrieval => exact Bool.noConfusion hoverwrites
      -- A completed run has its unique rows, and they refuse another one.
      | generation =>
          exact absurd (Run.generationResults_eq_nil_of_commit hcommit hchanges.2.1) hrows.1
      | judge =>
          exact absurd (Run.evaluationResults_eq_nil_of_commit hcommit hchanges.2.1) hrows.2
  | markSafe => exact hmarking hchanges (by simpa [Session.overwrites] using hoverwrites)
  | markSync => exact hmarking hchanges (by simpa [Session.overwrites] using hoverwrites)

/-- **A commit that undoes a completion.**  What overwrites adds no unique row, so it
is not refused, and it moves the status. -/
theorem undone_of_commit {session : Session} {changes : PendingChanges} {run : Run}
    (hgoes : session.kind.goesOn session.loaded = true) (hsound : session.Sound run)
    (hpending : session.pending = some changes) (hoverwrites : session.overwrites = true) :
    run.commit changes = .ok (run.apply changes) ∧ (run.apply changes).status ≠ .completed := by
  have hchanges := hsound changes hpending
  obtain ⟨kind, loaded, pending⟩ := session
  have hmarking : changes = markFailedChanges loaded → loaded.status ≠ .completed →
      loaded.status ≠ .failed → changes = { status := some .failed } := by
    intro hmark hopen hfailed
    rw [hmark, markFailedChanges, if_neg (not_or.mpr ⟨hopen, hfailed⟩)]
  cases kind with
  | phase p env documentId elapsedMs =>
      cases p with
      | retrieval =>
          obtain ⟨hstatus, hgeneration, hevaluation⟩ := hchanges
          refine ⟨Run.commit_of_no_rows run hgeneration hevaluation, ?_⟩
          rw [Run.apply_status, hstatus]
          exact RunStatus.noConfusion
      | generation => exact Bool.noConfusion hoverwrites
      | judge => exact Bool.noConfusion hoverwrites
  | markSafe =>
      rw [hmarking hchanges (of_decide_eq_true hgoes) (of_decide_eq_true hoverwrites)]
      exact ⟨Run.commit_of_no_rows run rfl rfl, RunStatus.noConfusion⟩
  | markSync =>
      rw [hmarking hchanges (of_decide_eq_true hgoes) (of_decide_eq_true hoverwrites)]
      exact ⟨Run.commit_of_no_rows run rfl rfl, RunStatus.noConfusion⟩

/-- The commit of a session keeps the run well formed. -/
theorem WellFormedRun.commit {session : Session} {changes : PendingChanges} {run run' : Run}
    (h : WellFormedRun run) (hsound : session.Sound run)
    (hpending : session.pending = some changes) (hcommit : run.commit changes = .ok run') :
    WellFormedRun run' := by
  have hchanges := hsound changes hpending
  have hunique := Run.commit_length_le_one hcommit h.generation_unique h.evaluation_unique
  have happly := Run.commit_eq_ok hcommit
  obtain ⟨kind, loaded, pending⟩ := session
  have hmarking : changes = markFailedChanges loaded → WellFormedRun run' := by
    intro hmark
    rw [happly, hmark, markFailedChanges]
    split_ifs
    · rw [Run.apply_empty]
      exact h
    · have hfailed : run.apply { status := some .failed } = { run with status := .failed } := by
        simp [Run.apply]
      rw [hfailed]
      exact h.of_status (by decide) run.metadataJson
  have hstatus : ∀ status, changes.status = some status → run'.status = status := by
    intro status hmoved
    rw [happly, Run.apply_status, hmoved]
    rfl
  cases kind with
  | phase p env documentId elapsedMs =>
      cases p with
      | retrieval =>
          obtain ⟨hmoved, hgeneration, hevaluation⟩ := hchanges
          refine ⟨hunique.1, hunique.2, ?_, ?_, ?_⟩
          · rw [hstatus _ hmoved]
            exact RunStatus.noConfusion
          · rw [hstatus _ hmoved]
            exact RunStatus.noConfusion
          · rw [happly]
            simpa [Run.apply, hgeneration, hevaluation] using h.evaluation_generated
      | generation =>
          obtain ⟨hmoved, hgeneration, hevaluation⟩ := hchanges
          refine ⟨hunique.1, hunique.2, ?_, ?_, ?_⟩
          · rw [hstatus _ hmoved]
            exact RunStatus.noConfusion
          · rw [hstatus _ hmoved]
            exact RunStatus.noConfusion
          · rw [happly]
            simp [Run.apply, hgeneration]
      | judge =>
          obtain ⟨hmoved, hevaluation, hgenerated⟩ := hchanges
          refine ⟨hunique.1, hunique.2, ?_, fun _ => ?_, fun _ => ?_⟩
          · rw [hstatus _ hmoved]
            exact RunStatus.noConfusion
          · rw [happly]
            simp [Run.apply, hevaluation, hgenerated]
          · rw [happly]
            simp [Run.apply, hgenerated]
  | markSafe => exact hmarking hchanges
  | markSync => exact hmarking hchanges

/-- Rows grow with a commit. -/
theorem generationResults_ne_nil_of_commit {changes : PendingChanges} {run run' : Run}
    (hcommit : run.commit changes = .ok run') (h : run.generationResults ≠ []) :
    run'.generationResults ≠ [] := by
  rw [Run.commit_eq_ok hcommit]
  simp [Run.apply, h]

/-- What one step does: it opens a session that goes on, records the work of one,
commits one, or closes one. -/
theorem SessionState.step_cases {a : SessionAction} (h : s.step a = some t) :
    t = s ∨
      (∃ kind, kind.goesOn s.run = true ∧
        t = { s with sessions :=
          s.sessions ++ [{ kind := kind, loaded := s.run, pending := none }] }) ∨
      (∃ i session changes, s.sessions[i]? = some session ∧
        session.kind.work session.loaded s.run = .ok changes ∧
        t = { s with sessions := s.sessions.set i { session with pending := some changes } }) ∨
      (∃ i session changes run, a = .commit i ∧ s.sessions[i]? = some session ∧
        session.pending = some changes ∧ s.run.commit changes = .ok run ∧
        t = { s.close i with run := run }) ∨
      ∃ i, t = s.close i := by
  cases a with
  | start kind =>
      simp only [SessionState.step] at h
      split at h
      · rename_i hgoes
        exact Or.inr (Or.inl ⟨kind, hgoes, (Option.some.inj h).symm⟩)
      · exact Or.inl (Option.some.inj h).symm
  | work i =>
      simp only [SessionState.step] at h
      split at h
      · rename_i kind loaded hi
        split at h
        · rename_i changes hwork
          exact Or.inr (Or.inr (Or.inl ⟨i, _, changes, hi, hwork, (Option.some.inj h).symm⟩))
        · exact Or.inr (Or.inr (Or.inr (Or.inr ⟨i, (Option.some.inj h).symm⟩)))
      · cases h
  | commit i =>
      simp only [SessionState.step] at h
      split at h
      · rename_i kind loaded changes hi
        split at h
        · rename_i run hcommit
          exact Or.inr (Or.inr (Or.inr (Or.inl
            ⟨i, _, changes, run, rfl, hi, rfl, hcommit, (Option.some.inj h).symm⟩)))
        · exact Or.inr (Or.inr (Or.inr (Or.inr ⟨i, (Option.some.inj h).symm⟩)))
      · cases h
  | rollback i =>
      simp only [SessionState.step] at h
      split at h
      · exact Or.inr (Or.inr (Or.inr (Or.inr ⟨i, (Option.some.inj h).symm⟩)))
      · cases h

/-- The step lemma of the invariant. -/
theorem SessionState.Sound.step {a : SessionAction} (h : s.Sound) (hstep : s.step a = some t) :
    t.Sound := by
  have hclosed : ∀ i, ∀ other ∈ (s.close i).sessions, other ∈ s.sessions :=
    fun i other hother => List.mem_of_mem_eraseIdx hother
  rcases SessionState.step_cases hstep with rfl | ⟨kind, hgoes, rfl⟩ |
    ⟨i, session, changes, hi, hwork, rfl⟩ |
    ⟨i, session, changes, run, rfl, hi, hpending, hcommit, rfl⟩ | ⟨i, rfl⟩
  · exact h
  · refine ⟨fun other hother => ?_, fun other hother => ?_, h.wellFormed⟩
    · rcases List.mem_append.mp hother with hother | hother
      · exact h.went_on other hother
      · rw [List.mem_singleton.mp hother]
        exact hgoes
    · rcases List.mem_append.mp hother with hother | hother
      · exact h.sound other hother
      · rw [List.mem_singleton.mp hother]
        intro changes hpending
        cases hpending
  · have hmem : session ∈ s.sessions := List.mem_of_getElem? hi
    refine ⟨fun other hother => ?_, fun other hother => ?_, h.wellFormed⟩
    · rcases List.mem_or_eq_of_mem_set hother with hother | rfl
      · exact h.went_on other hother
      · exact h.went_on session hmem
    · rcases List.mem_or_eq_of_mem_set hother with hother | rfl
      · exact h.sound other hother
      · exact sound_of_work hwork
  -- A commit adds rows, so what the other sessions rest on is still there.
  · have hmem : session ∈ s.sessions := List.mem_of_getElem? hi
    refine ⟨fun other hother => h.went_on other (hclosed i other hother),
      fun other hother => ?_, h.wellFormed.commit (h.sound session hmem) hpending hcommit⟩
    exact (h.sound other (hclosed i other hother)).mono
      (generationResults_ne_nil_of_commit hcommit)
  · exact ⟨fun other hother => h.went_on other (hclosed i other hother),
      fun other hother => h.sound other (hclosed i other hother), h.wellFormed⟩

/-- A guarded step leaves a completed run completed. -/
theorem SessionState.Sound.completed {a : SessionAction} (h : s.Sound)
    (hguard : a.Guarded s) (hstep : s.step a = some t) (hcompleted : s.run.status = .completed) :
    t.run.status = .completed := by
  rcases SessionState.step_cases hstep with rfl | ⟨kind, -, rfl⟩ |
    ⟨i, session, changes, -, -, rfl⟩ |
    ⟨i, session, changes, run, rfl, hi, hpending, hcommit, rfl⟩ | ⟨i, rfl⟩
  · exact hcompleted
  · exact hcompleted
  · exact hcompleted
  · have hmem : session ∈ s.sessions := List.mem_of_getElem? hi
    have hoverwrites := hguard hcompleted session hi (by rw [hpending]; simp)
    exact completed_of_commit (h.sound session hmem) hpending hcommit hcompleted
      (h.wellFormed.completed_rows hcompleted) hoverwrites
  · exact hcompleted

/-- A step that is not guarded is a commit, and it undoes the completion. -/
theorem SessionState.Sound.undone {a : SessionAction} (h : s.Sound) (hguard : ¬a.Guarded s) :
    s.run.status = .completed ∧ ∃ t, s.step a = some t ∧ t.run.status ≠ .completed := by
  cases a with
  | start kind => exact absurd trivial hguard
  | work i => exact absurd trivial hguard
  | rollback i => exact absurd trivial hguard
  | commit i =>
      simp only [SessionAction.Guarded, not_forall] at hguard
      obtain ⟨hcompleted, session, hi, hpending, hoverwrites⟩ := hguard
      obtain ⟨changes, hchanges⟩ := Option.ne_none_iff_exists'.mp hpending
      have hmem : session ∈ s.sessions := List.mem_of_getElem? hi
      have hoverwrites : session.overwrites = true := by simpa using hoverwrites
      obtain ⟨hcommit, hmoved⟩ := undone_of_commit (h.went_on session hmem)
        (h.sound session hmem) hchanges hoverwrites
      refine ⟨hcompleted, { s.close i with run := s.run.apply changes }, ?_, hmoved⟩
      obtain ⟨kind, loaded, pending⟩ := session
      cases hchanges
      simp only [SessionState.step, Option.mem_def.mp hi, hcommit]

end

/-! ## Whole runs -/

/-- The sessions start on a full run that none of them has loaded yet. -/
theorem sound_of_isFullRun {run : Run} (h : IsFullRun run) :
    SessionState.Sound { run := run, sessions := [] } :=
  ⟨by simp, by simp, h.wellFormed⟩

/-- **When a completed run stays completed**: in exactly those interleavings in
which no retrieval phase, and no marking that loaded the run not failed, commits
while the run is completed. -/
theorem completed_stays_completed_iff {run : Run} (hrun : IsFullRun run)
    (actions : List SessionAction) :
    sessionSystem.StableAlong (fun s => s.run.status = .completed)
        { run := run, sessions := [] } actions ↔
      sessionSystem.Meets (fun s a => a.Guarded s) { run := run, sessions := [] } actions := by
  refine LabelledSystem.stableAlong_iff_meets (I := fun s : SessionState => s.Sound)
    (fun s a t h hstep => SessionState.Sound.step h hstep)
    (fun s a t h hcompleted hstep => ⟨fun hstays => ?_, fun hguard => ?_⟩)
    (fun s a h hguard => ?_) (sound_of_isFullRun hrun)
  · by_contra hguard
    obtain ⟨-, t', ht', hundone⟩ := SessionState.Sound.undone h hguard
    rw [show s.step a = some t from hstep, Option.some.injEq] at ht'
    rw [← ht'] at hundone
    exact hundone hstays
  · exact SessionState.Sound.completed h hguard hstep hcompleted
  · obtain ⟨hcompleted, t, ht, -⟩ := SessionState.Sound.undone h hguard
    exact ⟨hcompleted, t, ht⟩

/-- A phase of a job with nothing special about it. -/
def plainPhase (p : Phase) : SessionKind := .phase p oneChunkEnv none 0

/-- A run is worked on to the end of its generation. -/
def generated : List SessionAction :=
  [.start (plainPhase .retrieval), .work 0, .commit 0,
    .start (plainPhase .generation), .work 0, .commit 0]

/-- A judge phase completes the run while a marking waits that loaded it before. -/
def judgedWhileMarking : List SessionAction :=
  generated ++ [.start (plainPhase .judge), .start .markSync, .work 0, .work 1, .commit 0]

/-- On a newly created run the marking must not commit then. -/
theorem completed_stays_completed_created :
    sessionSystem.StableAlong (fun s => s.run.status = .completed)
        { run := createFullRun 1 .full none, sessions := [] } (judgedWhileMarking ++ [.commit 0]) ↔
      sessionSystem.Meets (fun s a => a.Guarded s)
        { run := createFullRun 1 .full none, sessions := [] } (judgedWhileMarking ++ [.commit 0]) :=
  completed_stays_completed_iff (isFullRun_createFullRun 1 .full none) _

/-- The marking commits and undoes the completion. -/
theorem completed_run_marked_failed :
    ¬∀ (run : Run) (actions : List SessionAction), IsFullRun run →
      sessionSystem.StableAlong (fun s => s.run.status = .completed)
        { run := run, sessions := [] } actions := by
  intro h
  have hfailed := h (createFullRun 1 .full none) (judgedWhileMarking ++ [.commit 0])
    (isFullRun_createFullRun 1 .full none) judgedWhileMarking [.commit 0] _ _ (List.prefix_refl _)
    rfl rfl rfl
  exact absurd hfailed (by decide)

end ContextLens
