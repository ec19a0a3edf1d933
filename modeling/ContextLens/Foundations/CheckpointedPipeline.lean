import Mathlib.Data.List.Basic

/-!
# Pipelines that resume from their checkpoints

A pipeline is a list of stages.  A stage looks at the state to see whether it is
*due*; when it is, its body produces the next state or an error.  The pipeline
may be cut short between any two stages and started again from the state it left.

`Checkpointed` is the discipline that makes this harmless: a stage that went
through leaves neither itself nor any earlier stage due.  Then what is left to do
after a cut is what the uncut pipeline would have done next
(`runAll_of_cutShort`), and the state in which a pipeline ends does not depend on
how often it was cut (`conclude_of_interrupted`).

An error of a stage may be settled by moving the state (`settle`); a settled
state must be one from which nothing is due, or the state the error was met in.
-/

namespace Foundations

universe u v

variable {σ : Type u} {ε : Type v}

/-- A stage of a pipeline. -/
structure Stage (σ : Type u) (ε : Type v) where
  due : σ → Bool
  body : σ → Except ε σ

namespace Stage

/-- A stage that is not due is skipped. -/
def run (stage : Stage σ ε) (s : σ) : Except ε σ :=
  if stage.due s then stage.body s else .ok s

/-- The stages in order: the state reached, and the error that stopped them. -/
def runAll : List (Stage σ ε) → σ → σ × Option ε
  | [], s => (s, none)
  | stage :: rest, s =>
      match stage.run s with
      | .error e => (s, some e)
      | .ok t => runAll rest t

/-- No stage of the list is due. -/
def NoneDue (stages : List (Stage σ ε)) (s : σ) : Prop :=
  ∀ stage ∈ stages, stage.due s = false

/-- After the stages `past`, each of the `rest` leaves neither itself nor an earlier
stage due. -/
def CheckpointedAfter : List (Stage σ ε) → List (Stage σ ε) → Prop
  | _, [] => True
  | past, stage :: rest =>
      (∀ s t, NoneDue past s → stage.run s = .ok t → NoneDue (stage :: past) t) ∧
        CheckpointedAfter (stage :: past) rest

/-- The discipline for a whole pipeline. -/
def Checkpointed (stages : List (Stage σ ε)) : Prop := CheckpointedAfter [] stages

/-- Running the pipeline from `s` was cut short in `t`: some first stages went
through, and no more. -/
def CutShort (stages : List (Stage σ ε)) (s t : σ) : Prop :=
  ∃ before, before <+: stages ∧ runAll before s = (t, none)

theorem run_of_not_due {stage : Stage σ ε} {s : σ} (h : stage.due s = false) :
    stage.run s = .ok s := by
  simp [run, h]

/-- Stages that are not due do nothing. -/
theorem runAll_of_noneDue {stages : List (Stage σ ε)} {s : σ} (h : NoneDue stages s) :
    runAll stages s = (s, none) := by
  induction stages with
  | nil => rfl
  | cons stage rest ih =>
      rw [runAll, run_of_not_due (h stage List.mem_cons_self)]
      exact ih fun st hst => h st (List.mem_cons_of_mem stage hst)

/-- When the first stages go through, the rest starts where they ended. -/
theorem runAll_append {before after : List (Stage σ ε)} {s t : σ}
    (h : runAll before s = (t, none)) : runAll (before ++ after) s = runAll after t := by
  induction before generalizing s with
  | nil =>
      cases h
      rfl
  | cons stage rest ih =>
      rw [List.cons_append, runAll]
      rw [runAll] at h
      cases hstage : stage.run s with
      | error e =>
          rw [hstage] at h
          cases h
      | ok u =>
          rw [hstage] at h
          exact ih h

/-- Stages that went through are no longer due. -/
theorem noneDue_of_runAll {past before after : List (Stage σ ε)} {s t : σ}
    (hcheck : CheckpointedAfter past (before ++ after)) (hpast : NoneDue past s)
    (h : runAll before s = (t, none)) : NoneDue past t ∧ NoneDue before t := by
  -- Induction on the stages that went through; the one passed joins the `past`.
  induction before generalizing past s with
  | nil =>
      cases h
      exact ⟨hpast, by simp [NoneDue]⟩
  | cons stage rest ih =>
      rw [runAll] at h
      cases hstage : stage.run s with
      | error e =>
          rw [hstage] at h
          cases h
      | ok u =>
          rw [hstage] at h
          obtain ⟨hstep, hrest⟩ := hcheck
          obtain ⟨hdone, hrestDue⟩ := ih hrest (hstep s u hpast hstage) h
          refine ⟨fun st hst => hdone st (List.mem_cons_of_mem stage hst), ?_⟩
          intro st hst
          rcases List.mem_cons.mp hst with rfl | hst
          · exact hdone st List.mem_cons_self
          · exact hrestDue st hst

/-- **A cut leaves to do what the uncut pipeline would have done next.** -/
theorem runAll_of_cutShort {stages : List (Stage σ ε)} {s t : σ}
    (hcheck : Checkpointed stages) (h : CutShort stages s t) :
    runAll stages t = runAll stages s := by
  obtain ⟨before, ⟨after, rfl⟩, hrun⟩ := h
  have hdone : NoneDue before t :=
    (noneDue_of_runAll (show CheckpointedAfter [] (before ++ after) from hcheck)
      (by simp [NoneDue]) hrun).2
  -- Started again from the cut, the stages before it are skipped.
  rw [runAll_append hrun, runAll_append (runAll_of_noneDue hdone)]

/-- A pipeline that went through has nothing due. -/
theorem noneDue_of_complete {stages : List (Stage σ ε)} {s t : σ}
    (hcheck : Checkpointed stages) (h : runAll stages s = (t, none)) :
    NoneDue stages t := by
  have hcheck' : CheckpointedAfter [] (stages ++ []) := by rwa [List.append_nil]
  exact (noneDue_of_runAll hcheck' (by simp [NoneDue]) h).2

/-- The error of a stage was met after the stages before it went through. -/
theorem cutShort_of_error {stages : List (Stage σ ε)} {s t : σ} {e : ε}
    (h : runAll stages s = (t, some e)) : CutShort stages s t := by
  induction stages generalizing s with
  | nil => cases h
  | cons stage rest ih =>
      rw [runAll] at h
      cases hstage : stage.run s with
      | error e' =>
          rw [hstage] at h
          cases h
          exact ⟨[], List.nil_prefix, rfl⟩
      | ok u =>
          rw [hstage] at h
          obtain ⟨before, hpre, hrun⟩ := ih h
          refine ⟨stage :: before, List.cons_prefix_cons.mpr ⟨rfl, hpre⟩, ?_⟩
          rw [runAll, hstage]
          exact hrun

/-- The stage whose error stopped the pipeline fails on the state reached. -/
theorem exists_error_of_runAll {stages : List (Stage σ ε)} {s t : σ} {e : ε}
    (h : runAll stages s = (t, some e)) : ∃ stage ∈ stages, stage.run t = .error e := by
  induction stages generalizing s with
  | nil => cases h
  | cons stage rest ih =>
      rw [runAll] at h
      cases hstage : stage.run s with
      | error e' =>
          rw [hstage] at h
          cases h
          exact ⟨stage, List.mem_cons_self, hstage⟩
      | ok u =>
          rw [hstage] at h
          obtain ⟨failed, hmem, hfailed⟩ := ih h
          exact ⟨failed, List.mem_cons_of_mem stage hmem, hfailed⟩

/-- What every stage preserves, the pipeline preserves as far as it gets. -/
theorem runAll_invariant {I : σ → Prop} {stages : List (Stage σ ε)}
    (hstep : ∀ stage ∈ stages, ∀ s t, I s → stage.run s = .ok t → I t) {s t : σ}
    {error : Option ε} (hs : I s) (h : runAll stages s = (t, error)) : I t := by
  induction stages generalizing s with
  | nil =>
      cases h
      exact hs
  | cons stage rest ih =>
      rw [runAll] at h
      cases hstage : stage.run s with
      | error e =>
          rw [hstage] at h
          cases h
          exact hs
      | ok u =>
          rw [hstage] at h
          exact ih (fun st hst => hstep st (List.mem_cons_of_mem stage hst))
            (hstep stage List.mem_cons_self s u hs hstage) h

/-! ## Where a pipeline ends -/

section

variable (settle : σ → ε → σ)

/-- The state in which a pipeline ends, its error settled. -/
def conclude (stages : List (Stage σ ε)) (s : σ) : σ :=
  match runAll stages s with
  | (t, none) => t
  | (t, some e) => settle t e

/-- One invocation that may have been cut short. -/
def Interrupted (stages : List (Stage σ ε)) (s t : σ) : Prop :=
  CutShort stages s t ∨ t = conclude settle stages s

variable {settle} {stages : List (Stage σ ε)} {s t : σ}

theorem conclude_of_noneDue (h : NoneDue stages s) : conclude settle stages s = s := by
  rw [conclude, runAll_of_noneDue h]

/-- **An interrupted invocation does not change where the pipeline ends.** -/
theorem conclude_of_interrupted (hcheck : Checkpointed stages)
    (hsettle : ∀ u e, NoneDue stages (settle u e) ∨ settle u e = u)
    (h : Interrupted settle stages s t) :
    conclude settle stages t = conclude settle stages s := by
  rcases h with hcut | rfl
  · rw [conclude, conclude, runAll_of_cutShort hcheck hcut]
  · cases hrun : runAll stages s with
    | mk u error =>
        cases error with
        | none =>
            have hend : conclude settle stages s = u := by rw [conclude, hrun]
            rw [hend]
            exact conclude_of_noneDue (noneDue_of_complete hcheck hrun)
        | some e =>
            have hend : conclude settle stages s = settle u e := by rw [conclude, hrun]
            rw [hend]
            -- A settled error leaves nothing due, or the state in which it will be met again.
            rcases hsettle u e with hnone | hsame
            · exact conclude_of_noneDue hnone
            · rw [hsame, conclude, runAll_of_cutShort hcheck (cutShort_of_error hrun), hrun]
              exact hsame

end

end Stage

end Foundations
