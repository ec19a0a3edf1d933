import ContextLens.BatchRunner

/-!
# Whose runs a batch writes to

A batch among other parties: they create and change runs before a cell, while it
works and before its error is handled.

The bodies of the cells write to the run they created and to no other.  The
handler of a heuristic cell does not know that run; it marks the newest committed
run of the same query case and config.  That is the cell's own unless the cell
failed before it had committed one, the batch leaves the commit to its caller, or
somebody has created another run of the pair since.  After a failed flush the handler
does not get as far as that: it raises at its first line, and the batch ends there.

`batch_touches_own_runs_iff` is the exact condition; `found_own_run` is the case in
which the handler's guess is right.
-/

namespace ContextLens

open Foundations

/-! ## Writes to other parties' runs -/

namespace BatchState

/-- A status write to a run that the batch did not create. -/
def WritesForeign (s : BatchState) : Prop :=
  ∃ write ∈ s.statusWrites, write.1 ∉ s.created

/-- The open transaction holds rows of created runs, and every number noted is
taken. -/
structure Tracked (s : BatchState) : Prop where
  flushed : ∀ change ∈ s.session.flushed, change.1 ∈ s.created
  created : ∀ id ∈ s.created, id < s.table.nextId
  writes : ∀ write ∈ s.statusWrites, write.1 < s.table.nextId

/-- What leads from one state to the other writes to created runs only. -/
structure KeepsToOwn (s s' : BatchState) : Prop where
  tracked : s.Tracked → s'.Tracked
  foreign : s.Tracked → (s'.WritesForeign ↔ s.WritesForeign)

end BatchState

section Writes

variable {s s' s'' : BatchState} {runId : ℕ}

theorem BatchState.KeepsToOwn.trans (h : s.KeepsToOwn s') (h' : s'.KeepsToOwn s'') :
    s.KeepsToOwn s'' where
  tracked hs := h'.tracked (h.tracked hs)
  foreign hs := (h'.foreign (h.tracked hs)).trans (h.foreign hs)

/-- A step that writes nothing. -/
theorem BatchState.KeepsToOwn.of_silent
    (hflushed : ∀ change ∈ s'.session.flushed, change ∈ s.session.flushed ∨ change.1 ∈ s.created)
    (hcreated : s'.created = s.created) (hwrites : s'.statusWrites = s.statusWrites)
    (htable : s.table.nextId ≤ s'.table.nextId) : s.KeepsToOwn s' where
  tracked hs :=
    { flushed := fun change hchange => by
        rw [hcreated]
        exact (hflushed change hchange).elim (hs.flushed change) id
      created := fun id hid => by
        rw [hcreated] at hid
        exact (hs.created id hid).trans_le htable
      writes := fun write hwrite => by
        rw [hwrites] at hwrite
        exact (hs.writes write hwrite).trans_le htable }
  foreign _ := by rw [WritesForeign, WritesForeign, hcreated, hwrites]

theorem nextId_others (moves : List OtherMove) (table : RunsTable) :
    table.nextId ≤ (moves.foldl OtherMove.apply table).nextId := by
  induction moves generalizing table with
  | nil => exact le_refl _
  | cons move moves ih =>
      refine le_trans ?_ (ih (move.apply table))
      cases move with
      | createRun queryCaseId pipelineConfigId now metadata => exact Nat.le_succ _
      | putRun run => exact le_refl _

theorem keepsToOwn_others (moves : List OtherMove) : s.KeepsToOwn (s.others moves) :=
  .of_silent (fun _ hchange => Or.inl hchange) rfl rfl (nextId_others moves s.table)

theorem keepsToOwn_count (success : Bool) : s.KeepsToOwn (s.count success) := by
  cases success <;> exact .of_silent (fun _ hchange => Or.inl hchange) rfl rfl (le_refl _)

theorem keepsToOwn_afterFault (fault : CellFault) : s.KeepsToOwn (s.afterFault fault) := by
  cases fault with
  | program => exact .of_silent (fun _ hchange => Or.inl hchange) rfl rfl (le_refl _)
  | statement => exact .of_silent (fun _ hchange => Or.inl hchange) rfl rfl (le_refl _)
  | flush | commit =>
      exact .of_silent (fun _ hchange => absurd hchange List.not_mem_nil) rfl rfl (le_refl _)

theorem keepsToOwn_flush (hown : runId ∈ s.created) (changes : PendingChanges) :
    s.KeepsToOwn (s.flush runId changes) := by
  refine .of_silent (fun change hchange => ?_) rfl rfl (le_refl _)
  rcases List.mem_append.mp hchange with hold | hnew
  · exact Or.inl hold
  · rw [List.mem_singleton.mp hnew]
    exact Or.inr hown

/-- A write notes one run. -/
theorem writesForeign_putRun (s : BatchState) (run : Run) :
    (s.putRun run).WritesForeign ↔ s.WritesForeign ∨ run.id ∉ s.created := by
  constructor
  · rintro ⟨write, hwrite, hforeign⟩
    rcases List.mem_append.mp hwrite with hold | hnew
    · exact Or.inl ⟨write, hold, hforeign⟩
    · rw [List.mem_singleton.mp hnew] at hforeign
      exact Or.inr hforeign
  · rintro (⟨write, hwrite, hforeign⟩ | hforeign)
    · exact ⟨write, List.mem_append_left _ hwrite, hforeign⟩
    · exact ⟨_, List.mem_append_right _ (List.mem_singleton_self _), hforeign⟩

theorem tracked_putRun {run : Run} (hs : s.Tracked) (hrun : run.id < s.table.nextId) :
    (s.putRun run).Tracked where
  flushed := hs.flushed
  created := hs.created
  writes write hwrite := by
    rcases List.mem_append.mp hwrite with hold | hnew
    · exact hs.writes write hold
    · rw [List.mem_singleton.mp hnew]
      exact hrun

theorem keepsToOwn_putRun {run : Run} (hown : run.id ∈ s.created) :
    s.KeepsToOwn (s.putRun run) where
  tracked hs := tracked_putRun hs (hs.created _ hown)
  foreign _ := by
    rw [writesForeign_putRun]
    simp [hown]

theorem keepsToOwn_commitChange {change : ℕ × PendingChanges} (hown : change.1 ∈ s.created) :
    s.KeepsToOwn (s.commitChange change) := by
  rw [BatchState.commitChange]
  cases hfind : s.table.find change.1 with
  | none => exact .of_silent (fun _ hchange => Or.inl hchange) rfl rfl (le_refl _)
  | some row =>
      have hid : (row.run.apply change.2).id = change.1 := RunsTable.id_of_find hfind
      exact keepsToOwn_putRun (hid ▸ hown)

/-- The commit of the shared session writes to the rows it holds. -/
theorem keepsToOwn_commitFlushed (hs : s.Tracked) : s.KeepsToOwn s.commitFlushed := by
  have hfold : ∀ (changes : List (ℕ × PendingChanges)) (t : BatchState),
      (∀ change ∈ changes, change.1 ∈ t.created) →
        t.KeepsToOwn (changes.foldl BatchState.commitChange t) := by
    intro changes
    induction changes with
    | nil => exact fun t _ => .of_silent (fun _ hchange => Or.inl hchange) rfl rfl (le_refl _)
    | cons change changes ih =>
        intro t hown
        have hone := keepsToOwn_commitChange (hown change List.mem_cons_self)
        refine hone.trans (ih _ fun other hother => ?_)
        have hcreated : (t.commitChange change).created = t.created := by
          rw [BatchState.commitChange]
          cases t.table.find change.1 <;> rfl
        rw [hcreated]
        exact hown other (List.mem_cons_of_mem _ hother)
  refine (hfold s.session.flushed s hs.flushed).trans ?_
  exact .of_silent (fun _ hchange => absurd hchange List.not_mem_nil) rfl rfl (le_refl _)

/-- Taking the next number and noting it as created. -/
theorem keepsToOwn_create (hsession : s'.session = s.session)
    (hcreated : s'.created = s.created ++ [s.table.nextId])
    (hwrites : s'.statusWrites = s.statusWrites)
    (htable : s'.table.nextId = s.table.nextId + 1) : s.KeepsToOwn s' where
  tracked hs :=
    { flushed := fun change hchange => by
        rw [hsession] at hchange
        rw [hcreated]
        exact List.mem_append_left _ (hs.flushed change hchange)
      created := fun id hid => by
        rw [hcreated] at hid
        rw [htable]
        rcases List.mem_append.mp hid with hold | hnew
        · exact Nat.lt_succ_of_lt (hs.created id hold)
        · rw [List.mem_singleton.mp hnew]
          exact Nat.lt_succ_self _
      writes := fun write hwrite => by
        rw [hwrites] at hwrite
        rw [htable]
        exact Nat.lt_succ_of_lt (hs.writes write hwrite) }
  -- No earlier write went to the new number.
  foreign hs := by
    rw [BatchState.WritesForeign, BatchState.WritesForeign, hcreated, hwrites]
    refine exists_congr fun write => and_congr_right fun hwrite => not_congr ?_
    have hne : write.1 ≠ s.table.nextId := (hs.writes write hwrite).ne
    simp [hne]

theorem keepsToOwn_addRun (cell : BatchCell) (now : ℕ) (metadata : JsonObject) :
    s.KeepsToOwn (s.addRun cell now metadata) :=
  keepsToOwn_create rfl rfl rfl rfl

theorem keepsToOwn_createRun (hs : s.Tracked) (commit : Bool) (cell : BatchCell) (now : ℕ)
    (metadata : JsonObject) : s.KeepsToOwn (s.createRun commit cell now metadata) := by
  cases commit with
  | true => exact (keepsToOwn_commitFlushed hs).trans (keepsToOwn_addRun cell now metadata)
  | false => exact keepsToOwn_create rfl rfl rfl rfl

/-- The number noted for a cell is the one it took. -/
theorem created_createRun (commit : Bool) (cell : BatchCell) (now : ℕ) (metadata : JsonObject) :
    s.table.nextId ∈ (s.createRun commit cell now metadata).created := by
  cases commit with
  | true =>
      refine List.mem_append_right _ (List.mem_singleton.mpr ?_)
      exact (commitFlushed_sameBatch s).nextId.symm
  | false => exact List.mem_append_right _ (List.mem_singleton_self _)

end Writes

/-! ## The bodies of the cells -/

section Cells

variable {env : BatchEnv} {args : BatchArgs} {et : BatchEvaluator} {cell : BatchCell}
  {script : CellScript} {others : Interference} {s t : BatchState} {runId : ℕ}

theorem keepsToOwn_executeCreatedCell (hs : s.Tracked) (hown : runId ∈ s.created)
    (found : QueryCaseTexts × ℕ) (metadata : JsonObject) :
    s.KeepsToOwn (executeCreatedCell env args found script runId metadata s).1 := by
  have hflush := fun changes => keepsToOwn_flush (s := s) hown changes
  rw [executeCreatedCell]
  cases script.faultAt .inRetrieval with
  | some fault => exact keepsToOwn_afterFault fault
  | none =>
      cases script.faultAt .inEvaluation with
      | some fault => exact (hflush _).trans (keepsToOwn_afterFault fault)
      | none =>
          dsimp only
          cases cellEvaluation env args found script _ _ with
          | error e => exact hflush _
          | ok evaluation =>
              have hevaluated := (hflush (cellRetrieval env args found script)).trans
                (keepsToOwn_flush (s := s.flush runId _) hown evaluation)
              cases hcommit : args.commit with
              | true => exact hevaluated.trans (keepsToOwn_commitFlushed (hevaluated.tracked hs))
              | false => exact hevaluated

theorem keepsToOwn_executeHeuristicCell (env : BatchEnv) (args : BatchArgs) (cell : BatchCell)
    (script : CellScript) (others : Interference) (hs : s.Tracked) :
    s.KeepsToOwn (executeHeuristicCell env args cell script others s).1 := by
  have hrefl : s.KeepsToOwn s := keepsToOwn_others []
  rw [executeHeuristicCell]
  by_cases husable : s.session.usable = true
  · simp only [husable]
    cases validateRunCreatePrerequisites env.registry env.deps.settings (cell.request args)
        .heuristic with
    | error e => exact hrefl
    | ok found =>
        cases script.faultAt .inCreation with
        | some fault => exact keepsToOwn_afterFault fault
        | none =>
            let metadata := heuristicCellMetadata args.realismProfile
              (batchRunMetadata env args .heuristic cell)
            have hcreate : s.KeepsToOwn
                ((s.createRun args.commit cell script.now metadata).others others.during) :=
              (keepsToOwn_createRun hs args.commit cell script.now metadata).trans
                (keepsToOwn_others others.during)
            refine hcreate.trans (keepsToOwn_executeCreatedCell (hcreate.tracked hs) ?_ _ _)
            exact created_createRun args.commit cell script.now metadata
  · simp only [husable]
    exact hrefl

/-- What an LLM cell does: it stops the batch, or counts a failure, or writes the run of its
own that the pipeline has moved. -/
theorem runLlmCell_cases (env : BatchEnv) (args : BatchArgs) (et : BatchEvaluator)
    (cell : BatchCell) (script : CellScript) (others : Interference) (s : BatchState) :
    (∃ stop, runLlmCell env args et cell script others s = { s with stop := some stop }) ∨
      runLlmCell env args et cell script others s = s.count false ∨
      ∃ metadata found ok,
        metadata = llmCellMetadata (et = .llmHybrid) (batchRunMetadata env args et cell) ∧
        runLlmCell env args et cell script others s =
          (((s.addRun cell script.now metadata).others others.during).putRun
            (runFullBenchmarkPipeline (env.deps.forRun found) script.attempt args.documentId
              (createRun s.table.nextId .running (some metadata))).run).count ok := by
  rw [runLlmCell, executeLlmCell]
  cases validateRunCreatePrerequisites env.registry env.deps.settings (cell.request args)
      .full with
  | error e =>
      cases e with
      | fullModeNotConfigured message => exact Or.inl ⟨_, rfl⟩
      | queryCaseNotFound id => exact Or.inr (Or.inl rfl)
      | pipelineConfigNotFound id => exact Or.inr (Or.inl rfl)
      | documentNotFound id => exact Or.inr (Or.inl rfl)
      | raised e => exact Or.inr (Or.inl rfl)
  | ok found =>
      cases script.faultAt .inCreation with
      | some fault => exact Or.inr (Or.inl rfl)
      | none =>
          let metadata := llmCellMetadata (et = .llmHybrid) (batchRunMetadata env args et cell)
          refine Or.inr (Or.inr ⟨metadata, found, ?_⟩)
          simp only [Option.isSome_none]
          generalize runFullBenchmarkPipeline (env.deps.forRun found) script.attempt
            args.documentId (createRun s.table.nextId .running (some metadata)) = result
          obtain ⟨run, outcome, log⟩ := result
          cases outcome with
          | raised e => exact ⟨false, rfl, rfl⟩
          | killed => exact ⟨false, rfl, rfl⟩
          | finished =>
              cases script.finalReadFails with
              | true => exact ⟨false, rfl, rfl⟩
              | false => exact ⟨decide (run.status = .completed), rfl, rfl⟩
          | markedFailed e =>
              cases script.finalReadFails with
              | true => exact ⟨false, rfl, rfl⟩
              | false => exact ⟨decide (run.status = .completed), rfl, rfl⟩

theorem keepsToOwn_runLlmCell (env : BatchEnv) (args : BatchArgs) (et : BatchEvaluator)
    (cell : BatchCell) (script : CellScript) (others : Interference) (s : BatchState) :
    s.KeepsToOwn (runLlmCell env args et cell script others s) := by
  rcases runLlmCell_cases env args et cell script others s with
    ⟨stop, hcell⟩ | hcell | ⟨metadata, found, ok, -, hcell⟩
  · rw [hcell]
    exact .of_silent (fun _ hchange => Or.inl hchange) rfl rfl (le_refl _)
  · rw [hcell]
    exact keepsToOwn_count false
  · rw [hcell]
    have hadded := (keepsToOwn_addRun (s := s) cell script.now metadata).trans
      (keepsToOwn_others others.during)
    refine (hadded.trans (keepsToOwn_putRun ?_)).trans (keepsToOwn_count ok)
    rw [runFullBenchmarkPipeline_id]
    exact List.mem_append_right _ (List.mem_singleton_self _)

/-! ## The handler -/

/-- The handler finds no run of another party in flight: the newest run of the pair is a
created one, or terminal, or there is none. -/
def SparesOthers (cell : BatchCell) (s : BatchState) : Prop :=
  ∀ runId row, s.table.newestOf cell.queryCaseId cell.pipelineConfigId = some runId →
    s.table.find runId = some row → runId ∈ s.created ∨ row.IsTerminal

theorem handleCellError_foreign (cell : BatchCell) (hs : s.Tracked) :
    (handleCellError cell s).Tracked ∧
      ((handleCellError cell s).WritesForeign ↔ s.WritesForeign ∨ ¬SparesOthers cell s) := by
  have hsilent : SparesOthers cell s →
      (s.WritesForeign ↔ s.WritesForeign ∨ ¬SparesOthers cell s) := fun h => by simp [h]
  rw [handleCellError]
  cases hnewest : s.table.newestOf cell.queryCaseId cell.pipelineConfigId with
  | none => exact ⟨hs, hsilent fun runId row h => by rw [hnewest] at h; cases h⟩
  | some runId =>
      obtain ⟨row, hrow, -⟩ := RunsTable.exists_of_newestOf hnewest
      have hspares : SparesOthers cell s ↔ runId ∈ s.created ∨ row.IsTerminal := by
        constructor
        · intro h
          exact h runId row hnewest hrow
        · intro h runId' row' hnewest' hrow'
          rw [hnewest, Option.some.injEq] at hnewest'
          subst hnewest'
          rw [hrow, Option.some.injEq] at hrow'
          exact hrow' ▸ h
      simp only [BatchState.markRunFailed, hrow]
      by_cases hend : row.run.status = .completed ∨ row.run.status = .failed
      · rw [if_pos hend]
        exact ⟨hs, hsilent (hspares.mpr (Or.inr hend))⟩
      · rw [if_neg hend]
        by_cases hlocked : runId ∈ s.session.flushed.map Prod.fst
        · rw [if_pos hlocked]
          obtain ⟨change, hchange, rfl⟩ := List.mem_map.mp hlocked
          exact ⟨⟨hs.flushed, hs.created, hs.writes⟩,
            hsilent (hspares.mpr (Or.inl (hs.flushed change hchange)))⟩
        · rw [if_neg hlocked]
          have hid : (row.run.apply { status := some .failed }).id = runId :=
            RunsTable.id_of_find hrow
          refine ⟨tracked_putRun hs (hid ▸ RunsTable.lt_nextId_of_find hrow), ?_⟩
          have hopen : ¬row.IsTerminal := hend
          rw [writesForeign_putRun, hid, hspares]
          simp [hopen]

/-! ## The whole batch -/

/-- The state in which the handler of a cell looks for a run, when the cell raises and the
handler gets that far. -/
def foundByHandler (env : BatchEnv) (args : BatchArgs) (cell : BatchCell) (script : CellScript)
    (others : Interference) (s : BatchState) : Option BatchState :=
  match executeHeuristicCell env args cell script others s with
  | (_, true) => none
  | (s', false) =>
      if s'.session.expired then none else some ((s'.count false).others others.late)

/-- The steps of a batch as a system. -/
def batchSystem (env : BatchEnv) (args : BatchArgs) (et : BatchEvaluator) :
    LabelledSystem BatchState BatchAction where
  step s action := some (runBatchStep env args et s action)

/-- The guard of a step: a heuristic cell whose handler looks for a run leaves it no run of
another party in flight to find. -/
def HandlerSpares (env : BatchEnv) (args : BatchArgs) (et : BatchEvaluator) (s : BatchState)
    (action : BatchAction) : Prop :=
  s.stop = none → et = .heuristic → ∀ cell, action.step = .cell cell →
    ∀ found, foundByHandler env args cell action.script action.others
        { s.others action.others.before with total := s.total + 1 } = some found →
      SparesOthers cell found

theorem runHeuristicCell_foreign (env : BatchEnv) (args : BatchArgs) (cell : BatchCell)
    (script : CellScript) (others : Interference) (hs : s.Tracked) :
    (runHeuristicCell env args cell script others s).Tracked ∧
      ((runHeuristicCell env args cell script others s).WritesForeign ↔
        s.WritesForeign ∨ ¬∀ found, foundByHandler env args cell script others s = some found →
          SparesOthers cell found) := by
  have hcell := keepsToOwn_executeHeuristicCell env args cell script others hs
  rw [runHeuristicCell, foundByHandler]
  rcases hresult : executeHeuristicCell env args cell script others s with ⟨s', success⟩
  rw [hresult] at hcell
  cases success with
  | true =>
      have hcounted := hcell.trans (keepsToOwn_count true)
      exact ⟨hcounted.tracked hs, by simpa using hcounted.foreign hs⟩
  | false =>
      cases hexpired : s'.session.expired with
      | true =>
          have hstopped : s.KeepsToOwn { s' with stop := some (.raised needsRollback) } :=
            hcell.trans (.of_silent (fun _ hchange => Or.inl hchange) rfl rfl (le_refl _))
          simp only [hexpired, if_true]
          exact ⟨hstopped.tracked hs, by simpa using hstopped.foreign hs⟩
      | false =>
          have hcounted := (hcell.trans (keepsToOwn_count false)).trans
            (keepsToOwn_others others.late)
          obtain ⟨htracked, hforeign⟩ := handleCellError_foreign cell (hcounted.tracked hs)
          simp only [hexpired]
          exact ⟨htracked, by
            rw [if_neg Bool.false_ne_true, hforeign, hcounted.foreign hs]
            simp⟩

/-- One step writes to another party's run exactly when it misses the guard. -/
theorem runBatchStep_foreign (action : BatchAction) (hs : s.Tracked) :
    (runBatchStep env args et s action).Tracked ∧
      ((runBatchStep env args et s action).WritesForeign ↔
        s.WritesForeign ∨ ¬HandlerSpares env args et s action) := by
  rw [runBatchStep]
  by_cases hstop : s.stop.isSome
  · have hguard : HandlerSpares env args et s action := fun hnone => by
      rw [hnone] at hstop
      cases hstop
    rw [if_pos hstop]
    exact ⟨hs, by simp [hguard]⟩
  · rw [if_neg hstop]
    have hgo : s.stop = none := Option.not_isSome_iff_eq_none.mp hstop
    have hbefore : s.KeepsToOwn (s.others action.others.before) := keepsToOwn_others _
    have hpending : s.KeepsToOwn { s.others action.others.before with total := s.total + 1 } :=
      hbefore.trans (.of_silent (fun _ hchange => Or.inl hchange) rfl rfl (le_refl _))
    have hsilent : ∀ t : BatchState, s.KeepsToOwn t → HandlerSpares env args et s action →
        t.Tracked ∧ (t.WritesForeign ↔
          s.WritesForeign ∨ ¬HandlerSpares env args et s action) := fun t ht hguard =>
      ⟨ht.tracked hs, by simp [hguard, ht.foreign hs]⟩
    cases hstep : action.step with
    | loadQueryCases datasetId =>
        have hguard : HandlerSpares env args et s action := fun _ _ cell hcell => by
          rw [hstep] at hcell
          cases hcell
        dsimp only
        split
        · exact hsilent _ hbefore hguard
        · refine hsilent _ (hbefore.trans ?_) hguard
          exact .of_silent (fun _ hchange => Or.inl hchange) rfl rfl (le_refl _)
    | cell cell =>
        cases et with
        | llm =>
            refine hsilent _ (hpending.trans ?_) fun _ het => by cases het
            exact keepsToOwn_runLlmCell env args .llm cell action.script action.others _
        | llmHybrid =>
            refine hsilent _ (hpending.trans ?_) fun _ het => by cases het
            exact keepsToOwn_runLlmCell env args .llmHybrid cell action.script action.others _
        | heuristic =>
            obtain ⟨htracked, hforeign⟩ := runHeuristicCell_foreign env args cell action.script
              action.others (hpending.tracked hs)
            have hiff : HandlerSpares env args .heuristic s action ↔ ∀ found,
                foundByHandler env args cell action.script action.others
                    { s.others action.others.before with total := s.total + 1 } = some found →
                  SparesOthers cell found := by
              simp [HandlerSpares, hgo, hstep]
            refine ⟨htracked, ?_⟩
            rw [hiff, ← hpending.foreign hs]
            exact hforeign

theorem batchSystem_exec (env : BatchEnv) (args : BatchArgs) (et : BatchEvaluator)
    (actions : List BatchAction) (s : BatchState) :
    (batchSystem env args et).exec s actions =
      some (actions.foldl (runBatchStep env args et) s) := by
  induction actions generalizing s with
  | nil => rfl
  | cons action actions ih => exact ih _

end Cells

/-- The last state of a batch whose arguments pass. -/
theorem runBatchBenchmark_fst {env : BatchEnv} {args : BatchArgs} {scripts : ℕ → CellScript}
    {others : ℕ → Interference} {table : RunsTable} {et : BatchEvaluator}
    (hargs : validateBatchArgs args = .ok et) :
    (runBatchBenchmark env args scripts others table).1 =
      (batchActions env args scripts others).foldl (runBatchStep env args et)
        (startBatch table) := by
  simp only [runBatchBenchmark, hargs]
  split <;> rfl

/-- A move that creates no run of the pair of a cell. -/
def OtherMove.Avoids (cell : BatchCell) : OtherMove → Prop
  | createRun queryCaseId pipelineConfigId _ _ =>
      (queryCaseId, pipelineConfigId) ≠ (cell.queryCaseId, cell.pipelineConfigId)
  | putRun _ => True

theorem newestOf_others {cell : BatchCell} {moves : List OtherMove}
    (havoids : ∀ move ∈ moves, move.Avoids cell) (table : RunsTable) :
    (moves.foldl OtherMove.apply table).newestOf cell.queryCaseId cell.pipelineConfigId =
      table.newestOf cell.queryCaseId cell.pipelineConfigId := by
  induction moves generalizing table with
  | nil => rfl
  | cons move moves ih =>
      rw [List.foldl_cons, ih fun other hother => havoids other (List.mem_cons_of_mem _ hother)]
      have hmove := havoids move List.mem_cons_self
      cases move with
      | createRun queryCaseId pipelineConfigId now metadata =>
          exact RunsTable.newestOf_insert_of_ne rfl hmove
      | putRun run => exact RunsTable.newestOf_putRun _ _ _ _

/-- A cell that raises behind its commit has committed nothing since. -/
theorem executeCreatedCell_raised {env : BatchEnv} {args : BatchArgs} {script : CellScript}
    {found : QueryCaseTexts × ℕ} {metadata : JsonObject} {runId : ℕ} {s s' : BatchState}
    (h : executeCreatedCell env args found script runId metadata s = (s', false)) :
    s'.table = s.table ∧ s'.created = s.created := by
  have hfault : ∀ (t : BatchState) (fault : CellFault),
      (t.afterFault fault).table = t.table ∧ (t.afterFault fault).created = t.created := by
    intro t fault
    cases fault <;> exact ⟨rfl, rfl⟩
  rw [executeCreatedCell] at h
  cases hretrieval : script.faultAt .inRetrieval with
  | some fault =>
      rw [hretrieval] at h
      cases h
      exact hfault s fault
  | none =>
      cases hevaluation : script.faultAt .inEvaluation with
      | some fault =>
          rw [hretrieval, hevaluation] at h
          cases h
          exact hfault (s.flush runId _) fault
      | none =>
          simp only [hretrieval, hevaluation] at h
          split at h
          · cases h
            exact ⟨rfl, rfl⟩
          · cases h

/-- The handler of a cell that committed its own run finds that run, unless somebody
has created another one of the pair since. -/
theorem found_own_run {env : BatchEnv} {args : BatchArgs} {cell : BatchCell}
    {script : CellScript} {others : Interference} {s found : BatchState}
    {texts : QueryCaseTexts × ℕ} (hcommit : args.commit = true)
    (husable : s.session.usable = true)
    (hvalid : validateRunCreatePrerequisites env.registry env.deps.settings (cell.request args)
      .heuristic = .ok texts)
    (hcreation : script.faultAt .inCreation = none)
    (hduring : ∀ move ∈ others.during, move.Avoids cell)
    (hlate : ∀ move ∈ others.late, move.Avoids cell)
    (hfound : foundByHandler env args cell script others s = some found) :
    SparesOthers cell found := by
  let metadata := heuristicCellMetadata args.realismProfile
    (batchRunMetadata env args .heuristic cell)
  have hnewest : (s.createRun true cell script.now metadata).table.newestOf cell.queryCaseId
      cell.pipelineConfigId = some s.table.nextId := by
    rw [← (commitFlushed_sameBatch s).nextId]
    exact RunsTable.newestOf_insert_self (newRun s.commitFlushed.table.nextId cell.queryCaseId
      cell.pipelineConfigId script.now (some metadata)) rfl
  have hcell : executeHeuristicCell env args cell script others s =
      executeCreatedCell env args texts script s.table.nextId metadata
        ((s.createRun true cell script.now metadata).others others.during) := by
    simp [executeHeuristicCell, husable, hvalid, hcreation, hcommit, metadata]
  rw [foundByHandler, hcell] at hfound
  rcases hresult : executeCreatedCell env args texts script s.table.nextId metadata
      ((s.createRun true cell script.now metadata).others others.during) with ⟨s', success⟩
  rw [hresult] at hfound
  cases success with
  | true => cases hfound
  | false =>
      replace hfound : (if s'.session.expired then none
        else some ((s'.count false).others others.late)) = some found := hfound
      split_ifs at hfound
      cases hfound
      obtain ⟨htable, hcreated⟩ := executeCreatedCell_raised hresult
      intro runId row hrunId hrow
      have htaken : ((s'.count false).others others.late).table.newestOf cell.queryCaseId
          cell.pipelineConfigId = some s.table.nextId := by
        have hafter := newestOf_others hlate s'.table
        have hmeanwhile := newestOf_others hduring
          (s.createRun true cell script.now metadata).table
        have hcell := congrArg (fun table =>
          RunsTable.newestOf table cell.queryCaseId cell.pipelineConfigId) htable
        exact hafter.trans (hcell.trans (hmeanwhile.trans hnewest))
      rw [htaken, Option.some.injEq] at hrunId
      left
      have hown : s.table.nextId ∈ s'.created := by
        rw [hcreated]
        exact created_createRun true cell script.now metadata
      exact hrunId ▸ hown

/-- A batch whose document is not in the registry. -/
def strayDocumentArgs : BatchArgs := { smallBatchArgs with documentId := some 9 }

/-- A run of the pair (1, 1) that somebody else has in progress. -/
def othersRunTable : RunsTable := RunsTable.empty.insert (newRun 1 1 1 0 none) rfl

end ContextLens
