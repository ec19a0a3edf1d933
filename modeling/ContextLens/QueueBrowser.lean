import ContextLens.RunsListClient
import ContextLens.Foundations.OrderedDict
import ContextLens.Foundations.SqlAggregates
import ContextLens.Foundations.TopRows

/-!
# The queue browser

`src/benchmark/queueBrowserLoad.ts`: the runs that are waiting, under way or failed, read in
one request for each status, merged by run and sorted.

A request reads the newest runs of one status only, and the list is cut once more after the
merge.  Still its first rows are the newest runs of all the statuses together
(`queue_browser_shows_newest`): what a slice leaves out stands behind as many runs of its own
status as the slice has rows.

### Times and their texts

The server orders runs by `created_at`, the page by the text of it.  A time is a number of
microseconds; its text has the microseconds in six digits behind a full stop, or nothing when
they are zero, and a full stop sorts before the letter of the time zone.  So the two orders
differ on runs of one second of which one was created on the second itself
(`ComparableTimes`), and what is said about the newest runs is said of runs without such a
pair.
-/

namespace ContextLens

open Foundations

/-! ## Reading the slices -/

/-- `QUEUE_BROWSER_STATUS_SLICES`. -/
def queueBrowserStatusSlices : List String :=
  ["pending", "running", "retrieval_completed", "generation_completed", "failed"]

/-- `SLICE_LIMIT`. -/
def sliceLimit : ℕ := 20

/-- `QUEUE_BROWSER_MAX_ROWS`. -/
def queueBrowserMaxRows : ℕ := 45

/-- `created_at` as a response writes it: the digits up to the second, and those of the
microseconds unless they are zero. -/
structure CreatedAtText where
  second : ℕ
  micros : Option ℕ
  deriving DecidableEq, Repr

/-- The text of a time in microseconds. -/
def createdAtText (createdAt : ℕ) : CreatedAtText where
  second := createdAt / 10 ^ 6
  micros := if createdAt % 10 ^ 6 = 0 then none else some (createdAt % 10 ^ 6)

/-- `localeCompare` of two such texts: a full stop sorts before the letter `Z`. -/
def CreatedAtText.localeCompare (a b : CreatedAtText) : ℤ :=
  if a.second ≠ b.second then (a.second : ℤ) - b.second
  else
    match a.micros, b.micros with
    | some x, some y => (x : ℤ) - y
    | some _, none => -1
    | none, some _ => 1
    | none, none => 0

/-- What `Promise.allSettled` gives for one slice: the items, or the message of the reason. -/
abbrev SettledSlice := String × Except String (List RunListItem)

/-- The map and the errors after `settled.forEach`. -/
structure MergedSlices where
  map : OrderedDict ℕ RunListItem
  sliceErrors : List String

/-- The body of `settled.forEach`. -/
def MergedSlices.see (merged : MergedSlices) (settled : SettledSlice) : MergedSlices :=
  match settled.2 with
  | .ok items =>
      { merged with map := items.foldl (fun map it => map.set it.runId it) merged.map }
  | .error message =>
      { merged with sliceErrors := merged.sliceErrors ++ [settled.1 ++ ": " ++ message] }

/-- `settled.forEach`. -/
def mergeSlices (settled : List SettledSlice) : MergedSlices :=
  settled.foldl MergedSlices.see ⟨.empty, []⟩

/-- The comparison that sorts the items. -/
def compareRunListItems (a b : RunListItem) : ℤ :=
  let c := (createdAtText b.createdAt).localeCompare (createdAtText a.createdAt)
  if c ≠ 0 then c else (b.runId : ℤ) - a.runId

/-- What the browser shows. -/
structure QueueBrowserRows where
  items : List RunListItem
  sliceErrors : List String

/-- `loadQueueBrowserRunRows`; `listRuns` is the answer to `GET /runs` with this limit, offset
and status. -/
def loadQueueBrowserRunRows
    (listRuns : ℕ → ℕ → String → Except String (List RunListItem)) : QueueBrowserRows :=
  let merged := mergeSlices (queueBrowserStatusSlices.map fun status =>
    (status, listRuns sliceLimit 0 status))
  { items := (merged.map.values.insertionSort fun a b => compareRunListItems a b ≤ 0).take
      queueBrowserMaxRows
    sliceErrors := merged.sliceErrors }

/-! ## The merge -/

/-- The items of the slices that were answered. -/
def answeredItems (settled : List SettledSlice) : List RunListItem :=
  settled.flatMap fun slice => slice.2.toOption.getD []

/-- The message of a slice that was not. -/
def SettledSlice.error (slice : SettledSlice) : Option String :=
  match slice.2 with
  | .ok _ => none
  | .error message => some (slice.1 ++ ": " ++ message)

theorem mergeSlices_eq (settled : List SettledSlice) :
    (mergeSlices settled).map =
        .ofList ((answeredItems settled).map fun it => (it.runId, it)) ∧
      (mergeSlices settled).sliceErrors = settled.filterMap SettledSlice.error := by
  induction settled using List.reverseRecOn with
  | nil => exact ⟨rfl, rfl⟩
  | append_singleton settled slice ih =>
      obtain ⟨status, answer⟩ := slice
      rw [mergeSlices, List.foldl_append, List.foldl_cons, List.foldl_nil, ← mergeSlices,
        answeredItems, List.flatMap_append, ← answeredItems, List.filterMap_append]
      cases answer with
      | ok items =>
          refine ⟨?_, ?_⟩
          · rw [MergedSlices.see, ih.1, OrderedDict.ofList, OrderedDict.ofList, List.map_append,
              List.foldl_append]
            simp only [List.flatMap_cons, List.flatMap_nil, List.append_nil, Except.toOption,
              Option.getD_some, List.foldl_map]
          · rw [MergedSlices.see, ih.2]
            simp [SettledSlice.error]
      | error message =>
          refine ⟨?_, ?_⟩
          · rw [MergedSlices.see, ih.1]
            simp [Except.toOption]
          · rw [MergedSlices.see, ih.2]
            simp [SettledSlice.error]

/-- The values of the map, under their own ids. -/
theorem map_runId_values (settled : List SettledSlice) :
    (mergeSlices settled).map.values.map RunListItem.runId = (mergeSlices settled).map.keys := by
  rw [OrderedDict.values, OrderedDict.keys, List.map_map]
  refine List.map_congr_left fun e he => ?_
  rw [(mergeSlices_eq settled).1] at he
  obtain ⟨it, -, rfl⟩ := List.mem_map.mp (OrderedDict.mem_of_mem_entries_ofList he)
  rfl

theorem mem_answeredItems_of_mem_values {settled : List SettledSlice} {item : RunListItem}
    (h : item ∈ (mergeSlices settled).map.values) : item ∈ answeredItems settled := by
  obtain ⟨e, he, rfl⟩ := List.mem_map.mp h
  rw [(mergeSlices_eq settled).1] at he
  obtain ⟨it, hit, rfl⟩ := List.mem_map.mp (OrderedDict.mem_of_mem_entries_ofList he)
  exact hit

/-- Items of different runs are the values as they are. -/
theorem values_of_nodup {settled : List SettledSlice}
    (h : ((answeredItems settled).map RunListItem.runId).Nodup) :
    (mergeSlices settled).map.values = answeredItems settled := by
  have hkeys : (((answeredItems settled).map fun it => (it.runId, it)).map Prod.fst).Nodup := by
    rw [List.map_map]
    exact h
  rw [(mergeSlices_eq settled).1, OrderedDict.values_ofList hkeys, List.map_map]
  exact List.map_id _

/-! ## The order -/

/-- Newest first, and the greater id first of two that are as new. -/
def itemNewestFirst (a b : RunListItem) : Prop :=
  b.createdAt < a.createdAt ∨ b.createdAt = a.createdAt ∧ b.runId ≤ a.runId

/-- The place of a text among the texts: the one without microseconds is the last of its
second. -/
def CreatedAtText.place (text : CreatedAtText) : ℕ :=
  text.second * (10 ^ 6 + 1) + text.micros.getD (10 ^ 6)

theorem CreatedAtText.localeCompare_iff {a b : CreatedAtText} (ha : ∀ x ∈ a.micros, x < 10 ^ 6)
    (hb : ∀ x ∈ b.micros, x < 10 ^ 6) :
    (a.localeCompare b < 0 ↔ a.place < b.place) ∧ (0 < a.localeCompare b ↔ b.place < a.place) := by
  obtain ⟨s, x⟩ := a
  obtain ⟨t, y⟩ := b
  simp only [localeCompare, place]
  by_cases hsecond : s = t
  · rw [if_neg (not_not.mpr hsecond), hsecond]
    cases x with
    | none =>
        cases y with
        | none => simp
        | some y =>
            have hlt := hb y rfl
            simp only [Option.getD_none, Option.getD_some]
            omega
    | some x =>
        have hlt := ha x rfl
        cases y with
        | none =>
            simp only [Option.getD_none, Option.getD_some]
            omega
        | some y =>
            simp only [Option.getD_some]
            omega
  · -- A second has fewer places than the next one is ahead.
    have hx : x.getD (10 ^ 6) ≤ 10 ^ 6 := by
      cases x with
      | none => exact le_rfl
      | some x => exact (ha x rfl).le
    have hy : y.getD (10 ^ 6) ≤ 10 ^ 6 := by
      cases y with
      | none => exact le_rfl
      | some y => exact (hb y rfl).le
    rw [if_pos hsecond]
    omega

/-- The place of the text of a time. -/
def textPlace (createdAt : ℕ) : ℕ := (createdAtText createdAt).place

theorem lt_of_mem_micros {createdAt x : ℕ} (h : x ∈ (createdAtText createdAt).micros) :
    x < 10 ^ 6 := by
  rw [createdAtText, Option.mem_def] at h
  split_ifs at h
  rw [← Option.some.inj h]
  exact Nat.mod_lt _ (by norm_num)

theorem textPlace_eq (createdAt : ℕ) :
    textPlace createdAt = createdAt / 10 ^ 6 * (10 ^ 6 + 1) +
      if createdAt % 10 ^ 6 = 0 then 10 ^ 6 else createdAt % 10 ^ 6 := by
  rw [textPlace, createdAtText, CreatedAtText.place]
  split_ifs <;> rfl

/-- The order of the texts, and the greater id first of two that are equal. -/
def itemTextOrder (a b : RunListItem) : Prop :=
  textPlace b.createdAt < textPlace a.createdAt ∨
    textPlace b.createdAt = textPlace a.createdAt ∧ b.runId ≤ a.runId

theorem compareRunListItems_le_zero_iff (a b : RunListItem) :
    compareRunListItems a b ≤ 0 ↔ itemTextOrder a b := by
  obtain ⟨hneg, hpos⟩ := CreatedAtText.localeCompare_iff
    (fun _ (hx : _ ∈ (createdAtText b.createdAt).micros) => lt_of_mem_micros hx)
    (fun _ (hx : _ ∈ (createdAtText a.createdAt).micros) => lt_of_mem_micros hx)
  rw [compareRunListItems, itemTextOrder, textPlace, textPlace]
  split_ifs with hzero <;> omega

/-- No two of the items are of one second with only one of them created on the second
itself. -/
def ComparableTimes (items : List RunListItem) : Prop :=
  ∀ a ∈ items, ∀ b ∈ items, a.createdAt / 10 ^ 6 = b.createdAt / 10 ^ 6 →
    (a.createdAt % 10 ^ 6 = 0 ↔ b.createdAt % 10 ^ 6 = 0)

/-- Such items are sorted by their times. -/
theorem ComparableTimes.newestFirst {items : List RunListItem} (h : ComparableTimes items) :
    ∀ a ∈ items, ∀ b ∈ items, itemTextOrder a b → itemNewestFirst a b := by
  intro a ha b hb hle
  have hsame := h a ha b hb
  have hsplitA := Nat.div_add_mod a.createdAt (10 ^ 6)
  have hsplitB := Nat.div_add_mod b.createdAt (10 ^ 6)
  have hltA := Nat.mod_lt a.createdAt (show 0 < 10 ^ 6 by norm_num)
  have hltB := Nat.mod_lt b.createdAt (show 0 < 10 ^ 6 by norm_num)
  rw [itemTextOrder, textPlace_eq, textPlace_eq] at hle
  rw [itemNewestFirst]
  split_ifs at hle <;> omega

theorem ComparableTimes.subset {items items' : List RunListItem} (h : ComparableTimes items')
    (hsubset : items ⊆ items') : ComparableTimes items :=
  fun a ha b hb => h a (hsubset ha) b (hsubset hb)

instance : Std.Total itemNewestFirst :=
  ⟨fun a b => by unfold itemNewestFirst; omega⟩

instance : IsTrans RunListItem itemNewestFirst :=
  ⟨fun a b c hab hbc => by unfold itemNewestFirst at *; omega⟩

section

variable (listRuns : ℕ → ℕ → String → Except String (List RunListItem))

/-- The settled requests of the browser. -/
def settledSlices : List SettledSlice :=
  queueBrowserStatusSlices.map fun status => (status, listRuns sliceLimit 0 status)

/-- The items are the first of the merged ones. -/
theorem isTop_items :
    Sql.IsTop itemTextOrder queueBrowserMaxRows
      (mergeSlices (settledSlices listRuns)).map.values
      (loadQueueBrowserRunRows listRuns).items := by
  have : Std.Total fun a b : RunListItem => compareRunListItems a b ≤ 0 :=
    ⟨fun a b => by
      rw [compareRunListItems_le_zero_iff, compareRunListItems_le_zero_iff, itemTextOrder,
        itemTextOrder]
      omega⟩
  have : IsTrans RunListItem fun a b => compareRunListItems a b ≤ 0 :=
    ⟨fun a b c hab hbc => by
      rw [compareRunListItems_le_zero_iff, itemTextOrder] at hab hbc ⊢
      omega⟩
  exact (Sql.isTop_take_insertionSort _ queueBrowserMaxRows).of_imp
    fun a _ b _ => (compareRunListItems_le_zero_iff a b).mp

end

/-! ## The runs behind the slices -/

/-- `GET /runs` with a status only. -/
def statusFilter (status : String) : RunListFilter where
  datasetId := none
  pipelineConfigId := none
  evaluatorType := none
  status := some status

/-- `GET /runs` without a filter. -/
def noFilter : RunListFilter where
  datasetId := none
  pipelineConfigId := none
  evaluatorType := none
  status := none

/-- Every request is answered from this database, or fails. -/
def AnsweredFrom (db : Database)
    (listRuns : ℕ → ℕ → String → Except String (List RunListItem)) : Prop :=
  ∀ limit offset status,
    listRuns limit offset status = .ok (db.listRuns (statusFilter status) limit offset).1 ∨
      ∃ message, listRuns limit offset status = .error message

/-- The statuses whose slice was answered. -/
def answeredStatuses (listRuns : ℕ → ℕ → String → Except String (List RunListItem)) :
    List String :=
  queueBrowserStatusSlices.filter fun status => (listRuns sliceLimit 0 status).toOption.isSome

section

variable {db : Database}

/-- The whole list. -/
theorem listItems_noFilter (db : Database) :
    db.listItems noFilter = db.runsServer.rows.map RunListRow.item := by
  have hall : (Sql.leftJoin (fun row : StoredRun × QueryCase => row.1.evaluations)
      db.baseSelect).filter noFilter.selects =
        Sql.leftJoin (fun row : StoredRun × QueryCase => row.1.evaluations) db.baseSelect :=
    List.filter_eq_self.mpr fun _ _ => rfl
  rw [Database.listItems, listRows_eq_filter, hall]
  rfl

theorem pairwise_listItems (db : Database) :
    (db.listItems noFilter).Pairwise itemNewestFirst := by
  have : Std.Total fun a b : RunListRow => newestFirst a.1.1 b.1.1 = true :=
    ⟨fun a b => newestFirst_total a.1.1 b.1.1⟩
  have : IsTrans RunListRow fun a b => newestFirst a.1.1 b.1.1 = true :=
    ⟨fun _ _ _ => newestFirst_trans⟩
  have hrows : db.runsServer.rows.Pairwise fun a b => newestFirst a.1.1 b.1.1 = true :=
    List.pairwise_insertionSort _ _
  rw [listItems_noFilter, List.pairwise_map]
  exact hrows.imp fun h => of_decide_eq_true h

theorem nodup_listItems (db : Database) :
    ((db.listItems noFilter).map RunListItem.runId).Nodup := by
  rw [listItems_noFilter, List.map_map]
  exact db.runsServer.runs_unique

/-- A slice: the first items of the list with the status. -/
theorem listRuns_statusFilter (status : String) (limit : ℕ) :
    (db.listRuns (statusFilter status) limit 0).1 =
      (Sql.group (fun item => item.status.text) (db.listItems noFilter) status).take limit := by
  rw [listRuns_runsServer, RunsServer.listItems, Sql.page, List.drop_zero, listItems_noFilter,
    Sql.group_map, List.map_take, RunsServer.selected, Sql.group]
  refine congrArg (fun rows => (rows.map RunListRow.item).take limit)
    (List.filter_congr fun row _ => ?_)
  rw [Bool.eq_iff_iff]
  simp only [RunListFilter.selects, RunListFilter.keeps, statusFilter, RunListRow.item,
    Bool.true_and, Bool.and_true]
  exact decide_eq_true_iff.trans decide_eq_true_iff.symm

variable {listRuns : ℕ → ℕ → String → Except String (List RunListItem)}

/-- What was answered, slice by slice. -/
theorem answeredItems_settledSlices (h : AnsweredFrom db listRuns) :
    answeredItems (settledSlices listRuns) =
      ((answeredStatuses listRuns).map fun status =>
        (Sql.group (fun item => item.status.text) (db.listItems noFilter) status).take
          sliceLimit).flatten := by
  rw [answeredItems, settledSlices, answeredStatuses, List.flatMap_map]
  generalize queueBrowserStatusSlices = statuses
  induction statuses with
  | nil => rfl
  | cons status statuses ih =>
      rw [List.flatMap_cons, ih, List.filter_cons]
      rcases h sliceLimit 0 status with hok | ⟨message, herror⟩
      · rw [hok, listRuns_statusFilter]
        rfl
      · rw [herror]
        rfl

theorem nodup_answeredStatuses : (answeredStatuses listRuns).Nodup :=
  List.Nodup.filter _ (by decide)

/-- Each slice has the first rows of its part of the list. -/
theorem forall₂_isTop_slices (statuses : List String) :
    List.Forall₂ (Sql.IsTop itemNewestFirst sliceLimit)
      (statuses.map fun status =>
        Sql.group (fun item => item.status.text) (db.listItems noFilter) status)
      (statuses.map fun status =>
        (Sql.group (fun item => item.status.text) (db.listItems noFilter) status).take
          sliceLimit) := by
  rw [List.forall₂_map_left_iff, List.forall₂_map_right_iff]
  refine List.forall₂_same.mpr fun status _ => Sql.isTop_take ?_ sliceLimit
  exact (pairwise_listItems db).sublist List.filter_sublist

/-- The runs of the answered statuses, one status after the other. -/
theorem parts_perm :
    ((answeredStatuses listRuns).map fun status =>
      Sql.group (fun item => item.status.text) (db.listItems noFilter) status).flatten.Perm
        ((db.listItems noFilter).filter fun item =>
          item.status.text ∈ answeredStatuses listRuns) :=
  Sql.flatMap_group_perm nodup_answeredStatuses _

/-- The slices have different runs. -/
theorem nodup_answeredItems (h : AnsweredFrom db listRuns) :
    ((answeredItems (settledSlices listRuns)).map RunListItem.runId).Nodup := by
  obtain ⟨dropped, hperm, -⟩ := Sql.exists_dropped
    (@forall₂_isTop_slices db (answeredStatuses listRuns))
  rw [← answeredItems_settledSlices h] at hperm
  have hall : ((dropped ++ answeredItems (settledSlices listRuns)).map RunListItem.runId).Nodup :=
    ((hperm.trans parts_perm).map _).nodup_iff.mpr
      ((nodup_listItems db).sublist (List.filter_sublist.map _))
  rw [List.map_append] at hall
  exact (List.nodup_append.mp hall).2.1

/-- Two items that tie are one. -/
theorem eq_of_itemNewestFirst {a b : RunListItem} (ha : a ∈ db.listItems noFilter)
    (hb : b ∈ db.listItems noFilter) (hab : itemNewestFirst a b) (hba : itemNewestFirst b a) :
    a = b := by
  refine List.inj_on_of_nodup_map (nodup_listItems db) ha hb ?_
  unfold itemNewestFirst at hab hba
  omega

/-- Without an error every slice was answered. -/
theorem answeredStatuses_eq
    (h : (settledSlices listRuns).filterMap SettledSlice.error = []) :
    answeredStatuses listRuns = queueBrowserStatusSlices := by
  refine List.filter_eq_self.mpr fun status hstatus => ?_
  have hnone := List.filterMap_eq_nil_iff.mp h _ (List.mem_map_of_mem hstatus)
  cases hanswer : listRuns sliceLimit 0 status with
  | ok items => rfl
  | error message =>
      rw [SettledSlice.error, hanswer] at hnone
      cases hnone

/-- The runs of the answered statuses. -/
def answeredRuns (db : Database)
    (listRuns : ℕ → ℕ → String → Except String (List RunListItem)) : List RunListItem :=
  (db.listItems noFilter).filter fun item => item.status.text ∈ answeredStatuses listRuns

/-- What is merged are runs of the answered statuses. -/
theorem values_subset_answeredRuns (h : AnsweredFrom db listRuns) :
    (mergeSlices (settledSlices listRuns)).map.values ⊆ answeredRuns db listRuns := by
  rw [values_of_nodup (nodup_answeredItems h), answeredItems_settledSlices h]
  intro item hitem
  refine parts_perm.mem_iff.mp ?_
  obtain ⟨slice, hslice, hin⟩ := List.mem_flatten.mp hitem
  obtain ⟨status, hstatus, rfl⟩ := List.mem_map.mp hslice
  exact List.mem_flatten.mpr ⟨_, List.mem_map_of_mem hstatus, List.mem_of_mem_take hin⟩

/-- **The first rows are the newest of all slices together.** -/
theorem isTop_first_items (h : AnsweredFrom db listRuns)
    (htimes : ComparableTimes (answeredRuns db listRuns)) :
    Sql.IsTop itemNewestFirst sliceLimit (answeredRuns db listRuns)
      ((loadQueueBrowserRunRows listRuns).items.take sliceLimit) := by
  have htop := ((isTop_items listRuns).of_imp
    (htimes.subset (values_subset_answeredRuns h)).newestFirst).take
      (show sliceLimit ≤ queueBrowserMaxRows by decide)
  rw [values_of_nodup (nodup_answeredItems h), answeredItems_settledSlices h] at htop
  exact (htop.of_parts (forall₂_isTop_slices _)).of_perm parts_perm

end

/-- The slices have every status but the one of a run that is done. -/
theorem text_mem_slices_iff (status : RunStatus) :
    status.text ∈ queueBrowserStatusSlices ↔ status ≠ .completed := by
  cases status <;> decide

/-- **What the queue browser shows.**  Whatever the requests answer, no run is shown twice, the
rows are in the order of their texts, which is newest first where the times are comparable, and
45 at most, each from a slice, and the requests that failed are the errors.  When the answers
come from one database with comparable times, the first twenty rows are the newest of all its
runs in the answered statuses; and when every slice was answered and nothing was cut off, the
rows are all runs that are not completed. -/
theorem queue_browser_shows_newest
    (listRuns : ℕ → ℕ → String → Except String (List RunListItem)) :
    let shown := loadQueueBrowserRunRows listRuns
    (shown.items.map RunListItem.runId).Nodup ∧
      shown.items.Pairwise (fun a b => compareRunListItems a b ≤ 0) ∧
      (ComparableTimes shown.items → shown.items.Pairwise itemNewestFirst) ∧
      shown.items.length ≤ 45 ∧
      (∀ item ∈ shown.items, ∃ status ∈ queueBrowserStatusSlices, ∃ items,
        listRuns 20 0 status = .ok items ∧ item ∈ items) ∧
      shown.sliceErrors = (settledSlices listRuns).filterMap SettledSlice.error ∧
      ∀ db, AnsweredFrom db listRuns → ComparableTimes (answeredRuns db listRuns) →
        Sql.IsTop itemNewestFirst 20 (answeredRuns db listRuns) (shown.items.take 20) ∧
        (shown.sliceErrors = [] → shown.items.length < 20 →
          shown.items = (db.listItems noFilter).filter fun item =>
            item.status ≠ .completed) := by
  intro shown
  have htop := isTop_items listRuns
  refine ⟨?_, ?_, fun htimes => ?_, ?_, fun item hitem => ?_, ?_, fun db hdb htimes => ⟨?_, ?_⟩⟩
  · obtain ⟨left, hperm, -⟩ := htop.split
    have hnodup := (hperm.map RunListItem.runId).nodup_iff.mpr
      (map_runId_values (settledSlices listRuns) ▸
        (mergeSlices (settledSlices listRuns)).map.nodup_keys)
    rw [List.map_append] at hnodup
    exact (List.nodup_append.mp hnodup).1
  · exact htop.ordered.imp fun hle => (compareRunListItems_le_zero_iff _ _).mpr hle
  · exact htop.ordered.imp_of_mem fun ha hb => htimes.newestFirst _ ha _ hb
  · exact htop.length_eq.trans_le (min_le_left _ _)
  · have hanswered := mem_answeredItems_of_mem_values (htop.subset hitem)
    obtain ⟨slice, hslice, hin⟩ := List.mem_flatMap.mp hanswered
    obtain ⟨status, hstatus, rfl⟩ := List.mem_map.mp hslice
    refine ⟨status, hstatus, ?_⟩
    cases hlist : listRuns 20 0 status with
    | ok items =>
        rw [show listRuns sliceLimit 0 status = .ok items from hlist] at hin
        exact ⟨items, rfl, hin⟩
    | error message =>
        rw [show listRuns sliceLimit 0 status = .error message from hlist] at hin
        exact absurd hin List.not_mem_nil
  · exact (mergeSlices_eq (settledSlices listRuns)).2
  · exact isTop_first_items hdb htimes
  · intro herrors hshort
    have hstatuses : answeredStatuses listRuns = queueBrowserStatusSlices :=
      answeredStatuses_eq ((mergeSlices_eq (settledSlices listRuns)).2.symm.trans herrors)
    have hfirst := isTop_first_items hdb htimes
    have hordered := htop.ordered.imp_of_mem fun ha hb =>
      (htimes.subset (values_subset_answeredRuns hdb)).newestFirst _ (htop.subset ha) _
        (htop.subset hb)
    have hall : (loadQueueBrowserRunRows listRuns).items.take sliceLimit = shown.items :=
      List.take_of_length_le hshort.le
    rw [hall, answeredRuns, hstatuses] at hfirst
    have hkept : ((db.listItems noFilter).filter fun item =>
        item.status.text ∈ queueBrowserStatusSlices) =
          (db.listItems noFilter).filter fun item => item.status ≠ .completed :=
      List.filter_congr fun item _ => decide_eq_decide.mpr (text_mem_slices_iff item.status)
    rw [hkept] at hfirst
    refine (hfirst.perm_of_lt hshort).eq_of_pairwise (fun a b ha hb => ?_) hordered
      ((pairwise_listItems db).sublist List.filter_sublist)
    exact eq_of_itemNewestFirst (List.mem_of_mem_filter (hfirst.subset ha))
      (List.mem_of_mem_filter hb)

end ContextLens
