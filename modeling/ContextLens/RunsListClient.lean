import ContextLens.RunReports
import ContextLens.Foundations.JavascriptBuiltins
import ContextLens.Foundations.LabelledSystem
import ContextLens.Foundations.OffsetPagination

/-!
# The runs list of the benchmark workspace

`refreshRuns` and `loadMoreRuns` of `BenchmarkWorkspace.tsx` with `runsListQuery.ts`, in
front of the list of `GET /runs`, which is ordered newest first and gains runs while the
client pages through it.

A request carries no number and is never cancelled.  Its answer is handled when it
arrives, whatever was selected, asked for or answered meanwhile: a refresh replaces the
rows, a further page is appended behind them.
-/

namespace ContextLens

open Foundations

/-! ## The server -/

/-- What the list selects of all rows. -/
def RunListFilter.selects (filter : RunListFilter) (row : RunListRow) : Bool :=
  filter.keeps row.1 &&
    (match filter.evaluatorType with
      | some bucket => row.2.any fun evaluation => (sqlBucket bucket evaluation).holds
      | none => true)

/-- `run_id` of a row. -/
def RunListRow.runId (row : RunListRow) : ℕ := row.1.1.run.id

/-- All runs, newest first. -/
structure RunsServer where
  rows : List RunListRow
  runs_unique : (rows.map RunListRow.runId).Nodup

namespace RunsServer

variable (server : RunsServer)

/-- The rows that a filter selects. -/
def selected (filter : RunListFilter) : List RunListRow := server.rows.filter filter.selects

/-- `count_runs`. -/
def countRuns (filter : RunListFilter) : ℕ := (server.selected filter).length

/-- The items that the second statement of `list_runs` finds. -/
def listItems (filter : RunListFilter) (limit offset : ℕ) : List RunListItem :=
  (Sql.page limit offset (server.selected filter)).map RunListRow.item

/-- A new run comes first.  An id that is taken is no new run. -/
def gain (row : RunListRow) : RunsServer :=
  if h : row.runId ∈ server.rows.map RunListRow.runId then server
  else { rows := row :: server.rows, runs_unique := List.nodup_cons.mpr ⟨h, server.runs_unique⟩ }

theorem suffix_gain (row : RunListRow) : server.rows <:+ (server.gain row).rows := by
  rw [gain]
  split_ifs with h
  · exact List.suffix_refl _
  · exact List.suffix_cons row server.rows

end RunsServer

/-! ### The list of the database -/

section

variable {db : Database}

/-- The rows of the outer join: one for each run. -/
theorem leftJoin_baseSelect (db : Database) :
    Sql.leftJoin (fun row : StoredRun × QueryCase => row.1.evaluations) db.baseSelect =
      db.baseSelect.map fun row => (row, row.1.evaluations.head?) :=
  Sql.leftJoin_eq_map fun row hrow => db.evaluation_unique row.1 (Sql.mem_join.mp hrow).1

/-- The runs of the select. -/
theorem map_fst_baseSelect (db : Database) : db.baseSelect.map Prod.fst = db.runs := by
  have hone : ∀ r ∈ db.runs, ∃ qc, db.queryCaseOf r = [qc] := by
    intro r hr
    obtain ⟨qc, hqc, -⟩ := Database.queryCaseOf_eq hr
    exact ⟨qc, hqc⟩
  have hjoin := Sql.map_fst_filter_join hone fun _ => true
  rw [List.filter_eq_self.mpr fun _ _ => rfl] at hjoin
  refine hjoin.trans (List.filter_eq_self.mpr fun r hr => ?_)
  obtain ⟨qc, hqc⟩ := hone r hr
  rw [hqc]
  rfl

/-- The selected rows of a filter. -/
theorem listRows_eq_filter (filter : RunListFilter) :
    db.listRows filter =
      (Sql.leftJoin (fun row : StoredRun × QueryCase => row.1.evaluations) db.baseSelect).filter
        filter.selects := by
  obtain ⟨datasetId, pipelineConfigId, evaluatorType, status⟩ := filter
  cases evaluatorType with
  | none => exact List.filter_congr fun row _ => (Bool.and_true _).symm
  | some bucket =>
      have hbucket := @listRows_bucket db
        { datasetId := datasetId, pipelineConfigId := pipelineConfigId, evaluatorType := none,
          status := status } bucket
      refine hbucket.trans ?_
      rw [Database.listRows, List.filter_filter]
      exact List.filter_congr fun row _ => Bool.and_comm _ _

/-- The count is the number of listed rows, with any filter. -/
theorem countRuns_eq_length (filter : RunListFilter) :
    db.countRuns filter = (db.listRows filter).length := by
  obtain ⟨datasetId, pipelineConfigId, evaluatorType, status⟩ := filter
  cases evaluatorType with
  | none =>
      rw [Database.countRuns, Database.listRows, leftJoin_baseSelect, List.filter_map,
        List.length_map]
      rfl
  | some bucket =>
      exact countRuns_eq
        { datasetId := datasetId, pipelineConfigId := pipelineConfigId, evaluatorType := none,
          status := status } bucket

/-- The database as the list sees it. -/
def Database.runsServer (db : Database) : RunsServer where
  rows := Sql.orderBy (fun a b : RunListRow => newestFirst a.1.1 b.1.1)
    (Sql.leftJoin (fun row : StoredRun × QueryCase => row.1.evaluations) db.baseSelect)
  runs_unique := by
    have hperm := (List.perm_insertionSort (fun a b : RunListRow => newestFirst a.1.1 b.1.1)
      (Sql.leftJoin (fun row : StoredRun × QueryCase => row.1.evaluations) db.baseSelect)).map
        RunListRow.runId
    refine hperm.nodup_iff.mpr ?_
    have hids : (db.baseSelect.map fun row => (row, row.1.evaluations.head?)).map
        RunListRow.runId = db.runs.map fun r => r.run.id := by
      rw [← map_fst_baseSelect, List.map_map, List.map_map]
      rfl
    rw [leftJoin_baseSelect, hids]
    exact db.runs_unique

/-- **The list of the database** is the one the client pages through. -/
theorem listRuns_runsServer (filter : RunListFilter) (limit offset : ℕ) :
    db.listRuns filter limit offset =
      (db.runsServer.listItems filter limit offset, db.runsServer.countRuns filter) := by
  have hselected : db.runsServer.selected filter =
      Sql.orderBy (fun a b : RunListRow => newestFirst a.1.1 b.1.1) (db.listRows filter) := by
    rw [listRows_eq_filter]
    exact filter_orderBy_newestFirst (fun _ hrow => hrow) filter.selects
  have hcount : db.countRuns filter = db.runsServer.countRuns filter := by
    rw [RunsServer.countRuns, hselected, countRuns_eq_length, Sql.orderBy,
      List.length_insertionSort]
  rw [Database.listRuns, hcount, RunsServer.listItems, hselected, Database.listItems,
    Sql.page_map]

/-- **A run that is started** is the server's gain: it is newer than the runs there are. -/
theorem runsServer_gain {db' : Database} {r : StoredRun} {qc : QueryCase}
    (hqueryCases : db'.queryCases = db.queryCases) (hruns : db'.runs = db.runs ++ [r])
    (hnewest : ∀ r' ∈ db.runs, newestFirst r r' = true) (hqc : db'.queryCaseOf r = [qc]) :
    db'.runsServer.rows = (db.runsServer.gain ((r, qc), r.evaluations.head?)).rows := by
  have hrows : Sql.leftJoin (fun row : StoredRun × QueryCase => row.1.evaluations) db'.baseSelect =
      Sql.leftJoin (fun row : StoredRun × QueryCase => row.1.evaluations) db.baseSelect ++
        [((r, qc), r.evaluations.head?)] := by
    have hof : db'.queryCaseOf = db.queryCaseOf := by
      funext r'
      rw [Database.queryCaseOf, Database.queryCaseOf, hqueryCases]
    have hbase : db'.baseSelect = db.baseSelect ++ [(r, qc)] := by
      rw [Database.baseSelect, hruns, Sql.join, List.flatMap_append, List.flatMap_singleton, hqc,
        hof]
      rfl
    rw [leftJoin_baseSelect, leftJoin_baseSelect, hbase, List.map_append]
    rfl
  have hfresh : RunListRow.runId ((r, qc), r.evaluations.head?) ∉
      db.runsServer.rows.map RunListRow.runId := by
    intro hin
    obtain ⟨row, hrow, hid⟩ := List.mem_map.mp hin
    have hjoin := (List.mem_insertionSort _).mp hrow
    have hold : r.run.id ∈ db.runs.map fun r' => r'.run.id :=
      List.mem_map.mpr ⟨row.1.1, (mem_leftJoin_baseSelect hjoin).1, hid⟩
    have hunique := db'.runs_unique
    rw [hruns, List.map_append] at hunique
    exact (List.disjoint_of_nodup_append hunique) hold (by simp)
  have horder : Sql.orderBy (fun a b : RunListRow => newestFirst a.1.1 b.1.1)
      (Sql.leftJoin (fun row : StoredRun × QueryCase => row.1.evaluations) db'.baseSelect) =
        ((r, qc), r.evaluations.head?) :: db.runsServer.rows := by
    have hantisymm := fun a ha b hb => @eq_of_newestFirst db' a b ha hb
    rw [hrows] at hantisymm ⊢
    refine Sql.orderBy_concat_first (fun a b => newestFirst_total a.1.1 b.1.1)
      (fun _ _ _ => newestFirst_trans) hantisymm fun row hrow => ?_
    exact hnewest row.1.1 (mem_leftJoin_baseSelect hrow).1
  rw [RunsServer.gain, dif_neg hfresh]
  exact horder

end

/-! ## The client -/

/-- `RunsListServerFilters`; `none` is the empty choice. -/
structure RunsListServerFilters where
  status : String
  evaluatorType : Option EvaluatorType
  datasetId : Option ℕ
  pipelineConfigId : Option ℕ
  deriving DecidableEq

/-- `RUNS_LIST_FILTERS_INIT`. -/
def runsListFiltersInit : RunsListServerFilters where
  status := ""
  evaluatorType := none
  datasetId := none
  pipelineConfigId := none

/-- `buildListRunsApiParams`. -/
def buildListRunsApiParams (f : RunsListServerFilters) : RunListFilter where
  datasetId := f.datasetId
  pipelineConfigId := f.pipelineConfigId
  evaluatorType := f.evaluatorType
  status := if Javascript.trim f.status = "" then none else some (Javascript.trim f.status)

/-- `RUNS_PAGE`. -/
def runsPage : ℕ := 25

/-- The items of one answer, with the request they came from and the number of runs that
its filters selected when they were read. -/
structure ListPage where
  filters : RunsListServerFilters
  offset : ℕ
  matching : ℕ
  items : List RunListItem

/-- What an answer is for. -/
inductive ListRequestKind
  | refresh
  | loadMore
  deriving DecidableEq

/-- A request on its way.  The server counts first, and then reads the items. -/
structure ListRequest where
  kind : ListRequestKind
  filters : RunsListServerFilters
  offset : ℕ
  counted : Option ℕ
  answer : Option (ListPage × ℕ)

/-- The two statements of `list_runs`; runs may come between them. -/
def ListRequest.count (server : RunsServer) (request : ListRequest) : ListRequest :=
  match request.counted with
  | some _ => request
  | none =>
      { request with counted := some (server.countRuns (buildListRunsApiParams request.filters)) }

def ListRequest.read (server : RunsServer) (request : ListRequest) : ListRequest :=
  match request.counted, request.answer with
  | some total, none =>
      let filter := buildListRunsApiParams request.filters
      { request with
        answer := some
          ({ filters := request.filters
             offset := request.offset
             matching := (server.selected filter).length
             items := server.listItems filter runsPage request.offset }, total) }
  | _, _ => request

/-- The client's state, the server's, and what is between them.  The displayed rows are
kept page by page.  `rendered` are the filters of the renders so far: a `refreshRuns` of
an earlier render may still be called. -/
structure RunsListState where
  server : RunsServer
  pages : List ListPage
  runsTotal : ℕ
  runsHasMore : Bool
  runsLoading : Bool
  runsNextOffset : ℕ
  runsFilters : RunsListServerFilters
  rendered : List RunsListServerFilters
  requests : List ListRequest

inductive RunsListEvent
  | setRunsFilters (filters : RunsListServerFilters)
  | refreshRuns (filters : RunsListServerFilters)
  | loadMoreRuns
  | gainRun (row : RunListRow)
  | countRuns (place : ℕ)
  | readItems (place : ℕ)
  | answered (place : ℕ)
  | failed (place : ℕ)

namespace RunsListState

/-- Before the first render. -/
def initial (server : RunsServer) : RunsListState where
  server := server
  pages := []
  runsTotal := 0
  runsHasMore := false
  runsLoading := false
  runsNextOffset := 0
  runsFilters := runsListFiltersInit
  rendered := [runsListFiltersInit]
  requests := []

variable (s : RunsListState)

/-- The displayed rows. -/
def runs : List RunListItem := s.pages.flatMap ListPage.items

/-- `setRunsLoading(true)` and `api.listRuns`. -/
def request (kind : ListRequestKind) (filters : RunsListServerFilters) (offset : ℕ) :
    RunsListState :=
  { s with
    runsLoading := true
    requests := s.requests ++
      [{ kind := kind, filters := filters, offset := offset, counted := none, answer := none }] }

/-- `refreshRuns` of a render with these filters. -/
def refreshRuns (filters : RunsListServerFilters) : RunsListState :=
  if filters ∈ s.rendered then s.request .refresh filters 0 else s

/-- `setRunsFilters`, and the effect of the render that follows. -/
def setRunsFilters (filters : RunsListServerFilters) : RunsListState :=
  { s with runsFilters := filters, rendered := filters :: s.rendered }.refreshRuns filters

/-- `loadMoreRuns`, by its button: it is there with `runsHasMore` and disabled with
`runsLoading`. -/
def loadMoreRuns : RunsListState :=
  if s.runsHasMore && !s.runsLoading then
    s.request .loadMore s.runsFilters s.runsNextOffset
  else s

/-- The answer of a request that the server has answered. -/
def answerAt (place : ℕ) : Option (ListRequestKind × ListPage × ℕ) :=
  s.requests[place]?.bind fun request => request.answer.map fun answer => (request.kind, answer)

/-- What `refreshRuns` and `loadMoreRuns` do with their answer. -/
def handle (kind : ListRequestKind) (page : ListPage) (total : ℕ) : RunsListState :=
  match kind with
  | .refresh =>
      { s with
        pages := [page]
        runsNextOffset := page.items.length
        runsTotal := total
        runsHasMore := decide (page.items.length < total) }
  | .loadMore =>
      { s with
        pages := s.pages ++ [page]
        runsNextOffset := page.offset + page.items.length
        runsTotal := total
        runsHasMore := decide (page.offset + page.items.length < total) }

/-- `finally`: `setRunsLoading(false)`. -/
def settle (place : ℕ) : RunsListState :=
  { s with runsLoading := false, requests := s.requests.eraseIdx place }

/-- A step.  What is not there does nothing. -/
def after : RunsListEvent → RunsListState
  | .setRunsFilters filters => s.setRunsFilters filters
  | .refreshRuns filters => s.refreshRuns filters
  | .loadMoreRuns => s.loadMoreRuns
  | .gainRun row => { s with server := s.server.gain row }
  | .countRuns place =>
      { s with requests := s.requests.modify place (ListRequest.count s.server) }
  | .readItems place =>
      { s with requests := s.requests.modify place (ListRequest.read s.server) }
  | .answered place =>
      match s.answerAt place with
      | some (kind, page, total) => (s.handle kind page total).settle place
      | none => s
  | .failed place => if place < s.requests.length then s.settle place else s

end RunsListState

/-- The runs list. -/
def runsListSystem : LabelledSystem RunsListState RunsListEvent where
  step s event := some (s.after event)

/-! ## What is claimed of the list -/

namespace RunsListState

variable (s : RunsListState)

/-- The displayed rows contain no run id twice. -/
def NoRunTwice : Prop := (s.runs.map RunListItem.runId).Nodup

instance : Decidable s.NoRunTwice :=
  inferInstanceAs (Decidable (s.runs.map RunListItem.runId).Nodup)

/-- Every displayed row came from a request made with the filters now selected. -/
def ShowsSelected : Prop :=
  ∀ page ∈ s.pages, ∀ item ∈ page.items, page.filters = s.runsFilters

instance : Decidable s.ShowsSelected :=
  inferInstanceAs (Decidable (∀ page ∈ s.pages, ∀ item ∈ page.items, page.filters = s.runsFilters))

/-- Both, the second with no request outstanding. -/
def Consistent : Prop := s.NoRunTwice ∧ (s.requests = [] → s.ShowsSelected)

end RunsListState

/-! ## When the list stays consistent -/

/-- The runs of a page stand, among those that its filters select and counted from the
oldest one, from `matching - offset - runsPage` up to `matching - offset`: later runs do
not move them. -/
def ListPage.Window (server : RunsServer) (page : ListPage) (row : RunListRow) : Prop :=
  ∃ k, page.matching - page.offset - runsPage ≤ k ∧ k < page.matching - page.offset ∧
    (server.selected (buildListRunsApiParams page.filters)).reverse[k]? = some row

/-- One page reaches into the runs of another.  With the same filters that is a matter
of where they begin and end. -/
def ListPage.Reaches (server : RunsServer) (page shown : ListPage) : Prop :=
  if page.filters = shown.filters then
    page.matching - page.offset - runsPage < shown.matching - shown.offset ∧
      shown.matching - shown.offset - runsPage < page.matching - page.offset
  else ∃ row, page.Window server row ∧ shown.Window server row

namespace RunsListState

/-- The condition on a step: a further page reaches into no displayed one, and the
request that leaves none outstanding leaves rows of the selected filters. -/
def Guard (s : RunsListState) : RunsListEvent → Prop
  | .answered place => ∀ kind page total, s.answerAt place = some (kind, page, total) →
      match kind with
      | .refresh => s.requests.length = 1 → page.items ≠ [] → page.filters = s.runsFilters
      | .loadMore => (∀ shown ∈ s.pages, ¬page.Reaches s.server shown) ∧
          (s.requests.length = 1 →
            s.ShowsSelected ∧ (page.items ≠ [] → page.filters = s.runsFilters))
  | .failed place => place < s.requests.length → s.requests.length = 1 → s.ShowsSelected
  | _ => True

end RunsListState

/-! ### What a page holds -/

/-- The page was read when the server's rows were the older part of what they are now. -/
def ListPage.ServedBy (server : RunsServer) (page : ListPage) : Prop :=
  ∃ old, old <:+ server.rows ∧
    page.matching =
      (old.filter (buildListRunsApiParams page.filters).selects).length ∧
    page.items = (Sql.page runsPage page.offset
      (old.filter (buildListRunsApiParams page.filters).selects)).map RunListRow.item

section

variable {server : RunsServer} {page shown : ListPage}

/-- The server may gain runs afterwards. -/
theorem ListPage.ServedBy.gain (h : page.ServedBy server) (row : RunListRow) :
    page.ServedBy (server.gain row) := by
  obtain ⟨old, hold, hpage⟩ := h
  exact ⟨old, hold.trans (server.suffix_gain row), hpage⟩

theorem ListPage.Window.mem {row : RunListRow} (h : page.Window server row) :
    row ∈ server.rows := by
  obtain ⟨k, -, -, hk⟩ := h
  have hselected := List.mem_reverse.mp (List.mem_of_getElem? hk)
  exact (List.mem_filter.mp hselected).1

/-- One page names no run twice. -/
theorem ListPage.ServedBy.nodup (h : page.ServedBy server) :
    (page.items.map RunListItem.runId).Nodup := by
  obtain ⟨old, hold, -, hitems⟩ := h
  have hids : page.items.map RunListItem.runId = (Sql.page runsPage page.offset
      (old.filter (buildListRunsApiParams page.filters).selects)).map RunListRow.runId := by
    rw [hitems, List.map_map]
    rfl
  have hsub : (Sql.page runsPage page.offset
      (old.filter (buildListRunsApiParams page.filters).selects)).Sublist server.rows :=
    (List.take_sublist _ _).trans
      ((List.drop_sublist _ _).trans (List.filter_sublist.trans hold.sublist))
  rw [hids]
  exact server.runs_unique.sublist (hsub.map RunListRow.runId)

/-- The runs of a page are those of its window. -/
theorem ListPage.ServedBy.mem_runIds_iff (h : page.ServedBy server) {runId : ℕ} :
    runId ∈ page.items.map RunListItem.runId ↔
      ∃ row, page.Window server row ∧ row.runId = runId := by
  obtain ⟨old, hold, hmatching, hitems⟩ := h
  have hselected : old.filter (buildListRunsApiParams page.filters).selects <:+
      server.selected (buildListRunsApiParams page.filters) := hold.filter _
  rw [hitems, List.map_map, List.mem_map]
  refine exists_congr fun row => and_congr_left fun _ => ?_
  rw [Sql.mem_page_iff hselected, ← hmatching]
  rfl

/-- **When two pages share a run.** -/
theorem shares_iff_reaches (hpage : page.ServedBy server) (hshown : shown.ServedBy server) :
    (∃ runId, runId ∈ page.items.map RunListItem.runId ∧
      runId ∈ shown.items.map RunListItem.runId) ↔ page.Reaches server shown := by
  rw [ListPage.Reaches]
  split_ifs with hfilters
  · -- Both are pages of one growing list.
    obtain ⟨old, hold, hmatching, hitems⟩ := hpage
    obtain ⟨old', hold', hmatching', hitems'⟩ := hshown
    rw [← hfilters] at hmatching' hitems'
    have hunique : ((server.selected (buildListRunsApiParams page.filters)).map
        RunListRow.runId).Nodup :=
      server.runs_unique.sublist (List.filter_sublist.map RunListRow.runId)
    have hshare := @Sql.pages_share_key_iff _ _ runsPage page.offset _ _ RunListRow.runId _
      shown.offset hunique (hold.filter _) (hold'.filter _)
    rw [← hmatching, ← hmatching'] at hshare
    rw [← hshare, hitems, hitems', List.map_map, List.map_map]
    constructor
    · rintro ⟨runId, hin, hin'⟩
      obtain ⟨x, hx, hid⟩ := List.mem_map.mp hin
      obtain ⟨y, hy, hid'⟩ := List.mem_map.mp hin'
      exact ⟨x, hx, y, hy, hid.trans hid'.symm⟩
    · rintro ⟨x, hx, y, hy, hsame⟩
      exact ⟨x.runId, List.mem_map.mpr ⟨x, hx, rfl⟩, List.mem_map.mpr ⟨y, hy, hsame.symm⟩⟩
  · constructor
    · rintro ⟨runId, hin, hin'⟩
      obtain ⟨row, hrow, hid⟩ := hpage.mem_runIds_iff.mp hin
      obtain ⟨row', hrow', hid'⟩ := hshown.mem_runIds_iff.mp hin'
      -- Two rows of the server with one id are one.
      have hsame : row = row' := by
        refine List.inj_on_of_nodup_map server.runs_unique ?_ ?_ (hid.trans hid'.symm)
        · exact hrow.mem
        · exact hrow'.mem
      exact ⟨row, hrow, hsame ▸ hrow'⟩
    · rintro ⟨row, hrow, hrow'⟩
      exact ⟨row.runId, hpage.mem_runIds_iff.mpr ⟨row, hrow, rfl⟩,
        hshown.mem_runIds_iff.mpr ⟨row, hrow', rfl⟩⟩

end

/-! ### Every page is one of the server's -/

namespace RunsListState

/-- Displayed and answered pages are the server's. -/
def Served (s : RunsListState) : Prop :=
  (∀ page ∈ s.pages, page.ServedBy s.server) ∧
    ∀ request ∈ s.requests, ∀ answer, request.answer = some answer →
      answer.1.ServedBy s.server

section

variable {s : RunsListState}

theorem Served.request (h : s.Served) (kind : ListRequestKind)
    (filters : RunsListServerFilters) (offset : ℕ) : (s.request kind filters offset).Served := by
  refine ⟨h.1, fun request hrequest answer hanswer => ?_⟩
  rcases List.mem_append.mp hrequest with hold | hnew
  · exact h.2 request hold answer hanswer
  · rw [List.mem_singleton.mp hnew] at hanswer
    cases hanswer

theorem Served.refreshRuns (h : s.Served) (filters : RunsListServerFilters) :
    (s.refreshRuns filters).Served := by
  rw [RunsListState.refreshRuns]
  split_ifs
  · exact h.request .refresh filters 0
  · exact h

/-- A statement of the server on one of the requests. -/
theorem Served.modify (h : s.Served) (place : ℕ) {f : ListRequest → ListRequest}
    (hf : ∀ request answer, (f request).answer = some answer →
      request.answer = some answer ∨ answer.1.ServedBy s.server) :
    { s with requests := s.requests.modify place f }.Served := by
  refine ⟨h.1, fun request hrequest answer hanswer => ?_⟩
  obtain ⟨i, hi⟩ := List.mem_iff_getElem?.mp hrequest
  rw [List.getElem?_modify] at hi
  obtain ⟨request', hrequest', rfl⟩ := Option.map_eq_some_iff.mp hi
  have hin : request' ∈ s.requests := List.mem_of_getElem? hrequest'
  split_ifs at hanswer
  · rcases hf request' answer hanswer with hold | hnew
    · exact h.2 request' hin answer hold
    · exact hnew
  · exact h.2 request' hin answer hanswer

/-- What has been answered comes from the server. -/
theorem Served.answerAt (h : s.Served) {place : ℕ} {kind : ListRequestKind} {page : ListPage}
    {total : ℕ} (hanswer : s.answerAt place = some (kind, page, total)) :
    page.ServedBy s.server ∧ place < s.requests.length := by
  obtain ⟨request, hrequest, hmap⟩ := Option.bind_eq_some_iff.mp hanswer
  obtain ⟨answer, hsome, hpair⟩ := Option.map_eq_some_iff.mp hmap
  cases hpair
  obtain ⟨hlt, -⟩ := List.getElem?_eq_some_iff.mp hrequest
  exact ⟨h.2 request (List.mem_of_getElem? hrequest) _ hsome, hlt⟩

theorem Served.handle (h : s.Served) (kind : ListRequestKind) {page : ListPage} (total : ℕ)
    (hpage : page.ServedBy s.server) : (s.handle kind page total).Served := by
  cases kind with
  | refresh =>
      refine ⟨fun shown hshown => ?_, h.2⟩
      rw [List.mem_singleton.mp hshown]
      exact hpage
  | loadMore =>
      refine ⟨fun shown hshown => ?_, h.2⟩
      rcases List.mem_append.mp hshown with hold | hnew
      · exact h.1 shown hold
      · rw [List.mem_singleton.mp hnew]
        exact hpage

theorem Served.settle (h : s.Served) (place : ℕ) : (s.settle place).Served :=
  ⟨h.1, fun request hrequest => h.2 request (List.mem_of_mem_eraseIdx hrequest)⟩

/-- **Every step keeps it.** -/
theorem Served.after (h : s.Served) (event : RunsListEvent) : (s.after event).Served := by
  cases event with
  | setRunsFilters filters =>
      have hselected : Served { s with
        runsFilters := filters, rendered := filters :: s.rendered } := h
      exact hselected.refreshRuns filters
  | refreshRuns filters => exact h.refreshRuns filters
  | loadMoreRuns =>
      rw [RunsListState.after, RunsListState.loadMoreRuns]
      split_ifs
      · exact h.request .loadMore s.runsFilters s.runsNextOffset
      · exact h
  | gainRun row =>
      refine ⟨fun page hpage => (h.1 page hpage).gain row, ?_⟩
      intro request hrequest answer hanswer
      exact (h.2 request hrequest answer hanswer).gain row
  | countRuns place =>
      refine h.modify place fun request answer hanswer => Or.inl ?_
      rw [ListRequest.count] at hanswer
      split at hanswer <;> exact hanswer
  | readItems place =>
      refine h.modify place fun request answer hanswer => ?_
      rw [ListRequest.read] at hanswer
      split at hanswer
      · cases hanswer
        exact Or.inr ⟨s.server.rows, List.suffix_refl _, rfl, rfl⟩
      · exact Or.inl hanswer
  | answered place =>
      rw [RunsListState.after]
      split
      · next kind page total hanswer =>
          exact (h.handle kind total (h.answerAt hanswer).1).settle place
      · exact h
  | failed place =>
      rw [RunsListState.after]
      split_ifs
      · exact h.settle place
      · exact h

end

/-! ### What a step does to the rows -/

section

variable {s : RunsListState}

/-- With a request under way only the run ids matter. -/
theorem consistent_request (h : s.NoRunTwice) (kind : ListRequestKind)
    (filters : RunsListServerFilters) (offset : ℕ) :
    (s.request kind filters offset).Consistent :=
  ⟨h, fun hnone => absurd hnone (by simp [RunsListState.request])⟩

theorem consistent_refreshRuns (h : s.NoRunTwice) {filters : RunsListServerFilters}
    (hrendered : filters ∈ s.rendered) : (s.refreshRuns filters).Consistent := by
  rw [RunsListState.refreshRuns, if_pos hrendered]
  exact consistent_request h .refresh filters 0

/-- Whether the last request is settled. -/
theorem settle_requests_eq_nil_iff {place : ℕ} (hlt : place < s.requests.length) :
    (s.settle place).requests = [] ↔ s.requests.length = 1 := by
  have hne : s.requests ≠ [] := List.ne_nil_of_length_pos (by omega)
  rw [settle, List.eraseIdx_eq_nil_iff]
  constructor
  · rintro (hnil | hone)
    · exact absurd hnil hne
    · exact hone.1
  · intro hone
    exact Or.inr ⟨hone, by omega⟩

/-- A page shows rows of the selected filters, unless it is empty. -/
theorem shows_page_iff {page : ListPage} {filters : RunsListServerFilters} :
    (∀ item ∈ page.items, page.filters = filters) ↔ (page.items ≠ [] → page.filters = filters) := by
  constructor
  · intro h hne
    obtain ⟨item, hitem⟩ := List.exists_mem_of_ne_nil _ hne
    exact h item hitem
  · intro h item hitem
    exact h (List.ne_nil_of_mem hitem)

/-- A further page behind the displayed ones. -/
theorem noRunTwice_loadMore_iff (hserved : s.Served) (hrows : s.NoRunTwice) {page : ListPage}
    (total : ℕ) (hpage : page.ServedBy s.server) :
    (s.handle .loadMore page total).NoRunTwice ↔
      ∀ shown ∈ s.pages, ¬page.Reaches s.server shown := by
  have hids : (s.handle .loadMore page total).runs.map RunListItem.runId =
      s.runs.map RunListItem.runId ++ page.items.map RunListItem.runId := by
    rw [← List.map_append]
    refine congrArg (List.map RunListItem.runId) ?_
    simp [runs, handle]
  rw [NoRunTwice, hids, List.nodup_append']
  constructor
  · rintro ⟨-, -, hdisjoint⟩ shown hshown hreaches
    obtain ⟨runId, hin, hin'⟩ :=
      (shares_iff_reaches hpage (hserved.1 shown hshown)).mpr hreaches
    refine hdisjoint ?_ hin
    obtain ⟨item, hitem, hid⟩ := List.mem_map.mp hin'
    exact List.mem_map.mpr ⟨item, List.mem_flatMap.mpr ⟨shown, hshown, hitem⟩, hid⟩
  · intro hreaches
    refine ⟨hrows, hpage.nodup, fun runId hin' hin => ?_⟩
    obtain ⟨item, hitem, hid⟩ := List.mem_map.mp hin'
    obtain ⟨shown, hshown, hitem⟩ := List.mem_flatMap.mp hitem
    refine hreaches shown hshown ((shares_iff_reaches hpage (hserved.1 shown hshown)).mp ?_)
    exact ⟨runId, hin, List.mem_map.mpr ⟨item, hitem, hid⟩⟩

theorem consistent_answered_iff (hserved : s.Served) (hs : s.Consistent) (place : ℕ) :
    (s.after (.answered place)).Consistent ↔ s.Guard (.answered place) := by
  cases hanswer : s.answerAt place with
  | none => simp [RunsListState.after, Guard, hanswer, hs]
  | some answer =>
      obtain ⟨kind, page, total⟩ := answer
      obtain ⟨hpage, hlt⟩ := hserved.answerAt hanswer
      have hafter : s.after (.answered place) = (s.handle kind page total).settle place := by
        simp [RunsListState.after, hanswer]
      have hsettle : ((s.handle kind page total).settle place).requests = [] ↔
          s.requests.length = 1 := by
        cases kind <;> exact settle_requests_eq_nil_iff hlt
      rw [hafter, Consistent, hsettle]
      cases kind with
      | refresh =>
          have hrows : ((s.handle .refresh page total).settle place).NoRunTwice := by
            have hruns : ((s.handle .refresh page total).settle place).runs = page.items := by
              simp [runs, settle, handle]
            rw [NoRunTwice, hruns]
            exact hpage.nodup
          have hshows : ((s.handle .refresh page total).settle place).ShowsSelected ↔
              (page.items ≠ [] → page.filters = s.runsFilters) := by
            rw [← shows_page_iff]
            simp [ShowsSelected, settle, handle]
          rw [hshows]
          simp [Guard, hanswer, hrows]
      | loadMore =>
          have hrows : ((s.handle .loadMore page total).settle place).NoRunTwice ↔ _ :=
            noRunTwice_loadMore_iff hserved hs.1 total hpage
          have hshows : ((s.handle .loadMore page total).settle place).ShowsSelected ↔
              s.ShowsSelected ∧ (page.items ≠ [] → page.filters = s.runsFilters) := by
            rw [← shows_page_iff]
            simp [ShowsSelected, settle, handle, or_imp, forall_and]
          rw [hrows, hshows]
          simp [Guard, hanswer]

/-- **Exactly the guarded steps keep a consistent list consistent.** -/
theorem consistent_after_iff (hserved : s.Served) (hs : s.Consistent) (event : RunsListEvent) :
    (s.after event).Consistent ↔ s.Guard event := by
  cases event with
  | setRunsFilters filters =>
      have hselected : NoRunTwice { s with
        runsFilters := filters, rendered := filters :: s.rendered } := hs.1
      exact iff_of_true (consistent_refreshRuns hselected List.mem_cons_self) trivial
  | refreshRuns filters =>
      refine iff_of_true ?_ trivial
      by_cases hrendered : filters ∈ s.rendered
      · exact consistent_refreshRuns hs.1 hrendered
      · rw [RunsListState.after, RunsListState.refreshRuns, if_neg hrendered]
        exact hs
  | loadMoreRuns =>
      refine iff_of_true ?_ trivial
      rw [RunsListState.after, RunsListState.loadMoreRuns]
      split_ifs
      · exact consistent_request hs.1 .loadMore s.runsFilters s.runsNextOffset
      · exact hs
  | gainRun row => exact iff_of_true hs trivial
  | countRuns place =>
      exact iff_of_true ⟨hs.1, fun hnone => hs.2 (List.modify_eq_nil_iff.mp hnone)⟩ trivial
  | readItems place =>
      exact iff_of_true ⟨hs.1, fun hnone => hs.2 (List.modify_eq_nil_iff.mp hnone)⟩ trivial
  | answered place => exact consistent_answered_iff hserved hs place
  | failed place =>
      by_cases hlt : place < s.requests.length
      · have hafter : s.after (.failed place) = s.settle place := if_pos hlt
        rw [hafter, Consistent, settle_requests_eq_nil_iff hlt]
        exact ⟨fun h _ => h.2, fun h => ⟨hs.1, h hlt⟩⟩
      · have hafter : s.after (.failed place) = s := if_neg hlt
        rw [hafter]
        exact iff_of_true hs fun hplace => absurd hplace hlt

end

end RunsListState

/-- **When the runs list stays consistent**: in every state that a run visits, with the
server gaining runs, filters changing and answers arriving in any order, exactly if
every step meets the guard. -/
theorem runs_list_consistent_iff (server : RunsServer) (events : List RunsListEvent) :
    (∀ t, runsListSystem.Visits (.initial server) events t → t.Consistent) ↔
      runsListSystem.Meets RunsListState.Guard (.initial server) events := by
  have hinitial : (RunsListState.initial server).Served :=
    ⟨fun _ hpage => absurd hpage (List.not_mem_nil), fun _ hrequest =>
      absurd hrequest (List.not_mem_nil)⟩
  have hserved : ∀ t, runsListSystem.Visits (.initial server) events t → t.Served := by
    intro t hvisit
    refine @LabelledSystem.visits_invariant _ _ _ (fun _ _ => True) RunsListState.Served
      (fun s event u hs _ hstep => ?_) _ _ _ hinitial (LabelledSystem.meets_true _ _) hvisit
    obtain rfl : s.after event = u := Option.some.inj hstep
    exact hs.after event
  have hboth := @LabelledSystem.visits_iff_meets _ _ runsListSystem RunsListState.Guard
    (fun s => s.Served ∧ s.Consistent) (fun s event => ⟨s.after event, rfl⟩)
    (fun s event u hs hG hstep => by
      obtain rfl : s.after event = u := Option.some.inj hstep
      exact ⟨hs.1.after event, (RunsListState.consistent_after_iff hs.1 hs.2 event).mpr hG⟩)
    (fun s event u hs hG hstep hu => by
      obtain rfl : s.after event = u := Option.some.inj hstep
      exact hG ((RunsListState.consistent_after_iff hs.1 hs.2 event).mp hu.2))
    (.initial server) events
    ⟨hinitial, List.nodup_nil, fun _ _ hpage => absurd hpage (List.not_mem_nil)⟩
  rw [← hboth]
  exact forall_congr' fun t => forall_congr' fun hvisit =>
    (and_iff_right (hserved t hvisit)).symm

/-! ## Two runs of the list -/

/-- A completed run on a query case of a dataset. -/
def completedRow (runId datasetId : ℕ) : RunListRow :=
  (({ run := createRun runId .completed none
      queryCaseId := datasetId
      pipelineConfigId := 1
      createdAt := runId },
    { id := datasetId, datasetId := datasetId, queryText := "question" }), none)

/-- A page and one run more. -/
def twentySixRuns : RunsServer where
  rows := (List.range 26).reverse.map fun runId => completedRow runId 1
  runs_unique := by decide

/-- A run starts between the first page and the second. -/
def runBetweenPages : List RunsListEvent :=
  [.refreshRuns runsListFiltersInit, .countRuns 0, .readItems 0, .answered 0,
    .gainRun (completedRow 26 1), .loadMoreRuns, .countRuns 0, .readItems 0, .answered 0]

/-- One run in each of two datasets. -/
def twoDatasets : RunsServer where
  rows := [completedRow 2 2, completedRow 1 1]
  runs_unique := by decide

def ofDataset (datasetId : ℕ) : RunsListServerFilters :=
  { runsListFiltersInit with datasetId := some datasetId }

/-- Two datasets are selected one after the other, and the first answers last. -/
def lateAnswer : List RunsListEvent :=
  [.setRunsFilters (ofDataset 1), .countRuns 0, .readItems 0,
    .setRunsFilters (ofDataset 2), .countRuns 1, .readItems 1, .answered 1, .answered 0]

/-- The rows then name a run twice, and are those of the dataset that is not selected. -/
theorem runs_list_inconsistent :
    (¬∀ server events t, runsListSystem.Visits (.initial server) events t → t.NoRunTwice) ∧
      ¬∀ server events t, runsListSystem.Visits (.initial server) events t →
        t.requests = [] → t.ShowsSelected := by
  constructor
  · intro h
    have htwice := h twentySixRuns runBetweenPages
      (runBetweenPages.foldl RunsListState.after (.initial twentySixRuns))
      ⟨_, List.prefix_refl _, rfl⟩
    exact absurd htwice (by decide)
  · intro h
    have hshows := h twoDatasets lateAnswer
      (lateAnswer.foldl RunsListState.after (.initial twoDatasets))
      ⟨_, List.prefix_refl _, rfl⟩ (by decide)
    exact absurd hshows (by decide)

end ContextLens
