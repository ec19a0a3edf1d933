import ContextLens.Foundations.Binary64
import ContextLens.RunDetail
import ContextLens.RunsListClient

/-!
# The detail view of the benchmark workspace

The two effects of `BenchmarkWorkspace.tsx` that ask for a run: the one of the detail view, and
the one that polls a run under way.  Both write `runDetail`, and their requests are answered in
any order, while the selection, the route and the polled run change.

Once the effects have run for the values that the workspace has (`Settled`), the view shows the
selected run or that it is loading, and what it shows is what the server read
(`detail_view_shows_selected`).

### The two design decisions

**A render is a step, and so are its effects.**  A setter changes the state, a later render
takes the values that its effects depend on (`Render`), and some time after that its effects
run, with the values of the render and not with those of the state.  Until then the requests of
the earlier render are not cancelled, and what they answer with is still shown: this is why
`Settled` cannot go.  A render whose effects never ran is allowed here though React never skips
one, so the runs of the model are those of React and more.

**The server reads at one time and its answer arrives at another.**  A request takes the detail
of the store that `read` meets; `answered` comes at any later time, in any order, or `failed`
instead.  Between the two the API, the workers and the queue take any step of `apiSystem`.

### What is left out

The refresh of the runs list that a poll starts (`RunsListClient`), the form and the registry
with their error messages, and the second mount of a development build.  A mount that starts
over is an `initial` of its own.
-/

namespace ContextLens

open Foundations

/-! ## The workspace -/

/-- `View`. -/
inductive View
  | run
  | runs
  | queue
  | detail
  | compare
  | dashboard
  | document
  deriving DecidableEq

/-- The view of a route, and `params.runId`. -/
structure Route where
  view : View
  runId : Option String

/-- `Number(s)` of a run id, where it is finite. -/
def numberOfRunId (s : String) : Option Javascript.Number :=
  (Javascript.numberOfText s).map Binary64.nearest

/-- `paramRunId`, where it is finite. -/
def Route.paramRunId (route : Route) : Option Javascript.Number := route.runId.bind numberOfRunId

/-- The values of a render that its effects depend on. -/
structure Render where
  route : Route
  detailRunId : Option Javascript.Number
  pollingRunId : Option Javascript.Number
  runsFilters : RunsListServerFilters

/-- Which effect a request is from. -/
inductive RunRequestKind
  | detail
  | poll
  deriving DecidableEq

/-- A call of `api.getRun` on its way.  `shows` is `detailRunId === pollingRunId` of the render
that a poll is from. -/
structure RunRequest where
  kind : RunRequestKind
  runId : Javascript.Number
  shows : Bool
  cancelled : Bool
  answer : Option RunDetailResponse

/-- `cancelled = true`, of the requests of an effect. -/
def RunRequest.cleanup (kind : RunRequestKind) (request : RunRequest) : RunRequest :=
  if request.kind = kind then { request with cancelled := true } else request

/-- The answer of `POST /runs`, with its status. -/
structure RunCreateOutcome where
  runId : ℕ
  status : RunStatus
  jobId : Option String
  httpStatus : ℕ

/-- The state of the workspace, and the store behind the API.  The last of the values are the
last render and the dependencies with which each effect ran last. -/
structure Workspace where
  store : ApiStore
  route : Route
  detailRunId : Option Javascript.Number
  lastRunId : Option ℕ
  pollingRunId : Option Javascript.Number
  pollStartedAt : Option ℕ
  longRunHint : Bool
  runsFilters : RunsListServerFilters
  runDetail : Option RunDetailResponse
  detailLoading : Bool
  error : Option String
  successMsg : Option String
  requests : List RunRequest
  rendered : Render
  routeDeps : Option (View × Option Javascript.Number)
  detailDeps : Option (View × Option Javascript.Number)
  pollDeps : Option (Option Javascript.Number × Option Javascript.Number × RunsListServerFilters)

/-- A step of the store; a navigation, an input, an answer of `POST /runs`; a render and its
effects; the interval; and the fate of a request.  A navigation arrives at any time after the
`navigate` that it is from. -/
inductive WorkspaceEvent
  | api (event : ApiEvent)
  | navigated (route : Route)
  | runIdInput (raw : String)
  | submitted (outcome : RunCreateOutcome) (now : ℕ)
  | setRunsFilters (filters : RunsListServerFilters)
  | clearMessages
  | render
  | effects
  | interval
  | read (place : ℕ)
  | answered (place : ℕ) (now : ℕ)
  | failed (place : ℕ) (message : String)

/-- What `GET /runs/{run_id}` answers with; any other answer is a failure of the request.  The
key of a run is a 32-bit integer. -/
def ApiStore.detailOf (s : ApiStore) (runId : Javascript.Number) : Option RunDetailResponse :=
  if runId.den = 1 ∧ 0 ≤ runId.num ∧ runId.num < 2 ^ 31 then
    match s.getRunDetail runId.num.toNat with
    | .ok detail => detail
    | .error _ => none
  else none

/-- The server answers. -/
def RunRequest.read (s : ApiStore) (request : RunRequest) : RunRequest :=
  { request with answer := request.answer <|> s.detailOf request.runId }

namespace Workspace

/-- The run that is selected at first. -/
def firstRunId (route : Route) : Option Javascript.Number :=
  if route.view = .detail then route.paramRunId else none

/-- The first render. -/
def initial (store : ApiStore) (route : Route) : Workspace where
  store := store
  route := route
  detailRunId := firstRunId route
  lastRunId := none
  pollingRunId := none
  pollStartedAt := none
  longRunHint := false
  runsFilters := runsListFiltersInit
  runDetail := none
  detailLoading := false
  error := none
  successMsg := none
  requests := []
  rendered :=
    { route := route
      detailRunId := firstRunId route
      pollingRunId := none
      runsFilters := runsListFiltersInit }
  routeDeps := none
  detailDeps := none
  pollDeps := none

variable (w : Workspace)

/-- `onRunIdInputChange`. -/
def runIdInput (raw : String) : Workspace :=
  let text := Javascript.trim raw
  if text = "" then { w with detailRunId := none }
  else
    match numberOfRunId text with
    | some n => { w with detailRunId := if n.den = 1 ∧ 0 < n then some n else none }
    | none => { w with detailRunId := none }

/-- `handleSubmitRun`, after the answer. -/
def submitted (outcome : RunCreateOutcome) (now : ℕ) : Workspace :=
  let w := { w with
    lastRunId := some outcome.runId
    detailRunId := some outcome.runId
    longRunHint := false }
  if outcome.httpStatus = 202 then
    let jobHint := match outcome.jobId with
      | some jobId => if jobId = "" then "" else " Job id: " ++ jobId ++ "."
      | none => ""
    { w with
      successMsg := some ("Run started. Status updates every few seconds." ++ jobHint)
      pollingRunId := some outcome.runId
      pollStartedAt := some now }
  else
    { w with
      successMsg := some ("Run #" ++ toString outcome.runId ++ " completed with status “" ++
        outcome.status.text ++ "”.")
      pollingRunId := none
      pollStartedAt := none }

/-! ### The effects -/

/-- A render takes the values of the state. -/
def render : Workspace :=
  { w with
    rendered :=
      { route := w.route
        detailRunId := w.detailRunId
        pollingRunId := w.pollingRunId
        runsFilters := w.runsFilters } }

/-- `setDetailRunId(paramRunId)`. -/
def routeEffect : Workspace :=
  let view := w.rendered.route.view
  let paramRunId := w.rendered.route.paramRunId
  if w.routeDeps = some (view, paramRunId) then w
  else
    { w with
      routeDeps := some (view, paramRunId)
      detailRunId := if view = .detail then paramRunId <|> w.detailRunId else w.detailRunId }

/-- The effect of the detail view. -/
def detailEffect : Workspace :=
  let view := w.rendered.route.view
  if w.detailDeps = some (view, w.rendered.detailRunId) then w
  else
    let requests := w.requests.map (RunRequest.cleanup .detail)
    let detailDeps := some (view, w.rendered.detailRunId)
    match if view = .detail then w.rendered.detailRunId else none with
    | some runId =>
        { w with
          detailDeps := detailDeps
          detailLoading := true
          error := none
          successMsg := none
          requests := requests ++
            [{ kind := .detail
               runId := runId
               shows := true
               cancelled := false
               answer := none }] }
    | none =>
        { w with
          detailDeps := detailDeps
          runDetail := none
          detailLoading := false
          requests := requests }

/-- `pollOnce`, as far as its request. -/
def pollOnce (pollingRunId : Javascript.Number) (detailRunId : Option Javascript.Number) :
    Workspace :=
  { w with
    requests := w.requests ++
      [{ kind := .poll
         runId := pollingRunId
         shows := decide (detailRunId = some pollingRunId)
         cancelled := false
         answer := none }] }

/-- The dependencies of the effect that polls. -/
def pollDependencies (r : Render) :
    Option Javascript.Number × Option Javascript.Number × RunsListServerFilters :=
  (r.pollingRunId, r.detailRunId, r.runsFilters)

/-- The effect that polls. -/
def pollEffect : Workspace :=
  if w.pollDeps = some (pollDependencies w.rendered) then w
  else
    let w := { w with
      requests := w.requests.map (RunRequest.cleanup .poll)
      pollDeps := some (pollDependencies w.rendered) }
    match w.rendered.pollingRunId with
    | some pollingRunId => w.pollOnce pollingRunId w.rendered.detailRunId
    | none => { w with pollStartedAt := none, longRunHint := false }

/-- The effects of the last render. -/
def effects : Workspace := w.routeEffect.detailEffect.pollEffect

/-- The interval of the last poll effect, if it has one. -/
def interval : Workspace :=
  match w.pollDeps with
  | some (some pollingRunId, detailRunId, _) => w.pollOnce pollingRunId detailRunId
  | _ => w

/-! ### The answers -/

/-- What `pollOnce` does with its answer. -/
def polled (shows : Bool) (d : RunDetailResponse) (now : ℕ) : Workspace :=
  let w := if shows then { w with runDetail := some d, detailLoading := false } else w
  let w := { w with longRunHint := w.pollStartedAt.any fun start => decide (45000 < now - start) }
  if d.status = .completed ∨ d.status = .failed then
    let w := { w with pollingRunId := none, pollStartedAt := none, longRunHint := false }
    if d.status = .failed then
      { w with
        successMsg := none
        error := some ("Run #" ++ toString d.runId ++
          " failed. Open detail or Recent runs for status.") }
    else
      { w with
        error := none
        successMsg := some ("Run #" ++ toString d.runId ++ " completed.") }
  else w

/-- What an effect does with the answer of its request. -/
def handle (request : RunRequest) (d : RunDetailResponse) (now : ℕ) : Workspace :=
  if request.cancelled then w
  else
    match request.kind with
    | .detail => { w with runDetail := some d, detailLoading := false }
    | .poll => w.polled request.shows d now

/-- What an effect does with a failure of its request. -/
def reject (request : RunRequest) (message : String) : Workspace :=
  if request.cancelled then w
  else
    match request.kind with
    | .detail => { w with runDetail := none, error := some message, detailLoading := false }
    | .poll => { w with error := some message }

/-- Without a request. -/
def settle (place : ℕ) : Workspace := { w with requests := w.requests.eraseIdx place }

/-- A step of the workspace.  What is not there does nothing. -/
def after : WorkspaceEvent → Workspace
  | .api _ => w
  | .navigated route => { w with route := route }
  | .runIdInput raw => w.runIdInput raw
  | .submitted outcome now => w.submitted outcome now
  | .setRunsFilters filters => { w with runsFilters := filters }
  | .clearMessages => { w with error := none, successMsg := none }
  | .render => w.render
  | .effects => w.effects
  | .interval => w.interval
  | .read place =>
      { w with requests := w.requests.modify place (RunRequest.read w.store) }
  | .answered place now =>
      match w.requests[place]? with
      | some request =>
          match request.answer with
          | some d => (w.settle place).handle request d now
          | none => w
      | none => w
  | .failed place message =>
      match w.requests[place]? with
      | some request => (w.settle place).reject request message
      | none => w

/-- What `RunDetailView` shows, where it is neither an invalid id nor loading. -/
def shown : Option RunDetailResponse :=
  if w.route.view = .detail then
    if w.route.runId.isSome && w.detailRunId.isNone then none
    else if w.detailLoading then none
    else w.runDetail
  else none

end Workspace

/-- The workspace in front of the API. -/
def workspaceSystem (deps : PipelineEnv) (limits : UploadLimits) :
    LabelledSystem Workspace WorkspaceEvent where
  step w event :=
    match event with
    | .api event =>
        ((apiSystem deps limits).step w.store event).map fun store => { w with store := store }
    | event => some (w.after event)

/-! ## What the view shows -/

/-- The effects have run for the values that the state has. -/
structure Workspace.Settled (w : Workspace) : Prop where
  detail : w.detailDeps = some (w.route.view, w.detailRunId)
  poll : w.pollDeps = some (w.pollingRunId, w.detailRunId, w.runsFilters)

instance (w : Workspace) : Decidable w.Settled :=
  decidable_of_iff (w.detailDeps = some (w.route.view, w.detailRunId) ∧
    w.pollDeps = some (w.pollingRunId, w.detailRunId, w.runsFilters))
    ⟨fun h => ⟨h.1, h.2⟩, fun h => ⟨h.detail, h.poll⟩⟩

/-- A request that its effect still waits for. -/
def RunRequest.live (kind : RunRequestKind) (request : RunRequest) : Bool :=
  decide (request.kind = kind) && !request.cancelled

section

variable {deps : PipelineEnv} {limits : UploadLimits}

/-- What the server answers with is the detail of the run that was asked for. -/
theorem detailOf_shows {s : ApiStore} (hsound : s.Sound) {runId : Javascript.Number}
    {d : RunDetailResponse} (h : s.detailOf runId = some d) :
    (d.runId : Javascript.Number) = runId ∧ ∃ r ∈ s.runs, d.Shows s r := by
  unfold ApiStore.detailOf at h
  split_ifs at h with hnatural
  have hcast : ((runId.num.toNat : ℕ) : ℚ) = runId := by
    have hnum : ((runId.num.toNat : ℤ) : ℚ) = runId.num := by
      rw [Int.toNat_of_nonneg hnatural.2.1]
    have hden : (runId.num : ℚ) = runId := (Rat.den_eq_one_iff runId).mp hnatural.1
    exact_mod_cast hnum.trans hden
  cases hread : s.getRunDetail runId.num.toNat with
  | error _ =>
      rw [hread] at h
      cases h
  | ok detail =>
      rw [hread] at h
      obtain rfl : detail = some d := h
      by_cases hstored : ∃ r ∈ s.runs, r.run.id = runId.num.toNat
      · obtain ⟨r, hr, hid⟩ := hstored
        obtain ⟨shown, hshown, hshows, -⟩ := getRunDetail_shows hsound hr
        rw [hid, hread] at hshown
        obtain rfl : d = shown := Option.some.inj (Except.ok.inj hshown)
        refine ⟨?_, r, hr, hshows⟩
        rw [hshows.runId, hid, hcast]
      · push Not at hstored
        have hnone : (s.runs.find? fun r => r.run.id = runId.num.toNat) = none :=
          List.find?_eq_none.mpr fun r hr => by simpa using hstored r hr
        rw [ApiStore.getRunDetail, hnone] at hread
        cases hread

/-- What holds at any time: a request that is waited for is one for the values with which its
effect ran last, and so is what is shown; what is shown or arrives later was `Seen`. -/
structure Workspace.Tracks (Seen : RunDetailResponse → Prop) (w : Workspace) : Prop where
  sound : w.store.Sound
  detail_request : ∀ request ∈ w.requests, request.live .detail = true →
    w.detailDeps = some (.detail, some request.runId)
  poll_request : ∀ request ∈ w.requests, request.live .poll = true →
    ∃ selected filters, w.pollDeps = some (some request.runId, selected, filters) ∧
      (request.shows = true → selected = some request.runId)
  one_detail : (w.requests.filter (RunRequest.live .detail)).length ≤ 1
  loading : w.detailLoading = true → ∃ request ∈ w.requests, request.live .detail = true
  shown : ∀ d, w.runDetail = some d → w.detailLoading = false →
    ∀ selected, w.detailDeps = some (.detail, selected) → selected = some (d.runId : ℚ)
  answers : ∀ request ∈ w.requests, ∀ d, request.answer = some d →
    (d.runId : ℚ) = request.runId ∧ Seen d
  shown_read : ∀ d, w.runDetail = some d → Seen d

/-- Both effects ran last for the same selection. -/
def Workspace.SelectedAlike (w : Workspace) : Prop :=
  w.pollDeps.map (fun deps => deps.2.1) = w.detailDeps.map Prod.snd

section

variable {w : Workspace} {Seen : RunDetailResponse → Prop}

/-- An input selects a run or none. -/
theorem Workspace.runIdInput_eq (w : Workspace) (raw : String) :
    ∃ selected, w.runIdInput raw = { w with detailRunId := selected } := by
  unfold Workspace.runIdInput
  dsimp only
  split
  · exact ⟨_, rfl⟩
  · split <;> exact ⟨_, rfl⟩

/-- An answer of `POST /runs` selects its run, and it is polled or no run is. -/
theorem Workspace.submitted_eq (w : Workspace) (outcome : RunCreateOutcome) (now : ℕ) :
    ∃ polling started message, w.submitted outcome now =
      { w with
        lastRunId := some outcome.runId
        detailRunId := some outcome.runId
        longRunHint := false
        successMsg := some message
        pollingRunId := polling
        pollStartedAt := started } := by
  unfold Workspace.submitted
  dsimp only
  split <;> exact ⟨_, _, _, rfl⟩

/-- An answer is handled or there is none. -/
theorem Workspace.after_answered (w : Workspace) (place now : ℕ) :
    w.after (.answered place now) = w ∨
      ∃ request d, w.requests[place]? = some request ∧ request.answer = some d ∧
        w.after (.answered place now) = (w.settle place).handle request d now := by
  rw [Workspace.after]
  cases hrequest : w.requests[place]? with
  | none => exact Or.inl rfl
  | some request =>
      dsimp only
      cases hanswer : request.answer with
      | none => exact Or.inl rfl
      | some d => exact Or.inr ⟨request, d, rfl, hanswer, rfl⟩

theorem Workspace.after_failed (w : Workspace) (place : ℕ) (message : String) :
    w.after (.failed place message) = w ∨
      ∃ request, w.requests[place]? = some request ∧
        w.after (.failed place message) = (w.settle place).reject request message := by
  rw [Workspace.after]
  cases w.requests[place]? with
  | none => exact Or.inl rfl
  | some request => exact Or.inr ⟨request, rfl, rfl⟩

/-! ### Cancelled requests -/

theorem live_iff {kind : RunRequestKind} {request : RunRequest} :
    request.live kind = true ↔ request.kind = kind ∧ request.cancelled = false := by
  simp [RunRequest.live]

theorem live_cleanup_self (kind : RunRequestKind) (request : RunRequest) :
    (request.cleanup kind).live kind = false := by
  unfold RunRequest.cleanup RunRequest.live
  split_ifs with hkind
  · simp
  · simp [hkind]

theorem live_cleanup_of_ne {kind other : RunRequestKind} (hne : kind ≠ other)
    (request : RunRequest) : (request.cleanup other).live kind = request.live kind := by
  unfold RunRequest.cleanup
  split_ifs with hkind
  · simp [RunRequest.live, hkind, hne.symm]
  · rfl

/-- A cleanup leaves what was asked and answered. -/
theorem cleanup_fields (kind : RunRequestKind) (request : RunRequest) :
    (request.cleanup kind).runId = request.runId ∧ (request.cleanup kind).shows = request.shows ∧
      (request.cleanup kind).answer = request.answer := by
  unfold RunRequest.cleanup
  split_ifs <;> exact ⟨rfl, rfl, rfl⟩

theorem filter_live_cleanup (kind : RunRequestKind) (requests : List RunRequest) :
    (requests.map (RunRequest.cleanup kind)).filter (RunRequest.live kind) = [] := by
  refine List.filter_eq_nil_iff.mpr fun request hrequest => ?_
  obtain ⟨earlier, -, rfl⟩ := List.mem_map.mp hrequest
  rw [live_cleanup_self]
  exact Bool.false_ne_true

theorem filter_live_cleanup_of_ne {kind other : RunRequestKind} (hne : kind ≠ other)
    (requests : List RunRequest) :
    ((requests.map (RunRequest.cleanup other)).filter (RunRequest.live kind)).length =
      (requests.filter (RunRequest.live kind)).length := by
  rw [List.filter_map, List.length_map]
  refine congrArg List.length (List.filter_congr fun request _ => ?_)
  exact live_cleanup_of_ne hne request

namespace Workspace.Tracks

/-- What is tracked is none of the other values. -/
theorem frame (h : w.Tracks Seen) {w' : Workspace} (hstore : w'.store = w.store)
    (hrequests : w'.requests = w.requests) (hdetailDeps : w'.detailDeps = w.detailDeps)
    (hpollDeps : w'.pollDeps = w.pollDeps) (hloading : w'.detailLoading = w.detailLoading)
    (hdetail : w'.runDetail = w.runDetail) : w'.Tracks Seen where
  sound := by
    rw [hstore]
    exact h.sound
  detail_request := by
    rw [hrequests, hdetailDeps]
    exact h.detail_request
  poll_request := by
    rw [hrequests, hpollDeps]
    exact h.poll_request
  one_detail := by
    rw [hrequests]
    exact h.one_detail
  loading := by
    rw [hloading, hrequests]
    exact h.loading
  shown := by
    rw [hdetail, hloading, hdetailDeps]
    exact h.shown
  answers := by
    rw [hrequests]
    exact h.answers
  shown_read := by
    rw [hdetail]
    exact h.shown_read

/-- The answers of requests that were cancelled are still those of the runs asked for. -/
theorem answers_cleanup (h : w.Tracks Seen) (kind : RunRequestKind) {request : RunRequest}
    (hrequest : request ∈ w.requests.map (RunRequest.cleanup kind)) {d : RunDetailResponse}
    (hanswer : request.answer = some d) :
    (d.runId : ℚ) = request.runId ∧ Seen d := by
  obtain ⟨earlier, hearlier, rfl⟩ := List.mem_map.mp hrequest
  obtain ⟨hrunId, -, hsame⟩ := cleanup_fields kind earlier
  rw [hsame] at hanswer
  rw [hrunId]
  exact h.answers earlier hearlier d hanswer

theorem poll_request_cleanup (h : w.Tracks Seen) {request : RunRequest}
    (hrequest : request ∈ w.requests.map (RunRequest.cleanup .detail))
    (hlive : request.live .poll = true) :
    ∃ selected filters, w.pollDeps = some (some request.runId, selected, filters) ∧
      (request.shows = true → selected = some request.runId) := by
  obtain ⟨earlier, hearlier, rfl⟩ := List.mem_map.mp hrequest
  obtain ⟨hrunId, hshows, -⟩ := cleanup_fields .detail earlier
  have hne : RunRequestKind.poll ≠ .detail := by decide
  rw [live_cleanup_of_ne hne] at hlive
  rw [hrunId, hshows]
  exact h.poll_request earlier hearlier hlive

theorem not_live_of_mem_cleanup {kind : RunRequestKind} {requests : List RunRequest}
    {request : RunRequest} (hrequest : request ∈ requests.map (RunRequest.cleanup kind)) :
    request.live kind = false := by
  obtain ⟨earlier, -, rfl⟩ := List.mem_map.mp hrequest
  exact live_cleanup_self kind earlier

/-! ### The effects -/

theorem initial {store : ApiStore} (hsound : store.Sound) (route : Route) :
    (Workspace.initial store route).Tracks Seen where
  sound := hsound
  detail_request _ h := absurd h List.not_mem_nil
  poll_request _ h := absurd h List.not_mem_nil
  one_detail := Nat.zero_le 1
  loading h := Bool.noConfusion h
  shown _ h := absurd h (Option.some_ne_none _).symm
  answers _ h := absurd h List.not_mem_nil
  shown_read _ h := absurd h (Option.some_ne_none _).symm

theorem detailEffect (h : w.Tracks Seen) : w.detailEffect.Tracks Seen := by
  unfold Workspace.detailEffect
  dsimp only
  split
  · exact h
  · cases hasked : (if w.rendered.route.view = .detail then w.rendered.detailRunId else none) with
    | none =>
        exact
          { sound := h.sound
            detail_request := fun request hrequest hlive => by
              rw [not_live_of_mem_cleanup hrequest] at hlive
              exact Bool.noConfusion hlive
            poll_request := fun request hrequest hlive => h.poll_request_cleanup hrequest hlive
            one_detail := by
              rw [filter_live_cleanup]
              exact Nat.zero_le 1
            loading := fun hloading => Bool.noConfusion hloading
            shown := fun d hd => absurd hd (Option.some_ne_none d).symm
            answers := fun request hrequest d hd => h.answers_cleanup .detail hrequest hd
            shown_read := fun d hd => absurd hd (Option.some_ne_none d).symm }
    | some runId =>
        -- The requests of the last effect are cancelled, so the one it starts is alone.
        have hdeps : some (w.rendered.route.view, w.rendered.detailRunId) =
            some (View.detail, some runId) := by
          split_ifs at hasked with hview
          rw [hview, hasked]
        exact
          { sound := h.sound
            detail_request := fun request hrequest hlive => by
              rcases List.mem_append.mp hrequest with hold | hnew
              · rw [not_live_of_mem_cleanup hold] at hlive
                exact Bool.noConfusion hlive
              · rw [List.mem_singleton.mp hnew]
                exact hdeps
            poll_request := fun request hrequest hlive => by
              rcases List.mem_append.mp hrequest with hold | hnew
              · exact h.poll_request_cleanup hold hlive
              · rw [List.mem_singleton.mp hnew] at hlive
                exact Bool.noConfusion hlive
            one_detail := by
              rw [List.filter_append, filter_live_cleanup, List.nil_append]
              exact Nat.le_refl 1
            loading := fun _ => ⟨_, List.mem_append_right _ (List.mem_singleton_self _), rfl⟩
            shown := fun d _ hloading => Bool.noConfusion hloading
            answers := fun request hrequest d hd => by
              rcases List.mem_append.mp hrequest with hold | hnew
              · exact h.answers_cleanup .detail hold hd
              · rw [List.mem_singleton.mp hnew] at hd
                exact absurd hd (Option.some_ne_none d).symm
            shown_read := h.shown_read }

/-- One more poll, for the values of the last poll effect. -/
theorem pollOnce (h : w.Tracks Seen) {pollingRunId : Javascript.Number}
    {selected : Option Javascript.Number} {filters : RunsListServerFilters}
    (hdeps : w.pollDeps = some (some pollingRunId, selected, filters)) :
    (w.pollOnce pollingRunId selected).Tracks Seen where
  sound := h.sound
  detail_request request hrequest hlive := by
    rcases List.mem_append.mp hrequest with hold | hnew
    · exact h.detail_request request hold hlive
    · rw [List.mem_singleton.mp hnew] at hlive
      exact Bool.noConfusion hlive
  poll_request request hrequest hlive := by
    rcases List.mem_append.mp hrequest with hold | hnew
    · exact h.poll_request request hold hlive
    · rw [List.mem_singleton.mp hnew]
      exact ⟨selected, filters, hdeps, fun hshows => of_decide_eq_true hshows⟩
  one_detail := by
    have hone := h.one_detail
    unfold Workspace.pollOnce
    rw [List.filter_append, List.length_append]
    exact hone
  loading hloading := by
    obtain ⟨request, hrequest, hlive⟩ := h.loading hloading
    exact ⟨request, List.mem_append_left _ hrequest, hlive⟩
  shown := h.shown
  answers request hrequest d hd := by
    rcases List.mem_append.mp hrequest with hold | hnew
    · exact h.answers request hold d hd
    · rw [List.mem_singleton.mp hnew] at hd
      exact absurd hd (Option.some_ne_none d).symm
  shown_read := h.shown_read

theorem pollEffect (h : w.Tracks Seen) : w.pollEffect.Tracks Seen := by
  unfold Workspace.pollEffect
  split
  · exact h
  · have hne : RunRequestKind.detail ≠ .poll := by decide
    have hcleaned : ({ w with
        requests := w.requests.map (RunRequest.cleanup .poll)
        pollDeps := some (pollDependencies w.rendered) } : Workspace).Tracks
          Seen :=
      { sound := h.sound
        detail_request := fun request hrequest hlive => by
          obtain ⟨earlier, hearlier, rfl⟩ := List.mem_map.mp hrequest
          rw [live_cleanup_of_ne hne] at hlive
          rw [(cleanup_fields .poll earlier).1]
          exact h.detail_request earlier hearlier hlive
        poll_request := fun request hrequest hlive => by
          rw [not_live_of_mem_cleanup hrequest] at hlive
          exact Bool.noConfusion hlive
        one_detail := by
          rw [filter_live_cleanup_of_ne hne]
          exact h.one_detail
        loading := fun hloading => by
          obtain ⟨request, hrequest, hlive⟩ := h.loading hloading
          refine ⟨_, List.mem_map_of_mem hrequest, ?_⟩
          rw [live_cleanup_of_ne hne]
          exact hlive
        shown := h.shown
        answers := fun request hrequest d hd => h.answers_cleanup .poll hrequest hd
        shown_read := h.shown_read }
    unfold pollDependencies at hcleaned ⊢
    dsimp only at hcleaned ⊢
    cases hpolling : w.rendered.pollingRunId with
    | none =>
        rw [hpolling] at hcleaned
        exact hcleaned.frame rfl rfl rfl rfl rfl rfl
    | some pollingRunId =>
        rw [hpolling] at hcleaned
        exact hcleaned.pollOnce rfl

theorem routeEffect (h : w.Tracks Seen) : w.routeEffect.Tracks Seen := by
  unfold Workspace.routeEffect
  dsimp only
  split
  · exact h
  · exact h.frame rfl rfl rfl rfl rfl rfl

/-! ### The answers -/

/-- Without a request that nothing waits for. -/
theorem settle (h : w.Tracks Seen) {place : ℕ} {request : RunRequest}
    (hrequest : w.requests[place]? = some request)
    (hloading : w.detailLoading = true → request.live .detail = false) :
    (w.settle place).Tracks Seen where
  sound := h.sound
  detail_request other hother hlive :=
    h.detail_request other (List.mem_of_mem_eraseIdx hother) hlive
  poll_request other hother hlive := h.poll_request other (List.mem_of_mem_eraseIdx hother) hlive
  one_detail := (((List.eraseIdx_sublist _ _).filter _).length_le).trans h.one_detail
  loading hstill := by
    obtain ⟨waiting, hwaiting, hlive⟩ := h.loading hstill
    obtain ⟨i, hi⟩ := List.mem_iff_getElem?.mp hwaiting
    refine ⟨waiting, List.mem_eraseIdx_iff_getElem?.mpr ⟨i, ?_, hi⟩, hlive⟩
    rintro rfl
    rw [hrequest, Option.some.injEq] at hi
    rw [hi, hlive] at hloading
    exact Bool.noConfusion (hloading hstill)
  shown := h.shown
  answers other hother := h.answers other (List.mem_of_mem_eraseIdx hother)
  shown_read := h.shown_read

/-- What is shown from now on is of the run for which the effect of the detail view ran. -/
theorem showing (h : w.Tracks Seen) (place : ℕ) {detail : Option RunDetailResponse}
    (hdetail : ∀ d, detail = some d → Seen d ∧
      ∀ selected, w.detailDeps = some (.detail, selected) → selected = some (d.runId : ℚ)) :
    ({ w.settle place with runDetail := detail, detailLoading := false } : Workspace).Tracks
      Seen where
  sound := h.sound
  detail_request other hother hlive :=
    h.detail_request other (List.mem_of_mem_eraseIdx hother) hlive
  poll_request other hother hlive := h.poll_request other (List.mem_of_mem_eraseIdx hother) hlive
  one_detail := (((List.eraseIdx_sublist _ _).filter _).length_le).trans h.one_detail
  loading hstill := Bool.noConfusion hstill
  shown d hd _ := (hdetail d hd).2
  answers other hother := h.answers other (List.mem_of_mem_eraseIdx hother)
  shown_read d hd := (hdetail d hd).1

/-- A poll that shows its answer shows the selected run. -/
theorem polled (h : w.Tracks Seen) (halike : w.SelectedAlike) {place : ℕ}
    {request : RunRequest} (hrequest : w.requests[place]? = some request)
    (hlive : request.live .poll = true) {d : RunDetailResponse} (hanswer : request.answer = some d)
    (now : ℕ) : ((w.settle place).polled request.shows d now).Tracks Seen := by
  have hmem := List.mem_of_getElem? hrequest
  obtain ⟨hrunId, hread⟩ := h.answers request hmem d hanswer
  have hfirst : (if request.shows then
      { w.settle place with runDetail := some d, detailLoading := false }
        else w.settle place : Workspace).Tracks Seen := by
    split_ifs with hshows
    · refine h.showing place fun d' hd' => ?_
      obtain rfl := Option.some.inj hd'
      refine ⟨hread, fun selected hselected => ?_⟩
      obtain ⟨polledFor, filters, hdeps, hsame⟩ := h.poll_request request hmem hlive
      -- The two effects ran for the same selection.
      unfold Workspace.SelectedAlike at halike
      rw [hdeps, hselected] at halike
      have hpolled : polledFor = selected := Option.some.inj halike
      rw [← hpolled, hsame hshows, hrunId]
    · refine h.settle hrequest fun _ => ?_
      rw [live_iff] at hlive
      simp [RunRequest.live, hlive.1]
  unfold Workspace.polled
  dsimp only
  split_ifs at hfirst ⊢ <;> exact hfirst.frame rfl rfl rfl rfl rfl rfl

theorem answered (h : w.Tracks Seen) (halike : w.SelectedAlike) {place : ℕ}
    {request : RunRequest} (hrequest : w.requests[place]? = some request) {d : RunDetailResponse}
    (hanswer : request.answer = some d) (now : ℕ) :
    ((w.settle place).handle request d now).Tracks Seen := by
  unfold Workspace.handle
  have hmem := List.mem_of_getElem? hrequest
  split_ifs with hcancelled
  · exact h.settle hrequest fun _ => by simp [RunRequest.live, hcancelled]
  · rw [Bool.not_eq_true] at hcancelled
    cases hkind : request.kind with
    | detail =>
        refine h.showing place fun d' hd' => ?_
        obtain rfl := Option.some.inj hd'
        obtain ⟨hrunId, hread⟩ := h.answers request hmem d hanswer
        have hdeps := h.detail_request request hmem (live_iff.mpr ⟨hkind, hcancelled⟩)
        refine ⟨hread, fun selected hselected => ?_⟩
        rw [hdeps, Option.some.injEq, Prod.mk.injEq] at hselected
        rw [← hselected.2, hrunId]
    | poll => exact h.polled halike hrequest (live_iff.mpr ⟨hkind, hcancelled⟩) hanswer now

theorem failed (h : w.Tracks Seen) {place : ℕ} {request : RunRequest}
    (hrequest : w.requests[place]? = some request) (message : String) :
    ((w.settle place).reject request message).Tracks Seen := by
  unfold Workspace.reject
  split_ifs with hcancelled
  · exact h.settle hrequest fun _ => by simp [RunRequest.live, hcancelled]
  · cases hkind : request.kind with
    | detail =>
        have hnothing : ({ w.settle place with runDetail := none, detailLoading := false } :
            Workspace).Tracks Seen :=
          h.showing place fun d hd => absurd hd (Option.some_ne_none d).symm
        exact hnothing.frame rfl rfl rfl rfl rfl rfl
    | poll =>
        have hsettled := h.settle hrequest fun _ => by simp [RunRequest.live, hkind]
        exact hsettled.frame rfl rfl rfl rfl rfl rfl

/-- The server answers what it reads. -/
theorem read (h : w.Tracks Seen)
    (hsees : ∀ r ∈ w.store.runs, ∀ d : RunDetailResponse, d.Shows w.store r → Seen d) (place : ℕ) :
    (w.after (.read place)).Tracks Seen := by
  by_cases hplace : place < w.requests.length
  · obtain ⟨before, request, after, hrequests, -, hread⟩ :=
      List.exists_of_modify (RunRequest.read w.store) hplace
    have hmem : ∀ other ∈ (w.after (.read place)).requests,
        other ∈ w.requests ∨ request ∈ w.requests ∧ other = request.read w.store := by
      intro other hother
      replace hother : other ∈ w.requests.modify place (RunRequest.read w.store) := hother
      rw [hread, List.mem_append, List.mem_cons] at hother
      rw [hrequests, List.mem_append, List.mem_cons, List.mem_append, List.mem_cons]
      tauto
    exact
      { sound := h.sound
        detail_request := fun other hother hlive => by
          rcases hmem other hother with hold | ⟨hin, rfl⟩
          · exact h.detail_request other hold hlive
          · exact h.detail_request request hin hlive
        poll_request := fun other hother hlive => by
          rcases hmem other hother with hold | ⟨hin, rfl⟩
          · exact h.poll_request other hold hlive
          · exact h.poll_request request hin hlive
        one_detail := by
          have hone := h.one_detail
          show ((w.requests.modify place (RunRequest.read w.store)).filter
            (RunRequest.live .detail)).length ≤ 1
          rw [hrequests, List.filter_append, List.filter_cons] at hone
          rw [hread, List.filter_append, List.filter_cons]
          have hsame : (request.read w.store).live .detail = request.live .detail := rfl
          rw [hsame]
          cases hlive : request.live .detail <;> simpa [hlive] using hone
        loading := fun hloading => by
          obtain ⟨waiting, hwaiting, hlive⟩ := h.loading hloading
          show ∃ other ∈ w.requests.modify place (RunRequest.read w.store), _
          rw [hread]
          rw [hrequests, List.mem_append, List.mem_cons] at hwaiting
          rcases hwaiting with hbefore | rfl | hafter
          · exact ⟨waiting, List.mem_append_left _ hbefore, hlive⟩
          · exact ⟨_, List.mem_append_right _ List.mem_cons_self, hlive⟩
          · exact ⟨waiting, List.mem_append_right _ (List.mem_cons_of_mem _ hafter), hlive⟩
        shown := h.shown
        answers := fun other hother d hd => by
          rcases hmem other hother with hold | ⟨hin, rfl⟩
          · exact h.answers other hold d hd
          · cases hearlier : request.answer with
            | some earlier =>
                have hkept : request.answer = some d := by
                  rw [hearlier]
                  simpa [RunRequest.read, hearlier] using hd
                exact h.answers request hin d hkept
            | none =>
                have hnew : w.store.detailOf request.runId = some d := by
                  simpa [RunRequest.read, hearlier] using hd
                obtain ⟨hrunId, r, hr, hshows⟩ := detailOf_shows h.sound hnew
                exact ⟨hrunId, hsees r hr d hshows⟩
        shown_read := h.shown_read }
  · have hnone : w.after (.read place) = w := by
      show { w with requests := w.requests.modify place (RunRequest.read w.store) } = w
      rw [List.modify_eq_self (Nat.le_of_not_lt hplace)]
    rw [hnone]
    exact h

/-- A step of the store. -/
theorem api (h : w.Tracks Seen) {event : ApiEvent} {store : ApiStore}
    (hstep : (apiSystem deps limits).step w.store event = some store) :
    ({ w with store := store } : Workspace).Tracks Seen where
  sound := h.sound.step hstep
  detail_request := h.detail_request
  poll_request := h.poll_request
  one_detail := h.one_detail
  loading := h.loading
  shown := h.shown
  answers := h.answers
  shown_read := h.shown_read

theorem step (h : w.Tracks Seen) (halike : w.SelectedAlike)
    (hsees : ∀ r ∈ w.store.runs, ∀ d : RunDetailResponse, d.Shows w.store r → Seen d)
    {event : WorkspaceEvent}
    {w' : Workspace} (hstep : (workspaceSystem deps limits).step w event = some w') :
    w'.Tracks Seen := by
  cases event with
  | api event =>
      obtain ⟨store, hstore, rfl⟩ := Option.map_eq_some_iff.mp hstep
      exact h.api hstore
  | read place =>
      obtain rfl := Option.some.inj hstep
      exact h.read hsees place
  | effects =>
      obtain rfl := Option.some.inj hstep
      exact h.routeEffect.detailEffect.pollEffect
  | interval =>
      obtain rfl := Option.some.inj hstep
      show w.interval.Tracks Seen
      unfold Workspace.interval
      split
      · exact h.pollOnce ‹_›
      · exact h
  | answered place now =>
      obtain rfl := Option.some.inj hstep
      rcases w.after_answered place now with hsame | ⟨request, d, hrequest, hanswer, hafter⟩
      · exact hsame.symm ▸ h
      · exact hafter.symm ▸ h.answered halike hrequest hanswer now
  | failed place message =>
      obtain rfl := Option.some.inj hstep
      rcases w.after_failed place message with hsame | ⟨request, hrequest, hafter⟩
      · exact hsame.symm ▸ h
      · exact hafter.symm ▸ h.failed hrequest message
  | runIdInput raw =>
      obtain rfl := Option.some.inj hstep
      obtain ⟨selected, hinput⟩ := w.runIdInput_eq raw
      show (w.runIdInput raw).Tracks Seen
      rw [hinput]
      exact h.frame rfl rfl rfl rfl rfl rfl
  | submitted outcome now =>
      obtain rfl := Option.some.inj hstep
      obtain ⟨polling, started, message, hsubmitted⟩ := w.submitted_eq outcome now
      show (w.submitted outcome now).Tracks Seen
      rw [hsubmitted]
      exact h.frame rfl rfl rfl rfl rfl rfl
  | navigated _ | setRunsFilters _ | clearMessages | render =>
      obtain rfl := Option.some.inj hstep
      exact h.frame rfl rfl rfl rfl rfl rfl

end Workspace.Tracks

/-! ### The dependencies -/

namespace Workspace

variable (w)

/-- What only the store and the effects change. -/
def outer : ApiStore × Option (Option Javascript.Number × Option Javascript.Number ×
    RunsListServerFilters) × Option (View × Option Javascript.Number) :=
  (w.store, w.pollDeps, w.detailDeps)

theorem outer_polled (shows : Bool) (d : RunDetailResponse) (now : ℕ) :
    (w.polled shows d now).outer = w.outer := by
  unfold polled
  dsimp only
  split_ifs <;> rfl

theorem outer_handle (request : RunRequest) (d : RunDetailResponse) (now : ℕ) :
    (w.handle request d now).outer = w.outer := by
  unfold handle
  split
  · rfl
  · cases request.kind with
    | detail => rfl
    | poll => exact w.outer_polled request.shows d now

theorem outer_reject (request : RunRequest) (message : String) :
    (w.reject request message).outer = w.outer := by
  unfold reject
  split
  · rfl
  · cases request.kind <;> rfl

theorem outer_after {event : WorkspaceEvent} (hne : event ≠ .effects) :
    (w.after event).outer = w.outer := by
  cases event with
  | effects => exact absurd rfl hne
  | answered place now =>
      rcases w.after_answered place now with hsame | ⟨request, d, -, -, hafter⟩
      · rw [hsame]
      · rw [hafter, outer_handle]
        rfl
  | failed place message =>
      rcases w.after_failed place message with hsame | ⟨request, -, hafter⟩
      · rw [hsame]
      · rw [hafter, outer_reject]
        rfl
  | runIdInput raw =>
      obtain ⟨selected, hinput⟩ := w.runIdInput_eq raw
      show (w.runIdInput raw).outer = w.outer
      rw [hinput]
      rfl
  | submitted outcome now =>
      obtain ⟨polling, started, message, hsubmitted⟩ := w.submitted_eq outcome now
      show (w.submitted outcome now).outer = w.outer
      rw [hsubmitted]
      rfl
  | interval =>
      show w.interval.outer = w.outer
      unfold interval
      split <;> rfl
  | api _ | navigated _ | setRunsFilters _ | clearMessages | render | read _ => rfl

theorem routeEffect_fields : w.routeEffect.store = w.store := by
  unfold routeEffect
  dsimp only
  split <;> rfl

theorem detailEffect_fields :
    w.detailEffect.detailDeps = some (w.rendered.route.view, w.rendered.detailRunId) ∧
      w.detailEffect.rendered = w.rendered ∧ w.detailEffect.store = w.store := by
  unfold detailEffect
  dsimp only
  split
  · exact ⟨‹_›, rfl, rfl⟩
  · split <;> exact ⟨rfl, rfl, rfl⟩

theorem pollEffect_fields :
    w.pollEffect.pollDeps = some (pollDependencies w.rendered) ∧
      w.pollEffect.detailDeps = w.detailDeps ∧ w.pollEffect.store = w.store := by
  unfold pollEffect
  split
  · exact ⟨‹_›, rfl, rfl⟩
  · dsimp only
    split <;> exact ⟨rfl, rfl, rfl⟩

/-- The effects of a render run together, so they run for the same selection. -/
theorem selectedAlike_effects : w.effects.SelectedAlike := by
  unfold SelectedAlike effects
  rw [(pollEffect_fields _).1, (pollEffect_fields _).2.1, (detailEffect_fields _).1,
    (detailEffect_fields _).2.1]
  rfl

theorem store_effects : w.effects.store = w.store := by
  unfold effects
  rw [(pollEffect_fields _).2.2, (detailEffect_fields _).2.2, routeEffect_fields]

variable {w}

/-- A step of the store, the effects of a render, or a step that does neither. -/
theorem step_cases {event : WorkspaceEvent} {w' : Workspace}
    (hstep : (workspaceSystem deps limits).step w event = some w') :
    (∃ event store, (apiSystem deps limits).step w.store event = some store ∧
        w' = { w with store := store }) ∨ w' = w.effects ∨ w'.outer = w.outer := by
  cases event with
  | api event =>
      obtain ⟨store, hstore, rfl⟩ := Option.map_eq_some_iff.mp hstep
      exact Or.inl ⟨event, store, hstore, rfl⟩
  | effects => exact Or.inr (Or.inl (Option.some.inj hstep).symm)
  | navigated _ | runIdInput _ | submitted _ _ | setRunsFilters _ | clearMessages | render
  | interval | read _ | answered _ _ | failed _ _ =>
      obtain rfl := Option.some.inj hstep
      exact Or.inr (Or.inr (w.outer_after (by simp)))

theorem SelectedAlike.step (halike : w.SelectedAlike) {event : WorkspaceEvent} {w' : Workspace}
    (hstep : (workspaceSystem deps limits).step w event = some w') : w'.SelectedAlike := by
  rcases step_cases hstep with ⟨-, store, -, rfl⟩ | rfl | hsame
  · exact halike
  · exact w.selectedAlike_effects
  · have hpoll : w'.pollDeps = w.pollDeps := congrArg (fun outer => outer.2.1) hsame
    have hdetail : w'.detailDeps = w.detailDeps := congrArg (fun outer => outer.2.2) hsame
    unfold SelectedAlike
    rw [hpoll, hdetail]
    exact halike

/-- No run of the store is gone. -/
theorem runs_kept_step {event : WorkspaceEvent} {w' : Workspace}
    (hstep : (workspaceSystem deps limits).step w event = some w') :
    w.store.runs.map TracedRun.identity <+: w'.store.runs.map TracedRun.identity := by
  rcases step_cases hstep with ⟨event, store, hstore, rfl⟩ | rfl | hsame
  · exact identity_step hstore
  · rw [w.store_effects]
  · have hstore : w'.store = w.store := congrArg Prod.fst hsame
    rw [hstore]

end Workspace

end

/-! ### Runs -/

/-- The detail is that of a run in a store that the workspace went through. -/
def SeenAlong (deps : PipelineEnv) (limits : UploadLimits) (first : Workspace)
    (events : List WorkspaceEvent) (d : RunDetailResponse) : Prop :=
  ∃ earlier, (workspaceSystem deps limits).Visits first events earlier ∧
    ∃ r ∈ earlier.store.runs, d.Shows earlier.store r

/-- What a workspace tracks at the end of a run. -/
theorem tracks_of_exec {first w : Workspace} {events : List WorkspaceEvent}
    (hfirst : first.Tracks (SeenAlong deps limits first events)) (halike : first.SelectedAlike)
    (hrun : (workspaceSystem deps limits).exec first events = some w) :
    w.Tracks (SeenAlong deps limits first events) := by
  have hvisited : (workspaceSystem deps limits).Meets
      (fun earlier _ => (workspaceSystem deps limits).Visits first events earlier) first
        events := by
    refine LabelledSystem.meets_of_guard fun before event after earlier hevents hbefore => ?_
    exact ⟨before, ⟨event :: after, hevents⟩, hbefore⟩
  have hboth := LabelledSystem.exec_invariant
    (I := fun w => w.Tracks (SeenAlong deps limits first events) ∧ w.SelectedAlike)
    (fun earlier event later hI hvisits hstep =>
      ⟨hI.1.step hI.2 (fun r hr d hshows => ⟨earlier, hvisits, r, hr, hshows⟩) hstep,
        hI.2.step hstep⟩)
    ⟨hfirst, halike⟩ hvisited hrun
  exact hboth.1

/-- No run of an earlier store is gone. -/
theorem runs_kept_of_exec {earlier w : Workspace} {events : List WorkspaceEvent}
    (hrun : (workspaceSystem deps limits).exec earlier events = some w) :
    earlier.store.runs.map TracedRun.identity <+: w.store.runs.map TracedRun.identity := by
  exact LabelledSystem.exec_invariant (G := fun _ _ => True)
    (I := fun w => earlier.store.runs.map TracedRun.identity <+:
      w.store.runs.map TracedRun.identity)
    (fun _ _ _ hbefore _ hstep => hbefore.trans (Workspace.runs_kept_step hstep))
    (List.prefix_refl _) (LabelledSystem.meets_true _ _) hrun

/-- The view shows the selected run, as the server read it, or that it is loading; no poll is
waited for that is of another run than the polled one. -/
structure Workspace.ShowsSelected (w : Workspace) (deps : PipelineEnv) (limits : UploadLimits)
    (first : Workspace) (events : List WorkspaceEvent) : Prop where
  selected : ∀ d, w.shown = some d → w.detailRunId = some (d.runId : ℚ)
  seen : ∀ d, w.shown = some d → SeenAlong deps limits first events d
  stored : ∀ d, w.shown = some d → ∃ r ∈ w.store.runs, r.run.id = d.runId
  loading : w.detailLoading = true → w.route.view = .detail ∧
    ∃ request ∈ w.requests, request.live .detail = true ∧ w.detailRunId = some request.runId
  polls : ∀ request ∈ w.requests, request.live .poll = true → w.pollingRunId = some request.runId
  one_detail : (w.requests.filter (RunRequest.live .detail)).length ≤ 1

/-- **The detail view shows the selected run**: whatever the order of renders, inputs and
answers, and whatever the API, its workers and its queue do meanwhile. -/
theorem detail_view_shows_selected {before : List ApiEvent} {store : ApiStore}
    (hstore : (apiSystem deps limits).exec .empty before = some store) {route : Route}
    {events : List WorkspaceEvent} {w : Workspace}
    (hrun : (workspaceSystem deps limits).exec (.initial store route) events = some w)
    (hsettled : w.Settled) :
    w.ShowsSelected deps limits (.initial store route) events := by
  have htracks : w.Tracks (SeenAlong deps limits (.initial store route) events) :=
    tracks_of_exec (.initial (ApiStore.sound_empty.exec hstore) route) rfl hrun
  have hshown : ∀ d, w.shown = some d →
      w.route.view = .detail ∧ w.detailLoading = false ∧ w.runDetail = some d := by
    intro d hd
    unfold Workspace.shown at hd
    split_ifs at hd with hview hinvalid hloading
    exact ⟨hview, Bool.eq_false_of_not_eq_true hloading, hd⟩
  exact
    { selected := fun d hd => by
        obtain ⟨hview, hloading, hdetail⟩ := hshown d hd
        refine htracks.shown d hdetail hloading w.detailRunId ?_
        rw [hsettled.detail, hview]
      seen := fun d hd => htracks.shown_read d (hshown d hd).2.2
      stored := fun d hd => by
        obtain ⟨earlier, ⟨first, ⟨second, rfl⟩, hfirst⟩, r, hr, hshows⟩ :=
          htracks.shown_read d (hshown d hd).2.2
        rw [LabelledSystem.exec_append, hfirst] at hrun
        have hkept := (runs_kept_of_exec hrun).subset (List.mem_map_of_mem hr)
        obtain ⟨kept, hin, hidentity⟩ := List.mem_map.mp hkept
        refine ⟨kept, hin, ?_⟩
        rw [hshows.runId]
        exact congrArg Prod.fst hidentity
      loading := fun hloading => by
        obtain ⟨request, hrequest, hlive⟩ := htracks.loading hloading
        have hdeps := htracks.detail_request request hrequest hlive
        rw [hsettled.detail, Option.some.injEq, Prod.mk.injEq] at hdeps
        exact ⟨hdeps.1, request, hrequest, hlive, hdeps.2⟩
      polls := fun request hrequest hlive => by
        obtain ⟨selected, filters, hdeps, -⟩ := htracks.poll_request request hrequest hlive
        rw [hsettled.poll, Option.some.injEq, Prod.mk.injEq] at hdeps
        exact hdeps.1
      one_detail := htracks.one_detail }

/-- Run 7 is asked for first, and then run 6; the failure for 7 comes last but one. -/
def lateFailure : List WorkspaceEvent :=
  [.effects, .runIdInput "6", .render, .effects, .read 1, .failed 0 "Run not found",
    .navigated { view := .detail, runId := some "6" }, .render, .effects, .answered 0 0]

/-- The view then shows the run of the note. -/
theorem note_run_shown :
    ∃ store w, (apiSystem oneChunkEnv defaultLimits).exec .empty evaluatedNote = some store ∧
      (workspaceSystem oneChunkEnv defaultLimits).exec
        (.initial store { view := .detail, runId := some "7" }) lateFailure = some w ∧
      w.shown.map RunDetailResponse.runId = some 6 ∧
      w.ShowsSelected oneChunkEnv defaultLimits
        (.initial store { view := .detail, runId := some "7" }) lateFailure := by
  have hall : (((apiSystem oneChunkEnv defaultLimits).exec .empty evaluatedNote).bind fun store =>
      (workspaceSystem oneChunkEnv defaultLimits).exec
        (.initial store { view := .detail, runId := some "7" }) lateFailure).map (fun w =>
          (w.shown.map RunDetailResponse.runId, decide w.Settled)) = some (some 6, true) := by
    decide +kernel
  obtain ⟨w, hw, hvalues⟩ := Option.map_eq_some_iff.mp hall
  obtain ⟨store, hstore, hrun⟩ := Option.bind_eq_some_iff.mp hw
  obtain ⟨hshown, hsettled⟩ := Prod.mk.inj hvalues
  exact ⟨store, w, hstore, hrun, hshown,
    detail_view_shows_selected hstore hrun (of_decide_eq_true hsettled)⟩

end

end ContextLens
