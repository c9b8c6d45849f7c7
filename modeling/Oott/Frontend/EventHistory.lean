import Oott.Effects.Runs
import Oott.Frontend.PolledValue

/-!
# The event history

`devices/device_event_history.dart`: every selection of a time range starts a request, and every
response is applied, whichever request it belongs to. While the history loads, and after an error,
the selector is not built, so that a second selection can only come from the frame that the first
one came from. Then the response that comes last is shown, and the first one has the loading
indicator go (`earlier_range_shown`). Where no selection is made while a request is in flight, the
history shows the last selected range (`last_range_shown`); one selection a frame is enough for that
(`idle_of_oneSelectionPerFrame`).

What an event has does not matter here. A request is for a range; the cutoff that the clock gives it
is left out.
-/

set_option autoImplicit false
set_option relaxedAutoImplicit false

namespace Oott

open Effects

/-- `_TimeRange`. -/
inductive TimeRange
  | today
  | lastWeek
  | lastThreeMonths
  | lastSixMonths
  | lastYear
deriving DecidableEq

/-- A request for the events since the start of a range. -/
structure EventsRequest where
  number : ℕ
  range : TimeRange
deriving DecidableEq

/-- `_DeviceEventHistoryState`, with the requests that have not been answered, and whether the last
frame has built the selector. -/
structure DeviceEventHistory (Event : Type) where
  events : Option (List Event) := none
  isLoading : Bool := true
  error : Option String := none
  selectedRange : TimeRange := .lastWeek
  mounted : Bool := true
  selectorBuilt : Bool := false
  requestsStarted : ℕ := 0
  inFlight : List EventsRequest := []

/-- What the history builds: the loading indicator, an error, or the selector with the events of a
range. -/
inductive HistoryView (Event : Type)
  | loading
  | error (message : String)
  | events (events : List Event)

namespace DeviceEventHistory

variable {Event : Type}

/-- `_loadEvents`, up to the call of the backend. -/
def loadEvents (history : DeviceEventHistory Event) : DeviceEventHistory Event :=
  { history with
    isLoading := true
    error := none
    requestsStarted := history.requestsStarted + 1
    inFlight := history.inFlight ++ [⟨history.requestsStarted, history.selectedRange⟩] }

/-- `_loadEvents`, from the response on. -/
def completed (history : DeviceEventHistory Event) (request : EventsRequest)
    (outcome : FetchOutcome (List Event)) : DeviceEventHistory Event :=
  let history := { history with inFlight := history.inFlight.erase request }
  if ¬ history.mounted then history
  else match outcome with
    | .value events => { history with events := some events, isLoading := false }
    | .error message => { history with error := some message, isLoading := false }
    | .cancelled => history

/-- `build`. -/
def view (history : DeviceEventHistory Event) : HistoryView Event :=
  if history.isLoading then .loading
  else match history.error with
    | some message => .error message
    | none => .events (history.events.getD [])

/-- A frame. -/
def build (history : DeviceEventHistory Event) : DeviceEventHistory Event :=
  { history with
    selectorBuilt := match history.view with
      | .events _ => true
      | _ => false }

/-- `initState`. -/
def opened (Event : Type) : DeviceEventHistory Event := loadEvents {}

end DeviceEventHistory

/-- What can happen to the event history. -/
inductive HistoryLabel (Event : Type)
  | selected (range : TimeRange)
  | completed (request : EventsRequest) (outcome : FetchOutcome (List Event))
  | built
  | disposed

/-- The steps: a range is selected where the last frame has the selector, and a request in flight is
answered with events or an error. -/
inductive HistoryStep {Event : Type} :
    DeviceEventHistory Event → HistoryLabel Event → DeviceEventHistory Event → Prop
  | selected {history : DeviceEventHistory Event} (range : TimeRange)
      (hmounted : history.mounted = true) (hbuilt : history.selectorBuilt = true) :
      HistoryStep history (.selected range) ({ history with selectedRange := range }.loadEvents)
  | completed {history : DeviceEventHistory Event} (request : EventsRequest)
      (outcome : FetchOutcome (List Event)) (hinFlight : request ∈ history.inFlight)
      (hcancelled : outcome ≠ .cancelled) :
      HistoryStep history (.completed request outcome) (history.completed request outcome)
  | built {history : DeviceEventHistory Event} (hmounted : history.mounted = true) :
      HistoryStep history .built history.build
  | disposed {history : DeviceEventHistory Event} :
      HistoryStep history .disposed { history with mounted := false }

namespace DeviceEventHistory

section Runs

variable {Event : Type} {past : List (Taken (DeviceEventHistory Event) (HistoryLabel Event))}
  {history after : DeviceEventHistory Event} {label : HistoryLabel Event}

/-- The range of a selection. -/
def selection (taken : Taken (DeviceEventHistory Event) (HistoryLabel Event)) : Option TimeRange :=
  match taken.label with
  | .selected range => some range
  | _ => none

/-- The last selected range; at first it is the last week. -/
def lastSelected (past : List (Taken (DeviceEventHistory Event) (HistoryLabel Event))) :
    TimeRange :=
  (lastOf selection past).getD .lastWeek

/-- The response to a request, where a step is one. -/
def responseTo (request : EventsRequest)
    (taken : Taken (DeviceEventHistory Event) (HistoryLabel Event)) :
    Option (FetchOutcome (List Event)) :=
  match taken.label with
  | .completed other outcome => if other = request then some outcome else none
  | _ => none

/-- The request of the last selection. -/
def lastRequest (past : List (Taken (DeviceEventHistory Event) (HistoryLabel Event)))
    (history : DeviceEventHistory Event) : EventsRequest :=
  ⟨history.requestsStarted - 1, lastSelected past⟩

/-- What is shown is what a request has been answered with. -/
def Shows (history : DeviceEventHistory Event) : FetchOutcome (List Event) → Prop
  | .value events => history.view = .events events
  | .error message => history.view = .error message
  | .cancelled => False

/-- A selection, if it is one, has been made with no request in flight. -/
def SelectedIdle (taken : Taken (DeviceEventHistory Event) (HistoryLabel Event)) : Prop :=
  (selection taken).isSome = true → taken.before.inFlight = []

/-- What a run keeps in which no selection is made while a request is in flight. -/
structure InOrder (past : List (Taken (DeviceEventHistory Event) (HistoryLabel Event)))
    (history : DeviceEventHistory Event) : Prop where
  selected : history.selectedRange = lastSelected past
  waiting : history.inFlight = [] ∨ history.inFlight = [lastRequest past history] ∧
    history.isLoading = true ∧ history.error = none
  answered : history.mounted = true → history.inFlight = [] →
    ∃ outcome, lastOf (responseTo (lastRequest past history)) past = some outcome ∧
      history.Shows outcome

theorem lastSelected_append {taken : Taken (DeviceEventHistory Event) (HistoryLabel Event)}
    (hselection : selection taken = none) :
    lastSelected (past ++ [taken]) = lastSelected past := by
  rw [lastSelected, lastOf_append, hselection]
  rfl

theorem InOrder.opened : InOrder [] (opened Event) where
  selected := rfl
  waiting := .inr ⟨rfl, rfl, rfl⟩
  answered := nofun

/-- A step that leaves the requests and what is shown. -/
theorem InOrder.kept {taken : Taken (DeviceEventHistory Event) (HistoryLabel Event)}
    (horder : InOrder past history) (hselection : selection taken = none)
    (hresponse : ∀ request, responseTo request taken = none)
    (hafter : after = { history with
      selectorBuilt := after.selectorBuilt, mounted := after.mounted })
    (hmounted : after.mounted = true → history.mounted = true) :
    InOrder (past ++ [taken]) after := by
  have hlast : lastSelected (past ++ [taken]) = lastSelected past := lastSelected_append hselection
  rw [hafter]
  refine ⟨horder.selected.trans hlast.symm, ?_, fun h hidle ↦ ?_⟩
  · rw [lastRequest, hlast]
    exact horder.waiting
  · rw [lastRequest, hlast, lastOf_append, hresponse]
    exact horder.answered (hmounted h) hidle

theorem InOrder.completed (horder : InOrder past history) {request : EventsRequest}
    {outcome : FetchOutcome (List Event)} (hinFlight : request ∈ history.inFlight)
    (hcancelled : outcome ≠ .cancelled) :
    InOrder (past ++ [⟨history, .completed request outcome⟩])
      (history.completed request outcome) := by
  have hlast : lastSelected (past ++ [⟨history, .completed request outcome⟩]) =
    lastSelected past := lastSelected_append rfl
  rcases horder.waiting with hnone | ⟨hone, hloading, herror⟩
  · simp [hnone] at hinFlight
  obtain rfl : request = lastRequest past history := by simpa [hone] using hinFlight
  have hempty : history.inFlight.erase (lastRequest past history) = [] := by simp [hone]
  by_cases hmounted : history.mounted = true
  · cases outcome with
    | cancelled => exact absurd rfl hcancelled
    | value events =>
      simp only [DeviceEventHistory.completed, hmounted, hempty]
      refine ⟨horder.selected.trans hlast.symm, .inl rfl, fun _ _ ↦ ⟨.value events, ?_, ?_⟩⟩
      · rw [lastRequest, hlast, lastOf_append]
        simp [responseTo, lastRequest]
      · simp [Shows, view, herror]
    | error message =>
      simp only [DeviceEventHistory.completed, hmounted, hempty]
      refine ⟨horder.selected.trans hlast.symm, .inl rfl, fun _ _ ↦ ⟨.error message, ?_, ?_⟩⟩
      · rw [lastRequest, hlast, lastOf_append]
        simp [responseTo, lastRequest]
      · simp [Shows, view]
  · simp only [DeviceEventHistory.completed, hmounted, hempty]
    exact ⟨horder.selected.trans hlast.symm, .inl rfl, fun h ↦ absurd h (by simp)⟩

theorem InOrder.step (horder : InOrder past history) (hidle : SelectedIdle ⟨history, label⟩)
    (hstep : HistoryStep history label after) : InOrder (past ++ [⟨history, label⟩]) after := by
  cases hstep with
  | selected range hmounted hbuilt =>
    have hlast : lastSelected (past ++ [⟨history, .selected range⟩]) = range := by
      rw [lastSelected, lastOf_append]
      rfl
    have hnone : history.inFlight = [] := hidle rfl
    refine ⟨hlast.symm, .inr ⟨?_, rfl, rfl⟩, fun _ hempty ↦ ?_⟩
    · simp [loadEvents, hnone, lastRequest, hlast]
    · simp [loadEvents] at hempty
  | completed request outcome hinFlight hcancelled => exact horder.completed hinFlight hcancelled
  | built hmounted => exact horder.kept rfl (fun _ ↦ rfl) rfl fun _ ↦ hmounted
  | disposed => exact horder.kept rfl (fun _ ↦ rfl) rfl nofun

theorem InOrder.of_run (hrun : Run HistoryStep (DeviceEventHistory.opened Event) past history)
    (hidle : ∀ taken ∈ past, SelectedIdle taken) : InOrder past history := by
  refine hrun.invariant (fun past history ↦ (∀ taken ∈ past, SelectedIdle taken) →
    InOrder past history) (fun _ ↦ .opened) ?_ hidle
  intro past before label after ih hstep hall
  obtain ⟨hearlier, hlast⟩ := List.forall_mem_append.1 hall
  exact (ih hearlier).step (hlast _ (List.mem_singleton_self _)) hstep

/-! ### One selection a frame -/

/-- Whether a step is a frame. -/
def isFrame (taken : Taken (DeviceEventHistory Event) (HistoryLabel Event)) : Bool :=
  match taken.label with
  | .built => true
  | _ => false

@[simp]
theorem completed_selectorBuilt (request : EventsRequest) (outcome : FetchOutcome (List Event)) :
    (history.completed request outcome).selectorBuilt = history.selectorBuilt := by
  unfold DeviceEventHistory.completed
  dsimp only
  split_ifs
  · cases outcome <;> rfl
  · rfl

/-- No selection has been made since the last frame. -/
def Unselected (past : List (Taken (DeviceEventHistory Event) (HistoryLabel Event))) : Prop :=
  ∀ taken ∈ sinceLast isFrame past, selection taken = none

/-- Between two selections there is a frame. -/
def OneSelectionPerFrame
    (past : List (Taken (DeviceEventHistory Event) (HistoryLabel Event))) : Prop :=
  ∀ earlier state range, earlier ++ [⟨state, .selected range⟩] <+: past → Unselected earlier

/-- The frame shows that the selection before it loads or has loaded: then no selection is made
while a request is in flight. -/
theorem idle_of_oneSelectionPerFrame
    (hrun : Run HistoryStep (DeviceEventHistory.opened Event) past history)
    (hframes : OneSelectionPerFrame past) : ∀ taken ∈ past, SelectedIdle taken := by
  suffices hboth : (∀ taken ∈ past, SelectedIdle taken) ∧
      (history.selectorBuilt = true → Unselected past → history.inFlight = []) from hboth.1
  induction hrun with
  | start => exact ⟨List.forall_mem_nil _, fun hbuilt ↦ by simp [opened, loadEvents] at hbuilt⟩
  | @step past before after label hbefore hstep ih =>
    obtain ⟨hidle, hselectable⟩ := ih fun earlier state range hinit ↦
      hframes earlier state range (hinit.trans (List.prefix_append _ _))
    have horder := InOrder.of_run hbefore hidle
    rw [List.forall_mem_append, List.forall_mem_singleton]
    have hsince : isFrame ⟨before, label⟩ = false → Unselected (past ++ [⟨before, label⟩]) →
        selection ⟨before, label⟩ = none ∧ Unselected past := by
      intro hframe hunselected
      rw [Unselected, sinceLast_append, hframe, if_neg (by simp), List.forall_mem_append,
        List.forall_mem_singleton] at hunselected
      exact ⟨hunselected.2, hunselected.1⟩
    cases hstep with
    | selected range hmounted hbuilt =>
      have hunselected := hframes past before range List.prefix_rfl
      refine ⟨⟨hidle, fun _ ↦ hselectable hbuilt hunselected⟩, fun _ hagain ↦ ?_⟩
      exact nomatch (hsince rfl hagain).1
    | completed request outcome hinFlight hcancelled =>
      refine ⟨⟨hidle, nofun⟩, fun hbuilt hunselected ↦ ?_⟩
      rw [completed_selectorBuilt] at hbuilt
      have hnone := hselectable hbuilt (hsince rfl hunselected).2
      simp [hnone] at hinFlight
    | built hmounted =>
      refine ⟨⟨hidle, nofun⟩, fun hbuilt _ ↦ ?_⟩
      rcases horder.waiting with hnone | ⟨-, hloading, -⟩
      · exact hnone
      · simp [build, view, hloading] at hbuilt
    | disposed => exact ⟨⟨hidle, nofun⟩, fun hbuilt hunselected ↦
        hselectable hbuilt (hsince rfl hunselected).2⟩

/-! ### What is shown -/

/-- In every run in which no selection is made while a request is in flight, in particular where
there is a frame between two selections: once all requests have been answered, the history shows
what the request of the last selected range has been answered with, and until that request has been
answered, the history shows that it loads. -/
theorem last_range_shown (hrun : Run HistoryStep (DeviceEventHistory.opened Event) past history)
    (hselections : (∀ taken ∈ past, SelectedIdle taken) ∨ OneSelectionPerFrame past)
    (hmounted : history.mounted = true) :
    (history.inFlight = [] →
      ∃ outcome, lastOf (responseTo (lastRequest past history)) past = some outcome ∧
        history.Shows outcome) ∧
      (lastOf (responseTo (lastRequest past history)) past = none → history.view = .loading) := by
  have hidle : ∀ taken ∈ past, SelectedIdle taken :=
    hselections.elim id (idle_of_oneSelectionPerFrame hrun)
  have horder := InOrder.of_run hrun hidle
  refine ⟨horder.answered hmounted, fun hunanswered ↦ ?_⟩
  rcases horder.waiting with hnone | ⟨-, hloading, -⟩
  · obtain ⟨outcome, hanswered, -⟩ := horder.answered hmounted hnone
    rw [hunanswered] at hanswered
    cases hanswered
  · simp [view, hloading]

end Runs

/-- The last year is selected once the events of the last week are there, and answered with an
error. -/
theorem last_range_shown_lastYear : ∃ past history,
    Run HistoryStep (opened ℕ) past history ∧ lastSelected past = .lastYear ∧
      history.inFlight = [] ∧ history.view = .error "offline" := by
  have hstart : Run HistoryStep (opened ℕ) [] (opened ℕ) := .start
  have hopened := hstart.step (.completed ⟨0, .lastWeek⟩ (.value [7]) (by decide) nofun)
  have hselected := (hopened.step (.built rfl)).step (.selected .lastYear rfl rfl)
  have hlast := hselected.step (.completed ⟨1, .lastYear⟩ (.error "offline") (by decide) nofun)
  have hshown := (last_range_shown hlast (.inl ?_) rfl).1 rfl
  · obtain ⟨outcome, hanswered, hshows⟩ := hshown
    obtain rfl : FetchOutcome.error "offline" = outcome := Option.some_inj.1 hanswered
    exact ⟨_, _, hlast, rfl, rfl, hshows⟩
  · simp only [List.forall_mem_append, List.forall_mem_singleton]
    exact ⟨⟨⟨⟨List.forall_mem_nil _, nofun⟩, nofun⟩, fun _ ↦ rfl⟩, nofun⟩

/-- The last year and then today are selected from one frame. The loading indicator goes with the
first response; and where today's events come first, those of the last year stay. -/
theorem earlier_range_shown :
    (∃ past history, Run HistoryStep (opened ℕ) past history ∧ lastSelected past = .today ∧
      history.inFlight = [⟨2, .today⟩] ∧ history.view = .events [1, 7]) ∧
    ∃ past history, Run HistoryStep (opened ℕ) past history ∧ lastSelected past = .today ∧
      lastOf (responseTo ⟨2, .today⟩) past = some (.value [7]) ∧ history.inFlight = [] ∧
      history.view = .events [1, 7] := by
  have hstart : Run HistoryStep (opened ℕ) [] (opened ℕ) := .start
  have hopened := hstart.step (.completed ⟨0, .lastWeek⟩ (.value [7]) (by decide) nofun)
  have hlastYear := (hopened.step (.built rfl)).step (.selected .lastYear rfl rfl)
  have htoday := hlastYear.step (.selected .today rfl rfl)
  constructor
  · have hfirst := htoday.step (.completed ⟨1, .lastYear⟩ (.value [1, 7]) (by decide) nofun)
    exact ⟨_, _, hfirst, rfl, rfl, rfl⟩
  · have hfirst := htoday.step (.completed ⟨2, .today⟩ (.value [7]) (by decide) nofun)
    have hlast := hfirst.step (.completed ⟨1, .lastYear⟩ (.value [1, 7]) (by decide) nofun)
    exact ⟨_, _, hlast, rfl, rfl, rfl, rfl⟩

end DeviceEventHistory

end Oott
