import Oott.Effects.Runs
import Oott.Frontend.PaginatedList

/-!
# The device list

`devices/device_list.dart`, a paged list that every result replaces. What it asks for (its filter,
the owner's name, the type and the order) and what a row has do not matter here, so that both are
any types.
-/

set_option autoImplicit false
set_option relaxedAutoImplicit false

namespace Oott

open Effects

/-- A page that the backend returns. -/
structure DevicePage (Row : Type) where
  items : List Row
  totalCount : ℕ

/-- `_DeviceListState`, with what `_fetchPage` asks for. -/
structure DeviceList (Query Row : Type) extends PaginatedList Query where
  query : Query
  devices : List Row := []

namespace DeviceList

variable {Query Row : Type}

/-- `pageSize`, from `phonePageSize` and `widePageSize`. -/
def pageSize (isPhone : Bool) : ℕ := if isPhone then 5 else 10

/-- `_fetchPage`, up to the call of the fetch. -/
def fetchPage (list : DeviceList Query Row) (isPhone : Bool) (page : ℕ) (paging : Bool) :
    DeviceList Query Row :=
  { list with
    toPaginatedList := list.runFetch list.devices.isEmpty page (pageSize isPhone) list.query paging
      false }

/-- `onResult` of `_fetchPage`. -/
def onResult (list : DeviceList Query Row) (request : PageRequest Query)
    (result : DevicePage Row) : DeviceList Query Row :=
  { list with
    toPaginatedList := list.applied request.page result.totalCount
    devices := result.items }

/-- `runFetch`, from the completion of the fetch on. -/
def completed (list : DeviceList Query Row) (request : PageRequest Query)
    (outcome : FetchOutcome (DevicePage Row)) : DeviceList Query Row :=
  match list.settle request.token outcome with
  | (fetches, some result) => onResult { list with toPaginatedList := fetches } request result
  | (fetches, none) => { list with toPaginatedList := fetches }

/-- The list at its first dependencies, which fetch page 0. -/
def opened (query : Query) (isPhone : Bool) : DeviceList Query Row :=
  fetchPage { query := query, isLoading := true, didInitialFetch := true } isPhone 0 false

end DeviceList

/-- What can happen to the device list. A selection is one of a filter, a type or an order; a
refresh comes from the gesture, the return to the screen, or a device that has been registered,
forgotten or deleted. -/
inductive DeviceListLabel (Query Row : Type)
  | pageTapped (page : ℕ)
  | selected (query : Query)
  | ownerTyped (query : Query)
  | ownerSettled
  | refreshed
  | completed (request : PageRequest Query) (outcome : FetchOutcome (DevicePage Row))
  | disposed

/-- The steps. The error of a cancelled request comes from a request that has been cancelled. -/
inductive DeviceListStep {Query Row : Type} :
    DeviceList Query Row → DeviceListLabel Query Row → DeviceList Query Row → Prop
  | pageTapped {list : DeviceList Query Row} (isPhone : Bool) (page : ℕ)
      (hmounted : list.mounted = true) :
      DeviceListStep list (.pageTapped page) (list.fetchPage isPhone page true)
  | selected {list : DeviceList Query Row} (isPhone : Bool) (query : Query)
      (hmounted : list.mounted = true) :
      DeviceListStep list (.selected query) ({ list with query := query }.fetchPage isPhone 0 false)
  | ownerTyped {list : DeviceList Query Row} (query : Query) (hmounted : list.mounted = true) :
      DeviceListStep list (.ownerTyped query) { list with query := query }
  | ownerSettled {list : DeviceList Query Row} (isPhone : Bool) (hmounted : list.mounted = true) :
      DeviceListStep list .ownerSettled (list.fetchPage isPhone 0 false)
  | refreshed {list : DeviceList Query Row} (isPhone : Bool) (hmounted : list.mounted = true) :
      DeviceListStep list .refreshed (list.fetchPage isPhone list.currentPage false)
  | completed {list : DeviceList Query Row} (request : PageRequest Query)
      (outcome : FetchOutcome (DevicePage Row)) (hinFlight : request ∈ list.inFlight)
      (hcancelled : outcome = .cancelled → ¬ list.IsCurrent request.token) :
      DeviceListStep list (.completed request outcome) (list.completed request outcome)
  | disposed {list : DeviceList Query Row} :
      DeviceListStep list .disposed { list with toPaginatedList := list.dispose }

namespace DeviceList

section Invariant

variable {Query Row : Type} {list after : DeviceList Query Row}
  {label : DeviceListLabel Query Row}

theorem sound_step (hsound : list.Sound) (hstep : DeviceListStep list label after) :
    after.Sound := by
  cases hstep with
  | pageTapped isPhone page hmounted => exact hsound.runFetch
  | selected isPhone query hmounted => exact hsound.runFetch
  | ownerTyped query hmounted => exact hsound
  | ownerSettled isPhone hmounted => exact hsound.runFetch
  | refreshed isPhone hmounted => exact hsound.runFetch
  | completed request outcome hinFlight hcancelled =>
    rcases PaginatedList.settle_cases hcancelled with
      ⟨hcurrent, heq⟩ | ⟨hcurrent, ⟨result, -, heq⟩ | ⟨message, -, heq⟩⟩
    · rw [completed, heq]
      exact hsound.received hcurrent
    · rw [completed, heq]
      exact hsound.applied hcurrent.2
    · rw [completed, heq]
      exact hsound.failed hcurrent.2
  | disposed => exact hsound.dispose

theorem sound_of_run {query : Query} {isPhone : Bool}
    {history : List (Taken (DeviceList Query Row) (DeviceListLabel Query Row))}
    (hrun : Run DeviceListStep (DeviceList.opened query isPhone) history list) : list.Sound := by
  refine hrun.invariant (fun _ list ↦ list.Sound) ?_ fun _ _ _ _ hsound hstep ↦
    sound_step hsound hstep
  exact (PaginatedList.Sound.initial _).runFetch

end Invariant

end DeviceList

end Oott
