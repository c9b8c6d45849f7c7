import Oott.Frontend.AnimatedList
import Oott.Frontend.PaginatedList

/-!
# The notifications list

`home/notifications_list.dart`: a paged list whose background refreshes are merged into the rows,
and whose rows leave it when their read state is toggled. A toggle waits for the backend; when it
has succeeded, and the filter is not "All" then, the card calls `onRemove`: at once when it has been
toggled by a button, and after its animation when it has been swiped away.

The steps are those of the isolate between two turns: what the user does, the completion of a
request or of a toggle, a call of `onRemove`, and a frame. A tap may come from a frame that an
earlier state has built, so that its page or card need not be one of the state at the tap.
-/

set_option autoImplicit false
set_option relaxedAutoImplicit false

namespace Oott

open Effects

/-- `_NotificationFilter`. -/
inductive NotificationFilter
  | newOnly
  | oldOnly
  | all
deriving DecidableEq

/-- `_NotificationFilter.isNew`. -/
def NotificationFilter.isNew : NotificationFilter → Option Bool
  | newOnly => some true
  | oldOnly => some false
  | all => none

/-- A page that the backend returns: its rows are of a table whose key is the id. -/
structure NotificationPage where
  items : List Notification
  totalCount : ℕ
  nodup_ids : (items.map Notification.id).Nodup

/-- `_NotificationsListState`, with the toggles that the backend has not answered yet, and the cards
that are to call `onRemove`. -/
structure NotificationsList extends PaginatedList (Option Bool) where
  filter : NotificationFilter := .newOnly
  rows : NotificationRows := {}
  toggles : List (Notification × Bool) := []
  removals : List Int := []

namespace NotificationsList

/-- `pageSize`, from `phonePageSize` and `widePageSize`. -/
def pageSize (isPhone : Bool) : ℕ := if isPhone then 4 else 5

/-- `_fetchPage`, up to the call of the fetch. -/
def fetchPage (list : NotificationsList) (isPhone : Bool) (page : ℕ) (paging animateDiff : Bool) :
    NotificationsList :=
  { list with
    toPaginatedList := list.runFetch list.rows.items.isEmpty page (pageSize isPhone)
      list.filter.isNew paging animateDiff }

/-- `onResult` of `_fetchPage`. -/
def onResult (list : NotificationsList) (request : PageRequest (Option Bool))
    (result : NotificationPage) : NotificationsList :=
  if request.animateDiff ∧ ¬ list.isLoading then
    { list with
      toPaginatedList := list.applied request.page result.totalCount
      rows := list.rows.reconcile result.items }
  else
    -- The new key has the animated list mounted anew.
    { list with
      toPaginatedList := list.applied request.page result.totalCount
      rows := { list.rows with items := result.items, listMounted := false, calls := [] } }

/-- `runFetch`, from the completion of the fetch on. -/
def completed (list : NotificationsList) (request : PageRequest (Option Bool))
    (outcome : FetchOutcome NotificationPage) : NotificationsList :=
  match list.settle request.token outcome with
  | (fetches, some result) => onResult { list with toPaginatedList := fetches } request result
  | (fetches, none) => { list with toPaginatedList := fetches }

/-- `_setRead`, up to the call of the backend. -/
def setRead (list : NotificationsList) (item : Notification) (read : Bool) : NotificationsList :=
  if item.isNew = !read then list else { list with toggles := list.toggles ++ [(item, read)] }

/-- `_setRead`, from the answer of the backend on. Where it returns true, the card is to call
`onRemove`. -/
def setReadCompleted (list : NotificationsList) (item : Notification) (read succeeded : Bool) :
    NotificationsList :=
  let list := { list with toggles := list.toggles.erase (item, read) }
  if ¬ succeeded ∨ ¬ list.mounted then list
  else if list.filter ≠ .all then { list with removals := list.removals ++ [item.id] }
  else match list.rows.items.findIdx? fun row ↦ row.id = item.id with
    | none => list
    | some index =>
      { list with
        rows := { list.rows with
          items := list.rows.items.modify index fun row ↦ { row with isNew := !read } } }

/-- `_removeAndSettle`. -/
def removeAndSettle (list : NotificationsList) (id : Int) : NotificationsList :=
  { list with
    rows := list.rows.removeItem id
    totalCount := if 0 < list.totalCount then list.totalCount - 1 else list.totalCount
    removals := list.removals.erase id }

/-- `build`, for the animated list: it is mounted where the view has it. -/
def build (list : NotificationsList) (isPhone : Bool) : NotificationsList :=
  match list.view list.rows.items (pageSize isPhone) with
  | .list _ _ =>
    if list.rows.listMounted then list
    else { list with rows := { list.rows with listMounted := true, calls := [] } }
  | _ => { list with rows := { list.rows with listMounted := false, calls := [] } }

/-- The list at its first dependencies, which fetch page 0. -/
def opened (isPhone : Bool) : NotificationsList :=
  fetchPage { didInitialFetch := true } isPhone 0 false false

end NotificationsList

/-- What can happen to the notifications list. A refresh comes from the timer, the gesture, the
return to the screen or to the app, or after all notifications have been marked as read. -/
inductive NotificationsLabel
  | pageTapped (page : ℕ)
  | filterSelected (filter : NotificationFilter)
  | refreshed
  | completed (request : PageRequest (Option Bool)) (outcome : FetchOutcome NotificationPage)
  | toggled (item : Notification) (read : Bool)
  | toggleCompleted (item : Notification) (read succeeded : Bool)
  | removed (id : Int)
  | built
  | disposed

/-- The steps. The error of a cancelled request comes from a request that has been cancelled. -/
inductive NotificationsStep :
    NotificationsList → NotificationsLabel → NotificationsList → Prop
  | pageTapped {list : NotificationsList} (isPhone : Bool) (page : ℕ)
      (hmounted : list.mounted = true) :
      NotificationsStep list (.pageTapped page) (list.fetchPage isPhone page true false)
  | filterSelected {list : NotificationsList} (isPhone : Bool) (filter : NotificationFilter)
      (hmounted : list.mounted = true) :
      NotificationsStep list (.filterSelected filter)
        ({ list with filter := filter }.fetchPage isPhone 0 false false)
  | refreshed {list : NotificationsList} (isPhone : Bool) (hmounted : list.mounted = true) :
      NotificationsStep list .refreshed (list.fetchPage isPhone list.currentPage false true)
  | completed {list : NotificationsList} (request : PageRequest (Option Bool))
      (outcome : FetchOutcome NotificationPage) (hinFlight : request ∈ list.inFlight)
      (hcancelled : outcome = .cancelled → ¬ list.IsCurrent request.token) :
      NotificationsStep list (.completed request outcome) (list.completed request outcome)
  | toggled {list : NotificationsList} (item : Notification) (read : Bool)
      (hmounted : list.mounted = true) :
      NotificationsStep list (.toggled item read) (list.setRead item read)
  | toggleCompleted {list : NotificationsList} {item : Notification} {read : Bool}
      (succeeded : Bool) (hwaiting : (item, read) ∈ list.toggles) :
      NotificationsStep list (.toggleCompleted item read succeeded)
        (list.setReadCompleted item read succeeded)
  | removed {list : NotificationsList} {id : Int} (hwaiting : id ∈ list.removals) :
      NotificationsStep list (.removed id) (list.removeAndSettle id)
  | built {list : NotificationsList} (isPhone : Bool) (hmounted : list.mounted = true) :
      NotificationsStep list .built (list.build isPhone)
  | disposed {list : NotificationsList} :
      NotificationsStep list .disposed { list with toPaginatedList := list.dispose }

namespace NotificationsList

/-! ### What every run keeps -/

section Invariant

variable {list after : NotificationsList} {label : NotificationsLabel}

/-- The fetches are in order, and the rows have distinct ids. -/
structure Sound (list : NotificationsList) : Prop where
  fetches : list.toPaginatedList.Sound
  nodup_ids : (list.rows.items.map Notification.id).Nodup

theorem onResult_toPaginatedList (list : NotificationsList) (request : PageRequest (Option Bool))
    (result : NotificationPage) :
    (list.onResult request result).toPaginatedList =
      list.applied request.page result.totalCount := by
  unfold onResult
  split_ifs <;> rfl

@[simp]
theorem onResult_filter (request : PageRequest (Option Bool)) (result : NotificationPage) :
    (list.onResult request result).filter = list.filter := by
  unfold onResult
  split_ifs <;> rfl

/-- What is shown after a result is what the backend has returned. -/
theorem onResult_perm (hnodup : (list.rows.items.map Notification.id).Nodup)
    (request : PageRequest (Option Bool)) (result : NotificationPage) :
    ((list.onResult request result).rows.items.map NotificationRows.shownRow).Perm
      (result.items.map NotificationRows.shownRow) := by
  unfold onResult
  split_ifs
  · exact NotificationRows.reconcile_perm hnodup result.nodup_ids
  · exact .refl _

theorem onResult_nodup (hnodup : (list.rows.items.map Notification.id).Nodup)
    (request : PageRequest (Option Bool)) (result : NotificationPage) :
    ((list.onResult request result).rows.items.map Notification.id).Nodup := by
  unfold onResult
  split_ifs
  · exact NotificationRows.reconcile_nodup hnodup result.nodup_ids
  · exact result.nodup_ids

@[simp]
theorem setRead_toPaginatedList (item : Notification) (read : Bool) :
    (list.setRead item read).toPaginatedList = list.toPaginatedList := by
  unfold setRead
  split_ifs <;> rfl

@[simp]
theorem setRead_rows (item : Notification) (read : Bool) :
    (list.setRead item read).rows = list.rows := by
  unfold setRead
  split_ifs <;> rfl

@[simp]
theorem setReadCompleted_toPaginatedList (item : Notification) (read succeeded : Bool) :
    (list.setReadCompleted item read succeeded).toPaginatedList = list.toPaginatedList := by
  unfold setReadCompleted
  dsimp only
  split_ifs
  · rfl
  · rfl
  · split <;> rfl

@[simp]
theorem setReadCompleted_ids (item : Notification) (read succeeded : Bool) :
    (list.setReadCompleted item read succeeded).rows.items.map Notification.id =
      list.rows.items.map Notification.id := by
  unfold setReadCompleted
  dsimp only
  split_ifs
  · rfl
  · rfl
  · split
    · rfl
    · refine List.ext_getElem (by simp) fun index _ _ ↦ ?_
      simp only [List.getElem_map, List.getElem_modify]
      split_ifs <;> rfl

@[simp]
theorem build_toPaginatedList (isPhone : Bool) :
    (list.build isPhone).toPaginatedList = list.toPaginatedList := by
  unfold build
  split
  · split_ifs <;> rfl
  · rfl

@[simp]
theorem build_filter (isPhone : Bool) : (list.build isPhone).filter = list.filter := by
  unfold build
  split
  · split_ifs <;> rfl
  · rfl

@[simp]
theorem build_items (isPhone : Bool) : (list.build isPhone).rows.items = list.rows.items := by
  unfold build
  split
  · split_ifs <;> rfl
  · rfl

theorem Sound.opened (isPhone : Bool) : (opened isPhone).Sound where
  fetches := (PaginatedList.Sound.initial true).runFetch
  nodup_ids := List.nodup_nil

theorem Sound.step (hsound : list.Sound) (hstep : NotificationsStep list label after) :
    after.Sound := by
  cases hstep with
  | pageTapped isPhone page hmounted => exact ⟨hsound.fetches.runFetch, hsound.nodup_ids⟩
  | filterSelected isPhone filter hmounted => exact ⟨hsound.fetches.runFetch, hsound.nodup_ids⟩
  | refreshed isPhone hmounted => exact ⟨hsound.fetches.runFetch, hsound.nodup_ids⟩
  | completed request outcome hinFlight hcancelled =>
    rcases PaginatedList.settle_cases hcancelled with
      ⟨hcurrent, heq⟩ | ⟨hcurrent, ⟨result, -, heq⟩ | ⟨message, -, heq⟩⟩
    · rw [completed, heq]
      exact ⟨hsound.fetches.received hcurrent, hsound.nodup_ids⟩
    · rw [completed, heq]
      constructor
      · rw [onResult_toPaginatedList]
        exact hsound.fetches.applied hcurrent.2
      · apply onResult_nodup
        exact hsound.nodup_ids
    · rw [completed, heq]
      exact ⟨hsound.fetches.failed hcurrent.2, hsound.nodup_ids⟩
  | toggled item read hmounted =>
    exact ⟨by simpa using hsound.fetches, by simpa using hsound.nodup_ids⟩
  | toggleCompleted succeeded hwaiting =>
    exact ⟨by simpa using hsound.fetches, by simpa using hsound.nodup_ids⟩
  | removed hwaiting =>
    refine ⟨⟨hsound.fetches.inFlight_started, hsound.fetches.loading, hsound.fetches.errored⟩, ?_⟩
    rw [removeAndSettle, NotificationRows.removeItem_items]
    exact hsound.nodup_ids.sublist (List.eraseP_sublist.map _)
  | built isPhone hmounted =>
    exact ⟨by simpa using hsound.fetches, by simpa using hsound.nodup_ids⟩
  | disposed => exact ⟨hsound.fetches.dispose, hsound.nodup_ids⟩

theorem Sound.of_run {isPhone : Bool} {history : List (Taken NotificationsList NotificationsLabel)}
    (hrun : Run NotificationsStep (NotificationsList.opened isPhone) history list) : list.Sound :=
  hrun.invariant (fun _ list ↦ list.Sound) (.opened isPhone)
    fun _ _ _ _ hsound hstep ↦ hsound.step hstep

/-- The request and the result of a step that applies one. -/
def appliedResult (taken : Taken NotificationsList NotificationsLabel) :
    Option (PageRequest (Option Bool) × NotificationPage) :=
  match taken.label with
  | .completed request (.value result) =>
    if taken.before.IsCurrent request.token then some (request, result) else none
  | _ => none

theorem appliedResult_of_not_current {request : PageRequest (Option Bool)}
    {outcome : FetchOutcome NotificationPage} (hcurrent : ¬ list.IsCurrent request.token) :
    appliedResult ⟨list, .completed request outcome⟩ = none := by
  cases outcome <;> simp [appliedResult, hcurrent]

theorem appliedResult_of_current {request : PageRequest (Option Bool)} {result : NotificationPage}
    (hcurrent : list.IsCurrent request.token) :
    appliedResult ⟨list, .completed request (.value result)⟩ = some (request, result) := by
  simp [appliedResult, hcurrent]

end Invariant

/-! ### Two pages -/

/-- The first of two pages, with five of six new notifications. -/
def firstOfTwo : NotificationPage where
  items := [.numbered 6 true, .numbered 5 true, .numbered 4 true, .numbered 3 true,
    .numbered 2 true]
  totalCount := 6
  nodup_ids := by decide

/-- The second of two pages. -/
def secondOfTwo : NotificationPage where
  items := [.numbered 1 true]
  totalCount := 6
  nodup_ids := by decide

/-- The requests of a wide screen for new notifications. -/
def wideRequest (token page : ℕ) (animateDiff : Bool) : PageRequest (Option Bool) :=
  ⟨token, page, 5, some true, animateDiff⟩

end NotificationsList

end Oott
