import Oott.Frontend.DeviceList
import Oott.Frontend.NotificationsList

/-!
# Empty pages

Both paged lists have the empty state in the place of the rows and of the pagination bar, whatever
the page. Where the last page has been emptied and earlier ones have not, its user has no way back
(`second_page_emptied`). This is what happens exactly when a result has no row although its total is
positive, or the last row is removed from a page that is not the only one
(`paged_lists_leave_a_way_iff`).
-/

set_option autoImplicit false
set_option relaxedAutoImplicit false

namespace Oott

open Effects

/-! ### The notifications list -/

namespace NotificationsList

section Step

variable {list after : NotificationsList} {label : NotificationsLabel}

/-- A step leaves a row: a result that is applied has one where its total is positive, and no row is
removed that is the last one of its page, but not of all, while no request is in flight. -/
def LeavesARow (taken : Taken NotificationsList NotificationsLabel) : Prop :=
  match taken.label with
  | .completed request (.value result) =>
    taken.before.IsCurrent request.token → 0 < result.totalCount → result.items ≠ []
  | .removed id =>
    ¬ (taken.before.mounted = true ∧ taken.before.Idle ∧ taken.before.error = none ∧
      1 < taken.before.totalCount ∧ ∃ item, item.id = id ∧ taken.before.rows.items = [item])
  | _ => True

/-- The rows after a result are as many as it has. -/
theorem onResult_isEmpty (hnodup : (list.rows.items.map Notification.id).Nodup)
    (request : PageRequest (Option Bool)) (result : NotificationPage) :
    (list.onResult request result).rows.items.isEmpty = result.items.isEmpty := by
  have hlength := (onResult_perm hnodup request result).length_eq
  rw [List.length_map, List.length_map] at hlength
  rw [Bool.eq_iff_iff, List.isEmpty_iff_length_eq_zero, List.isEmpty_iff_length_eq_zero, hlength]

theorem isEmpty_eq_of_ids {items others : List Notification}
    (hids : items.map Notification.id = others.map Notification.id) :
    items.isEmpty = others.isEmpty := by
  rw [← List.isEmpty_map (f := Notification.id), hids, List.isEmpty_map]

theorem stranded_removeAndSettle_iff {id : Int}
    (hstranded : ¬ list.Stranded list.rows.items.isEmpty) :
    (list.removeAndSettle id).Stranded (list.removeAndSettle id).rows.items.isEmpty ↔
      list.mounted = true ∧ list.Idle ∧ list.error = none ∧ 1 < list.totalCount ∧
        ∃ item, item.id = id ∧ list.rows.items = [item] := by
  have hitems : (list.removeAndSettle id).rows.items.isEmpty = true ↔
      list.rows.items = [] ∨ ∃ item, item.id = id ∧ list.rows.items = [item] := by
    rw [List.isEmpty_iff]
    simp [removeAndSettle, NotificationRows.removeItem_items]
  have htotal : (list.removeAndSettle id).totalCount = list.totalCount - 1 := by
    simp only [removeAndSettle]
    split_ifs <;> omega
  constructor
  · rintro ⟨hmounted, hidle, herror, hpositive, hempty⟩
    rw [htotal] at hpositive
    refine ⟨hmounted, hidle, herror, by omega, ?_⟩
    refine (hitems.1 hempty).resolve_left fun hnil ↦ hstranded ?_
    exact ⟨hmounted, hidle, herror, by omega, List.isEmpty_iff.2 hnil⟩
  · rintro ⟨hmounted, hidle, herror, hpositive, hlast⟩
    exact ⟨hmounted, hidle, herror, by omega, hitems.2 (.inr hlast)⟩

/-- A step strands the user exactly when it leaves no row. -/
theorem stranded_step_iff (hsound : list.Sound)
    (hstranded : ¬ list.Stranded list.rows.items.isEmpty)
    (hstep : NotificationsStep list label after) :
    ¬ after.Stranded after.rows.items.isEmpty ↔ LeavesARow ⟨list, label⟩ := by
  cases hstep with
  | pageTapped isPhone page hmounted =>
    exact iff_of_true PaginatedList.not_stranded_runFetch trivial
  | filterSelected isPhone filter hmounted =>
    exact iff_of_true PaginatedList.not_stranded_runFetch trivial
  | refreshed isPhone hmounted => exact iff_of_true PaginatedList.not_stranded_runFetch trivial
  | completed request outcome hinFlight hcancelled =>
    rcases PaginatedList.settle_cases hcancelled with
      ⟨hcurrent, heq⟩ | ⟨hcurrent, ⟨result, rfl, heq⟩ | ⟨message, rfl, heq⟩⟩
    · rw [completed, heq]
      refine iff_of_true (PaginatedList.not_stranded_received hstranded hcurrent) ?_
      cases outcome with
      | value result => exact fun h ↦ absurd h hcurrent
      | error | cancelled => trivial
    · rw [completed, heq]
      have hnodup : (NotificationsList.rows { list with
        toPaginatedList := list.received request.token }).items.map Notification.id |>.Nodup :=
        hsound.nodup_ids
      rw [onResult_isEmpty hnodup, onResult_toPaginatedList,
        hsound.fetches.stranded_applied_iff hcurrent hinFlight rfl]
      simp [LeavesARow, hcurrent]
    · rw [completed, heq]
      exact iff_of_true PaginatedList.not_stranded_failed trivial
  | toggled item read hmounted => exact iff_of_true (by simpa using hstranded) trivial
  | toggleCompleted succeeded hwaiting =>
    refine iff_of_true ?_ trivial
    rwa [setReadCompleted_toPaginatedList, isEmpty_eq_of_ids (setReadCompleted_ids _ _ _)]
  | removed hwaiting => exact not_congr (stranded_removeAndSettle_iff hstranded)
  | built isPhone hmounted => exact iff_of_true (by simpa using hstranded) trivial
  | disposed => exact iff_of_true PaginatedList.not_stranded_dispose trivial

end Step

theorem leavesAWay_iff {isPhone : Bool}
    {history : List (Taken NotificationsList NotificationsLabel)} {list : NotificationsList}
    (hrun : Run NotificationsStep (opened isPhone) history list) :
    (∀ earlier state, Visited history list earlier state →
      state.LeavesAWay state.rows.items) ↔ ∀ taken ∈ history, LeavesARow taken := by
  refine Run.forall_visited_iff ?_ ?_ hrun
  · exact (Sound.opened isPhone).fetches.leavesAWay_iff.2 PaginatedList.not_stranded_runFetch
  · intro history before label after hbefore hway hstep
    have hsound := Sound.of_run hbefore
    rw [(hsound.step hstep).fetches.leavesAWay_iff]
    exact stranded_step_iff hsound (hsound.fetches.leavesAWay_iff.1 hway) hstep

end NotificationsList

/-! ### The device list -/

namespace DeviceList

variable {Query Row : Type} {list after : DeviceList Query Row} {label : DeviceListLabel Query Row}

/-- A result that is applied has a row where its total is positive. -/
def LeavesARow (taken : Taken (DeviceList Query Row) (DeviceListLabel Query Row)) : Prop :=
  match taken.label with
  | .completed request (.value result) =>
    taken.before.IsCurrent request.token → 0 < result.totalCount → result.items ≠ []
  | _ => True

/-- A step strands the user exactly when it leaves no row. -/
theorem stranded_step_iff (hsound : list.Sound) (hstranded : ¬ list.Stranded list.devices.isEmpty)
    (hstep : DeviceListStep list label after) :
    ¬ after.Stranded after.devices.isEmpty ↔ LeavesARow ⟨list, label⟩ := by
  cases hstep with
  | pageTapped isPhone page hmounted =>
    exact iff_of_true PaginatedList.not_stranded_runFetch trivial
  | selected isPhone query hmounted =>
    exact iff_of_true PaginatedList.not_stranded_runFetch trivial
  | ownerTyped query hmounted => exact iff_of_true hstranded trivial
  | ownerSettled isPhone hmounted =>
    exact iff_of_true PaginatedList.not_stranded_runFetch trivial
  | refreshed isPhone hmounted => exact iff_of_true PaginatedList.not_stranded_runFetch trivial
  | completed request outcome hinFlight hcancelled =>
    rcases PaginatedList.settle_cases hcancelled with
      ⟨hcurrent, heq⟩ | ⟨hcurrent, ⟨result, rfl, heq⟩ | ⟨message, rfl, heq⟩⟩
    · rw [completed, heq]
      refine iff_of_true (PaginatedList.not_stranded_received hstranded hcurrent) ?_
      cases outcome with
      | value result => exact fun h ↦ absurd h hcurrent
      | error | cancelled => trivial
    · rw [completed, heq]
      refine (not_congr (hsound.stranded_applied_iff hcurrent hinFlight rfl)).trans ?_
      simp [LeavesARow, hcurrent, onResult]
    · rw [completed, heq]
      exact iff_of_true PaginatedList.not_stranded_failed trivial
  | disposed => exact iff_of_true PaginatedList.not_stranded_dispose trivial

theorem leavesAWay_iff {query : Query} {isPhone : Bool}
    {history : List (Taken (DeviceList Query Row) (DeviceListLabel Query Row))}
    (hrun : Run DeviceListStep (opened query isPhone) history list) :
    (∀ earlier state, Visited history list earlier state → state.LeavesAWay state.devices) ↔
      ∀ taken ∈ history, LeavesARow taken := by
  have hopened : (opened query isPhone : DeviceList Query Row).Sound := sound_of_run .start
  refine Run.forall_visited_iff ?_ ?_ hrun
  · exact hopened.leavesAWay_iff.2 PaginatedList.not_stranded_runFetch
  · intro history before label after hbefore hway hstep
    have hsound := sound_of_run hbefore
    rw [(sound_step hsound hstep).leavesAWay_iff]
    exact stranded_step_iff hsound (hsound.leavesAWay_iff.1 hway) hstep

end DeviceList

/-! ### Both lists -/

/-- In every run of either list, whenever no request is in flight, no error is shown and the total
is positive, the list shows a row or the pagination bar, exactly when every step of the run leaves
a row. -/
theorem paged_lists_leave_a_way_iff (isPhone : Bool) (Query Row : Type) (query : Query) :
    (∀ history list, Run NotificationsStep (NotificationsList.opened isPhone) history list →
      ((∀ earlier state, Visited history list earlier state →
          state.LeavesAWay state.rows.items) ↔
        ∀ taken ∈ history, NotificationsList.LeavesARow taken)) ∧
    ∀ history (list : DeviceList Query Row),
      Run DeviceListStep (DeviceList.opened query isPhone) history list →
      ((∀ earlier state, Visited history list earlier state → state.LeavesAWay state.devices) ↔
        ∀ taken ∈ history, DeviceList.LeavesARow taken) :=
  ⟨fun _ _ hrun ↦ NotificationsList.leavesAWay_iff hrun,
    fun _ _ hrun ↦ DeviceList.leavesAWay_iff hrun⟩

/-- The second page of a wide screen is tapped and shown: there is a row in every state. -/
theorem paged_lists_leave_a_way_iff_secondPage : ∃ history list,
    Run NotificationsStep (NotificationsList.opened false) history list ∧ list.currentPage = 1 ∧
      list.rows.items.length = 1 ∧
      ∀ earlier state, Visited history list earlier state → state.LeavesAWay state.rows.items := by
  have hstart : Run NotificationsStep (.opened false) [] (.opened false) := .start
  have hopened := hstart.step (.completed (NotificationsList.wideRequest 0 0 false)
    (.value NotificationsList.firstOfTwo) (by decide) nofun)
  have htapped := hopened.step (.pageTapped false 1 rfl)
  have hshown := htapped.step (.completed (NotificationsList.wideRequest 1 1 false)
    (.value NotificationsList.secondOfTwo) (by decide) nofun)
  have hexact := (paged_lists_leave_a_way_iff false Unit Unit ()).1 _ _ hshown
  refine ⟨_, _, hshown, rfl, rfl, hexact.2 ?_⟩
  simp only [List.forall_mem_append, List.forall_mem_singleton]
  exact ⟨⟨⟨List.forall_mem_nil _, fun _ _ ↦ by decide⟩, trivial⟩, fun _ _ ↦ by decide⟩

/-- The only notification of the second page is marked as read, and the only device of the second
page is registered: the total is positive, and neither a row nor the bar is shown. -/
theorem second_page_emptied :
    (∃ history list, Run NotificationsStep (NotificationsList.opened false) history list ∧
      list.inFlight = [] ∧ list.error = none ∧ list.totalCount = 5 ∧
      ∀ pageSize, list.view list.rows.items pageSize = .emptyState) ∧
    ∃ history list,
      Run DeviceListStep (DeviceList.opened () false : DeviceList Unit ℕ) history list ∧
      list.inFlight = [] ∧ list.error = none ∧ list.totalCount = 10 ∧
      ∀ pageSize, list.view list.devices pageSize = .emptyState := by
  constructor
  · have hstart : Run NotificationsStep (.opened false) [] (.opened false) := .start
    have hopened := hstart.step (.completed (NotificationsList.wideRequest 0 0 false)
      (.value NotificationsList.firstOfTwo) (by decide) nofun)
    have htapped := hopened.step (.pageTapped false 1 rfl)
    have hshown := htapped.step (.completed (NotificationsList.wideRequest 1 1 false)
      (.value NotificationsList.secondOfTwo) (by decide) nofun)
    have htoggled := hshown.step (.toggled (.numbered 1 true) true rfl)
    have hanswered := htoggled.step (.toggleCompleted true (List.mem_singleton_self _))
    have hremoved := hanswered.step (.removed (List.mem_singleton_self _))
    exact ⟨_, _, hremoved, rfl, rfl, rfl, fun _ ↦ rfl⟩
  · have hstart : Run DeviceListStep (.opened () false : DeviceList Unit ℕ) [] (.opened () false) :=
      .start
    have hopened := hstart.step
      (.completed ⟨0, 0, 10, (), false⟩ (.value ⟨List.range 10, 11⟩) (by decide) nofun)
    have htapped := hopened.step (.pageTapped false 1 rfl)
    have hshown := htapped.step
      (.completed ⟨1, 1, 10, (), false⟩ (.value ⟨[10], 11⟩) (by decide) nofun)
    have hregistered := hshown.step (.refreshed false rfl)
    have hrefreshed := hregistered.step
      (.completed ⟨2, 1, 10, (), false⟩ (.value ⟨[], 10⟩) (by decide) nofun)
    exact ⟨_, _, hrefreshed, rfl, rfl, rfl, fun _ ↦ rfl⟩

end Oott
