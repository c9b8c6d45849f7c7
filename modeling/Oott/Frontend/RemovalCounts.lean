import Oott.Frontend.NotificationsList

/-!
# The count of the removals

`_removeAndSettle` takes a row out of the notifications list and decrements the total, whether or
not the row was still there: a refresh whose response already lacks the row has brought a total
without it, and the `onRemove` of its toggle takes another one off (`removal_counted_twice`). The
total is the one last reported less the rows taken out since then exactly when every `onRemove`
finds its row, or a total of zero without it (`removals_counted_once_iff`).
-/

set_option autoImplicit false
set_option relaxedAutoImplicit false

namespace Oott

open Effects

namespace NotificationsList

/-- The total that the backend has last reported. -/
def reportedTotal (history : List (Taken NotificationsList NotificationsLabel)) : ℕ :=
  ((lastOf appliedResult history).map fun applied ↦ applied.2.totalCount).getD 0

/-- Whether a step is a `_removeAndSettle` that takes a row out. -/
def takesRow (taken : Taken NotificationsList NotificationsLabel) : Bool :=
  match taken.label with
  | .removed id => id ∈ taken.before.rows.items.map Notification.id
  | _ => false

/-- The number of rows that `_removeAndSettle` has taken out since the last report. -/
def takenOut (history : List (Taken NotificationsList NotificationsLabel)) : ℕ :=
  (sinceLast (fun taken ↦ (appliedResult taken).isSome) history).countP takesRow

/-- A step finds the row of its `onRemove` exactly when there is a total to decrement. -/
def FindsRow (taken : Taken NotificationsList NotificationsLabel) : Prop :=
  match taken.label with
  | .removed id =>
    id ∈ taken.before.rows.items.map Notification.id ↔ 0 < taken.before.totalCount
  | _ => True

section Step

variable (history : List (Taken NotificationsList NotificationsLabel))
  {list after : NotificationsList} {label : NotificationsLabel}

/-- A step that reports no total and takes no row out leaves the account as it is. -/
theorem account_of_kept {taken : Taken NotificationsList NotificationsLabel}
    (happlied : appliedResult taken = none) (htakes : takesRow taken = false) :
    takenOut (history ++ [taken]) = takenOut history ∧
      reportedTotal (history ++ [taken]) = reportedTotal history := by
  constructor
  · rw [takenOut, sinceLast_append, happlied]
    simp [takenOut, htakes]
  · rw [reportedTotal, lastOf_append, happlied]
    rfl

theorem account_of_removed (list : NotificationsList) (id : Int) :
    takenOut (history ++ [⟨list, .removed id⟩]) =
        takenOut history + (if id ∈ list.rows.items.map Notification.id then 1 else 0) ∧
      reportedTotal (history ++ [⟨list, .removed id⟩]) = reportedTotal history := by
  constructor
  · rw [takenOut, sinceLast_append]
    simp [takenOut, takesRow, appliedResult, List.countP_append]
  · rw [reportedTotal, lastOf_append]
    rfl

/-- A report settles the account. -/
theorem account_of_applied {request : PageRequest (Option Bool)} {result : NotificationPage}
    (hcurrent : list.IsCurrent request.token) :
    takenOut (history ++ [⟨list, .completed request (.value result)⟩]) = 0 ∧
      reportedTotal (history ++ [⟨list, .completed request (.value result)⟩]) =
        result.totalCount := by
  constructor
  · rw [takenOut, sinceLast_append, appliedResult_of_current hcurrent]
    rfl
  · rw [reportedTotal, lastOf_append, appliedResult_of_current hcurrent]
    rfl

theorem counted_once_step_iff
    (hcounted : list.totalCount + takenOut history = reportedTotal history)
    (hstep : NotificationsStep list label after) :
    after.totalCount + takenOut (history ++ [⟨list, label⟩]) =
        reportedTotal (history ++ [⟨list, label⟩]) ↔ FindsRow ⟨list, label⟩ := by
  have hkept (happlied : appliedResult ⟨list, label⟩ = none)
      (htakes : takesRow ⟨list, label⟩ = false) (htotal : after.totalCount = list.totalCount) :
      after.totalCount + takenOut (history ++ [⟨list, label⟩]) =
        reportedTotal (history ++ [⟨list, label⟩]) := by
    obtain ⟨htaken, hreported⟩ := account_of_kept history happlied htakes
    rw [htaken, hreported, htotal, hcounted]
  cases hstep with
  | pageTapped | filterSelected | refreshed | disposed =>
    exact iff_of_true (hkept rfl rfl rfl) trivial
  | completed request outcome hinFlight hcancelled =>
    rcases PaginatedList.settle_cases hcancelled with
      ⟨hcurrent, heq⟩ | ⟨hcurrent, ⟨result, rfl, heq⟩ | ⟨message, rfl, heq⟩⟩
    · refine iff_of_true (hkept (appliedResult_of_not_current hcurrent) rfl ?_) trivial
      rw [completed, heq]
      rfl
    · obtain ⟨htaken, hreported⟩ := account_of_applied history hcurrent
      rw [htaken, hreported, completed, heq]
      dsimp only
      rw [onResult_toPaginatedList]
      exact iff_of_true rfl trivial
    · refine iff_of_true (hkept rfl rfl ?_) trivial
      rw [completed, heq]
      rfl
  | toggled item read hmounted => exact iff_of_true (hkept rfl rfl (by simp)) trivial
  | toggleCompleted succeeded hwaiting => exact iff_of_true (hkept rfl rfl (by simp)) trivial
  | @removed id hwaiting =>
    obtain ⟨htaken, hreported⟩ := account_of_removed history list id
    have htotal : (list.removeAndSettle id).totalCount =
      if 0 < list.totalCount then list.totalCount - 1 else list.totalCount := rfl
    have hfinds : FindsRow ⟨list, .removed id⟩ ↔
      (id ∈ list.rows.items.map Notification.id ↔ 0 < list.totalCount) := .rfl
    rw [htaken, hreported, htotal, hfinds, ← hcounted]
    by_cases hrow : id ∈ list.rows.items.map Notification.id
    · simp only [hrow, if_true, true_iff]
      split_ifs <;> omega
    · simp only [hrow, if_false, false_iff]
      split_ifs <;> omega
  | built isPhone hmounted => exact iff_of_true (hkept rfl rfl (by simp)) trivial

end Step

/-- In every run, the total is in every state the one that the backend has last reported less the
rows that `_removeAndSettle` has taken out since then, exactly when every call of it finds its row
if, and only if, the total is positive. -/
theorem removals_counted_once_iff {isPhone : Bool}
    {history : List (Taken NotificationsList NotificationsLabel)} {list : NotificationsList}
    (hrun : Run NotificationsStep (opened isPhone) history list) :
    (∀ earlier state, Visited history list earlier state →
      state.totalCount + takenOut earlier = reportedTotal earlier) ↔
      ∀ taken ∈ history, FindsRow taken :=
  Run.forall_visited_iff rfl (fun _ _ _ _ _ hcounted hstep ↦
    counted_once_step_iff _ hcounted hstep) hrun

/-- A notification is marked as read, and nothing else happens: the total is one less. -/
theorem removals_counted_once_iff_oneRead : ∃ history list,
    Run NotificationsStep (opened false) history list ∧ reportedTotal history = 6 ∧
      list.totalCount = 5 ∧ ∀ earlier state, Visited history list earlier state →
        state.totalCount + takenOut earlier = reportedTotal earlier := by
  have hstart : Run NotificationsStep (opened false) [] (opened false) := .start
  have hopened := hstart.step
    (.completed (wideRequest 0 0 false) (.value firstOfTwo) (by decide) nofun)
  have htoggled := hopened.step (.toggled (.numbered 6 true) true rfl)
  have hanswered := htoggled.step (.toggleCompleted true (List.mem_singleton_self _))
  have hremoved := hanswered.step (.removed (List.mem_singleton_self _))
  refine ⟨_, _, hremoved, ?_, rfl, (removals_counted_once_iff hremoved).2 ?_⟩
  · decide +kernel
  · simp only [List.forall_mem_append, List.forall_mem_singleton]
    exact ⟨⟨⟨⟨List.forall_mem_nil _, trivial⟩, trivial⟩, trivial⟩,
      show _ ∈ _ ↔ 0 < _ by decide +kernel⟩

/-- What is left on the first page once the newest notification has been read. -/
def firstWithoutNewest : NotificationPage where
  items := [.numbered 5 true, .numbered 4 true, .numbered 3 true, .numbered 2 true,
    .numbered 1 true]
  totalCount := 5
  nodup_ids := by decide

/-- The newest notification is marked as read, and the list is refreshed before the backend has
answered: the total that the refresh brings is decremented although all its rows are there. -/
theorem removal_counted_twice : ∃ history list,
    Run NotificationsStep (opened false) history list ∧ list.inFlight = [] ∧ list.toggles = [] ∧
      list.removals = [] ∧ list.rows.items = firstWithoutNewest.items ∧
      reportedTotal history = 5 ∧ takenOut history = 0 ∧ list.totalCount = 4 := by
  have hstart : Run NotificationsStep (opened false) [] (opened false) := .start
  have hopened := hstart.step
    (.completed (wideRequest 0 0 false) (.value firstOfTwo) (by decide) nofun)
  have htoggled := hopened.step (.toggled (.numbered 6 true) true rfl)
  have hrefreshed := htoggled.step (.refreshed false rfl)
  have hshown := hrefreshed.step
    (.completed (wideRequest 1 0 true) (.value firstWithoutNewest) (by decide) nofun)
  have hanswered := hshown.step (.toggleCompleted true (List.mem_singleton_self _))
  have hremoved := hanswered.step (.removed (List.mem_singleton_self _))
  refine ⟨_, _, hremoved, ?_, ?_, ?_, ?_, ?_, ?_, ?_⟩ <;> decide +kernel

end NotificationsList

end Oott
