import Oott.Notifications.Persistence
import Oott.Sightings.Reconciliation
import Mathlib.Algebra.GroupWithZero.Nat

/-!
# One notification for each kind of change

The notifications of a scan account for its changes. A kind of change with one device gives a
notification with the MAC of that device. A kind with several gives a summary without a MAC, which
states their number, lists the first three and counts the others (`AccountsFor`). When no insertion
fails, the rows that `notify` inserts are one for each kind that the scan has a change of
(`notify_accounts_for_changes`).
-/

set_option autoImplicit false
set_option relaxedAutoImplicit false

namespace Oott

open Effects

/-! ### What is accounted for -/

/-- The type of the notification of a change. -/
def DeviceChange.notificationType : DeviceChange → NotificationType
  | .new _ => .newDeviceFound
  | .backOnline _ _ => .deviceOnlineAfterTime
  | .changed _ _ _ _ => .deviceChanged

/-- The types of the notifications of a scan. -/
def scanTypes : List NotificationType := [.newDeviceFound, .deviceOnlineAfterTime, .deviceChanged]

/-- The devices of the changes of one type, in the order of the scan. -/
def devicesOf (notificationType : NotificationType) (changes : List DeviceChange) : List Device :=
  (changes.filter fun change ↦ change.notificationType = notificationType).map
    DeviceChange.notified

/-- The title of a summary of several devices. -/
def summaryTitle : NotificationType → ℕ → String
  | .newDeviceFound, count => toString count ++ " new devices found on your network"
  | .deviceOnlineAfterTime, count => toString count ++ " devices back online"
  | .deviceChanged, count => toString count ++ " devices changed on your network"
  | .other, _ => ""

/-- The lines of a summary before the devices. -/
def summaryIntroduction (notificationType : NotificationType) (count : ℕ) : String :=
  toString count ++ (match notificationType with
    | .newDeviceFound => " devices that have not been seen before joined your network."
    | .deviceOnlineAfterTime => " known devices returned to your network after being absent."
    | .deviceChanged =>
      " existing devices changed their network details (IP address and/or vendor)."
    | .other => "") ++ "\n\nDevices\n"

/-- The lines of a summary after the devices. -/
def summaryClosing : NotificationType → String
  | .newDeviceFound => "\nIf you do not recognise these devices, consider investigating before " ++
    "granting them continued access."
  | .deviceChanged =>
    "\nA vendor change on the same device is unusual and may indicate MAC spoofing."
  | _ => ""

/-- A line for each device. -/
def summaryLines : List Device → String
  | [] => ""
  | device :: rest => "  - " ++ summaryDeviceLine device ++ "\n" ++ summaryLines rest

/-- The lines of a summary on the devices: one for each of the first three, and one that counts the
others if there are any. -/
def listing (devices : List Device) : String :=
  summaryLines (devices.take 3) ++
    if 3 < devices.length then "  …and " ++ toString (devices.length - 3) ++ " more devices\n"
    else ""

/-- A notification accounts for the devices of the changes of its type. -/
structure AccountsFor (devices : List Device) (row : Notification) : Prop where
  one : ∀ device, devices = [device] → row.macAddress = some (normalizeMac device.macAddress)
  many : 2 ≤ devices.length → row.macAddress = none ∧
    row.title = summaryTitle row.notificationType devices.length ∧
    row.body = summaryIntroduction row.notificationType devices.length ++ listing devices ++
      summaryClosing row.notificationType

example : listing [.new "aa:bb:cc:dd:ee:01" "10.0.0.1" "Acme" .epoch] = "  - - (Acme)\n" := by
  decide

/-! ### The texts -/

theorem foldl_writeln (body : String) (devices : List Device) :
    devices.foldl (fun body device ↦ writeln body ("  - " ++ summaryDeviceLine device)) body =
      body ++ summaryLines devices := by
  induction devices generalizing body with
  | nil => exact String.append_empty.symm
  | cons device rest ih =>
    rw [List.foldl_cons, ih, summaryLines, writeln]
    simp only [String.append_assoc]

theorem writeDeviceSummary_eq (body : String) (devices : List Device) :
    writeDeviceSummary body devices = body ++ listing devices := by
  unfold writeDeviceSummary listing
  simp only [foldl_writeln]
  change (if 3 < devices.length then _ else _) = _
  split_ifs
  · simp only [writeln, String.append_assoc]
    rfl
  · rw [String.append_empty]
    rfl

/-- The lines before the devices. -/
theorem writeln_introduction (count text : String) :
    writeln (writeln (writeln "" (count ++ text)) "") "Devices" =
      count ++ text ++ "\n\nDevices\n" := by
  unfold writeln
  simp only [String.append_assoc, String.empty_append]
  rfl

/-- The lines after the devices. -/
theorem writeln_closing (body text : String) :
    writeln body "" ++ text = body ++ ("\n" ++ text) := by
  unfold writeln
  rw [String.append_empty, String.append_assoc]

theorem renderNewDevicesSummary_eq (devices : List Device) :
    renderNewDevicesSummary devices = (summaryTitle .newDeviceFound devices.length,
      summaryIntroduction .newDeviceFound devices.length ++ listing devices ++
        summaryClosing .newDeviceFound) := by
  unfold renderNewDevicesSummary
  dsimp only
  rw [writeln_introduction, writeDeviceSummary_eq, @String.append_assoc (writeln _ _),
    writeln_closing]
  rfl

theorem renderBackOnlineSummary_eq (devices : List Device) :
    renderBackOnlineSummary devices = (summaryTitle .deviceOnlineAfterTime devices.length,
      summaryIntroduction .deviceOnlineAfterTime devices.length ++ listing devices ++
        summaryClosing .deviceOnlineAfterTime) := by
  unfold renderBackOnlineSummary
  dsimp only
  rw [writeln_introduction, writeDeviceSummary_eq]
  exact congrArg (Prod.mk _) String.append_empty.symm

theorem renderChangedSummary_eq (devices : List Device) :
    renderChangedSummary devices = (summaryTitle .deviceChanged devices.length,
      summaryIntroduction .deviceChanged devices.length ++ listing devices ++
        summaryClosing .deviceChanged) := by
  unfold renderChangedSummary
  dsimp only
  rw [writeln_introduction, writeDeviceSummary_eq, writeln_closing]
  rfl

/-! ### A kind of change -/

/-- What a kind of change gives: nothing for no change, a notification with the MAC for one device,
and a summary for several. -/
structure Consolidates {α : Type} (notificationType : NotificationType) (device : α → Device)
    (kind : List α → Option Notice) : Prop where
  empty : kind [] = none
  single : ∀ member, ∃ text, kind [member] =
    some (.of notificationType text (some (device member).macAddress))
  several : ∀ first second rest, kind (first :: second :: rest) =
    some (.of notificationType
      (summaryTitle notificationType (rest.length + 2),
        summaryIntroduction notificationType (rest.length + 2) ++
          listing ((first :: second :: rest).map device) ++
          summaryClosing notificationType) none)

theorem notifyNewDevices_consolidates : Consolidates .newDeviceFound id notifyNewDevices where
  empty := rfl
  single := fun _ ↦ ⟨_, rfl⟩
  several := fun first second rest ↦ by
    have htexts := renderNewDevicesSummary_eq (first :: second :: rest)
    rw [List.map_id]
    exact congrArg (fun text ↦ some (Notice.of .newDeviceFound text none)) htexts

theorem notifyBackOnline_consolidates (durationString : StdDuration → String) :
    Consolidates .deviceOnlineAfterTime Prod.fst (notifyBackOnline durationString) where
  empty := rfl
  single := fun _ ↦ ⟨_, rfl⟩
  several := fun first second rest ↦ by
    have htexts := renderBackOnlineSummary_eq ((first :: second :: rest).map Prod.fst)
    rw [List.length_map] at htexts
    exact congrArg (fun text ↦ some (Notice.of .deviceOnlineAfterTime text none)) htexts

theorem notifyChanged_consolidates :
    Consolidates .deviceChanged (fun change ↦ change.2.1) notifyChanged where
  empty := rfl
  single := fun _ ↦ ⟨_, rfl⟩
  several := fun first second rest ↦ by
    have htexts := renderChangedSummary_eq ((first :: second :: rest).map fun change ↦ change.2.1)
    rw [List.length_map] at htexts
    exact congrArg (fun text ↦ some (Notice.of .deviceChanged text none)) htexts

section Kind

variable {α : Type} {notificationType : NotificationType} {device : α → Device}
  {kind : List α → Option Notice} {members : List α}

/-- A kind of change gives one notification if there is a change of it. -/
theorem Consolidates.types (hkind : Consolidates notificationType device kind) :
    (kind members).toList.map Notice.notificationType =
      [notificationType].filter fun _ ↦ members.map device ≠ [] := by
  match members with
  | [] =>
    rw [hkind.empty]
    rfl
  | [member] =>
    obtain ⟨text, hsingle⟩ := hkind.single member
    rw [hsingle]
    rfl
  | first :: second :: rest =>
    rw [hkind.several]
    rfl

/-- The notification of a kind of change accounts for the devices. -/
theorem Consolidates.accountsFor (hkind : Consolidates notificationType device kind)
    {notice : Notice} (hnotice : notice ∈ kind members) {row : Notification}
    (hrow : notice.StoredAs row) :
    row.notificationType = notificationType ∧ AccountsFor (members.map device) row := by
  match members with
  | [] =>
    rw [hkind.empty] at hnotice
    cases hnotice
  | [member] =>
    obtain ⟨text, hsingle⟩ := hkind.single member
    rw [hsingle] at hnotice
    cases hnotice
    refine ⟨hrow.notificationType, fun only honly ↦ ?_, fun hmany ↦ absurd hmany (by simp)⟩
    rw [hrow.macAddress, ← (List.cons.inj honly).1]
    rfl
  | first :: second :: rest =>
    rw [hkind.several] at hnotice
    cases hnotice
    have htype : row.notificationType = notificationType := hrow.notificationType
    refine ⟨htype, fun only honly ↦ absurd honly (by simp), fun _ ↦ ⟨hrow.macAddress, ?_, ?_⟩⟩
    · rw [htype, List.length_map]
      exact hrow.title
    · rw [htype, List.length_map]
      exact hrow.body

end Kind

/-! ### A scan -/

/-- The members of a group are the devices of the changes of its type. -/
theorem map_filterMap_eq_devicesOf {α : Type} {group : DeviceChange → Option α}
    {device : α → Device} {notificationType : NotificationType}
    (hgroup : ∀ change, (group change).map device =
      if change.notificationType = notificationType then some change.notified else none)
    (changes : List DeviceChange) :
    (changes.filterMap group).map device = devicesOf notificationType changes := by
  unfold devicesOf
  rw [List.map_filterMap]
  induction changes with
  | nil => rfl
  | cons change rest ih =>
    rw [List.filterMap_cons, hgroup, List.filter_cons]
    by_cases htype : change.notificationType = notificationType
    · rw [if_pos htype, if_pos (decide_eq_true htype), List.map_cons, ih]
    · rw [if_neg htype, if_neg (by simpa using htype), ih]

theorem devicesOf_eq (changes : List DeviceChange) :
    (changes.filterMap DeviceChange.asNew).map id = devicesOf .newDeviceFound changes ∧
      (changes.filterMap DeviceChange.asBackOnline).map Prod.fst =
        devicesOf .deviceOnlineAfterTime changes ∧
      (changes.filterMap DeviceChange.asChanged).map (fun change ↦ change.2.1) =
        devicesOf .deviceChanged changes := by
  refine ⟨?_, ?_, ?_⟩ <;>
  · refine map_filterMap_eq_devicesOf (fun change ↦ ?_) changes
    cases change <;> rfl

/-- Every change is of one of the three types. -/
theorem sum_length_devicesOf (changes : List DeviceChange) :
    (scanTypes.map fun notificationType ↦ (devicesOf notificationType changes).length).sum =
      changes.length := by
  induction changes with
  | nil => rfl
  | cons change rest ih =>
    have hcons (notificationType : NotificationType) :
        (devicesOf notificationType (change :: rest)).length =
          (devicesOf notificationType rest).length +
            if change.notificationType = notificationType then 1 else 0 := by
      unfold devicesOf
      rw [List.filter_cons]
      by_cases htype : change.notificationType = notificationType
      · rw [if_pos (decide_eq_true htype), if_pos htype, List.map_cons, List.length_cons]
      · rw [if_neg (by simpa using htype), if_neg htype, Nat.add_zero]
    have hone : (scanTypes.map fun notificationType ↦
        if change.notificationType = notificationType then 1 else 0).sum = 1 := by
      cases change <;> rfl
    simp only [scanTypes, List.map_cons, List.map_nil, List.sum_cons, List.sum_nil] at ih hone ⊢
    rw [hcons, hcons, hcons, List.length_cons]
    omega

/-- Every change of a scan is accounted for exactly once. When no insertion fails, `notify` inserts
one row for each type that the scan has a change of, and none for the others; a row has the MAC of
the one device of its type, or is a summary that states the number of the devices, lists the first
three in the order of the scan and counts those beyond; and each change is of exactly one type. -/
theorem notify_accounts_for_changes (durationString : StdDuration → String)
    (changes : List DeviceChange) (outbox : Outbox) (hfailures : outbox.failures = fun _ ↦ none) :
    ∃ added after, (notify durationString changes).run storing outbox = (some (), after) ∧
      after.table.rows = outbox.table.rows ++ added ∧
      (added.map fun row ↦ row.record.notificationType) =
        (scanTypes.filter fun notificationType ↦ devicesOf notificationType changes ≠ []) ∧
      (∀ row ∈ added,
        AccountsFor (devicesOf row.record.notificationType changes) row.record) ∧
      (scanTypes.map fun notificationType ↦ (devicesOf notificationType changes).length).sum =
        changes.length := by
  obtain ⟨added, after, hrun, hrows, hstored, -⟩ := run_notify durationString changes hfailures
  obtain ⟨hnew, hbackOnline, hchanged⟩ := devicesOf_eq changes
  refine ⟨added, after, hrun, hrows, ?_, fun row hrow ↦ ?_, sum_length_devicesOf changes⟩
  · have htypes : (added.map fun row ↦ row.record.notificationType) =
        (notices durationString changes).map Notice.notificationType := by
      rw [← List.forall₂_eq_eq_eq, List.forall₂_map_left_iff, List.forall₂_map_right_iff]
      exact hstored.flip.imp fun _ _ hrow ↦ hrow.notificationType
    have hone (notificationType : NotificationType) :
        ([notificationType].filter fun _ ↦ devicesOf notificationType changes ≠ []) =
          [notificationType].filter fun notificationType ↦
            devicesOf notificationType changes ≠ [] := rfl
    rw [htypes, notices_eq, List.map_append, List.map_append, notifyNewDevices_consolidates.types,
      (notifyBackOnline_consolidates durationString).types, notifyChanged_consolidates.types, hnew,
      hbackOnline, hchanged, hone, hone, hone, ← List.filter_append, ← List.filter_append]
    rfl
  · obtain ⟨notice, hnotice, hrow⟩ : ∃ notice ∈ notices durationString changes,
        notice.StoredAs row.record := by
      obtain ⟨index, hindex, rfl⟩ := List.mem_iff_getElem.mp hrow
      exact ⟨_, List.getElem_mem _, hstored.get (hstored.length_eq ▸ hindex) hindex⟩
    rw [notices_eq, List.mem_append, List.mem_append, Option.mem_toList, Option.mem_toList,
      Option.mem_toList] at hnotice
    rcases hnotice with (hkind | hkind) | hkind
    · obtain ⟨htype, haccounts⟩ := notifyNewDevices_consolidates.accountsFor hkind hrow
      rwa [htype, ← hnew]
    · obtain ⟨htype, haccounts⟩ :=
        (notifyBackOnline_consolidates durationString).accountsFor hkind hrow
      rwa [htype, ← hbackOnline]
    · obtain ⟨htype, haccounts⟩ := notifyChanged_consolidates.accountsFor hkind hrow
      rwa [htype, ← hchanged]

/-- A scan with four new devices and a device with another address. -/
def fourNewOneMoved : List DeviceChange :=
  let device (mac ipv4Address : String) := Device.new mac ipv4Address "Acme" .epoch
  [.new (device "aa:bb:cc:dd:ee:01" "10.0.0.1"), .new (device "aa:bb:cc:dd:ee:02" "10.0.0.2"),
    .changed (device "AA:BB:CC:DD:EE:05" "10.0.0.5") (device "AA:BB:CC:DD:EE:05" "10.0.0.6") true
      false,
    .new (device "aa:bb:cc:dd:ee:03" "10.0.0.3"), .new (device "aa:bb:cc:dd:ee:04" "10.0.0.4")]

example : listing (devicesOf .newDeviceFound fourNewOneMoved) =
    "  - - (Acme)\n  - - (Acme)\n  - - (Acme)\n  …and 1 more devices\n" := by decide

/-- The scan gives a summary without a MAC, and a notification with one. -/
theorem notify_accounts_for_changes_fourNewOneMoved : ∃ added after,
    (notify (fun _ ↦ "12d") fourNewOneMoved).run storing
        ⟨⟨[], List.nodup_nil⟩, fun _ ↦ .epoch, fun _ ↦ none, []⟩ = (some (), after) ∧
      after.table.rows = added ∧
      (added.map fun row ↦ row.record.notificationType) = [.newDeviceFound, .deviceChanged] ∧
      ∀ row ∈ added, row.record.notificationType = .deviceChanged →
        row.record.macAddress = some "aa:bb:cc:dd:ee:05" := by
  obtain ⟨added, after, hrun, hrows, htypes, haccounts, -⟩ :=
    notify_accounts_for_changes (fun _ ↦ "12d") fourNewOneMoved
      ⟨⟨[], List.nodup_nil⟩, fun _ ↦ .epoch, fun _ ↦ none, []⟩ rfl
  refine ⟨added, after, hrun, hrows, htypes, fun row hrow htype ↦ ?_⟩
  have hone := (haccounts row hrow).one
  rw [htype] at hone
  exact hone _ rfl

end Oott
