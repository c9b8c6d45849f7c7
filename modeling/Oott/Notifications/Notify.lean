import Oott.Model.Notifications
import Oott.Notifications.Render
import Oott.PushRelay.Push

/-!
# The notifications of a scan

`notify` of `notifications.rs`: the changes of a scan are grouped by kind, and each kind with a
change gives one notification, for the device or as a summary. The relay accepts a notification
within its limits; nothing in the backend shortens a text, so whether a notification is deliverable
is a matter of the lengths of the devices' fields (`notices_deliverable_iff`). A summary has a title
of bounded length and lists three devices at most, but each with its whole name, vendor and type.
-/

set_option autoImplicit false
set_option relaxedAutoImplicit false

namespace Oott

open PushRelay

/-- `Duration::as_secs`. -/
def StdDuration.asSecs (duration : StdDuration) : UInt64 := .ofNat (duration.nanos / 10 ^ 9)

/-- `duration_text`, with the text that the crate `duration_string` gives a duration. -/
def durationText (durationString : StdDuration → String) (absentFor : StdDuration) : String :=
  durationString (.fromSecs absentFor.asSecs)

/-- The changes of a scan by kind. -/
structure ChangeGroups where
  newDevices : List Device := []
  backOnline : List (Device × StdDuration) := []
  changed : List (Device × Device × Bool × Bool) := []

/-- A change goes to the group of its kind. -/
def ChangeGroups.push (groups : ChangeGroups) : DeviceChange → ChangeGroups
  | .new device => { groups with newDevices := groups.newDevices ++ [device] }
  | .backOnline device absentFor =>
    { groups with backOnline := groups.backOnline ++ [(device, absentFor)] }
  | .changed existing new ipChanged vendorChanged =>
    { groups with changed := groups.changed ++ [(existing, new, ipChanged, vendorChanged)] }

/-- The loop of `notify`. -/
def groupChanges (changes : List DeviceChange) : ChangeGroups := changes.foldl ChangeGroups.push {}

/-- What `persist_and_deliver` is called with. -/
structure Notice where
  notificationType : NotificationType
  title : String
  body : String
  macAddress : Option String
deriving DecidableEq

/-- A notice of a rendered title and body. -/
def Notice.of (notificationType : NotificationType) (text : String × String)
    (macAddress : Option String) : Notice := ⟨notificationType, text.1, text.2, macAddress⟩

/-- `notify_new_devices`. -/
def notifyNewDevices : List Device → Option Notice
  | [] => none
  | [device] => some (.of .newDeviceFound (renderNewDevice device) (some device.macAddress))
  | many => some (.of .newDeviceFound (renderNewDevicesSummary many) none)

/-- `notify_back_online`. -/
def notifyBackOnline (durationString : StdDuration → String) :
    List (Device × StdDuration) → Option Notice
  | [] => none
  | [(device, absentFor)] =>
    some (.of .deviceOnlineAfterTime
      (renderDeviceBackOnline device (durationText durationString absentFor))
      (some device.macAddress))
  | many => some (.of .deviceOnlineAfterTime (renderBackOnlineSummary (many.map Prod.fst)) none)

/-- `notify_changed`. -/
def notifyChanged : List (Device × Device × Bool × Bool) → Option Notice
  | [] => none
  | [(existing, new, ipChanged, vendorChanged)] =>
    some (.of .deviceChanged (renderDeviceChanged existing new ipChanged vendorChanged)
      (some new.macAddress))
  | many =>
    some (.of .deviceChanged (renderChangedSummary (many.map fun change ↦ change.2.1)) none)

/-- What `notify` hands to `persist_and_deliver`, in order. -/
def notices (durationString : StdDuration → String) (changes : List DeviceChange) : List Notice :=
  let groups := groupChanges changes
  (notifyNewDevices groups.newDevices).toList ++
    (notifyBackOnline durationString groups.backOnline).toList ++
    (notifyChanged groups.changed).toList

/-! ### The groups -/

/-- The device of a change that is a new device. -/
def DeviceChange.asNew : DeviceChange → Option Device
  | .new device => some device
  | _ => none

/-- The device and the time of absence of a change that is a return. -/
def DeviceChange.asBackOnline : DeviceChange → Option (Device × StdDuration)
  | .backOnline device absentFor => some (device, absentFor)
  | _ => none

/-- The two devices and the flags of a change of a known device. -/
def DeviceChange.asChanged : DeviceChange → Option (Device × Device × Bool × Bool)
  | .changed existing device ipChanged vendorChanged =>
    some (existing, device, ipChanged, vendorChanged)
  | _ => none

theorem foldl_push (groups : ChangeGroups) (changes : List DeviceChange) :
    changes.foldl ChangeGroups.push groups =
      ⟨groups.newDevices ++ changes.filterMap DeviceChange.asNew,
        groups.backOnline ++ changes.filterMap DeviceChange.asBackOnline,
        groups.changed ++ changes.filterMap DeviceChange.asChanged⟩ := by
  induction changes generalizing groups with
  | nil => simp
  | cons change changes ih =>
    rw [List.foldl_cons, ih]
    cases change <;> simp [ChangeGroups.push, List.filterMap_cons, DeviceChange.asNew,
      DeviceChange.asBackOnline, DeviceChange.asChanged]

/-- Each group holds the changes of its kind, in order. -/
theorem groupChanges_eq (changes : List DeviceChange) :
    groupChanges changes = ⟨changes.filterMap DeviceChange.asNew,
      changes.filterMap DeviceChange.asBackOnline,
      changes.filterMap DeviceChange.asChanged⟩ := foldl_push {} changes

/-- The notifications are those of the three kinds of changes. -/
theorem notices_eq (durationString : StdDuration → String) (changes : List DeviceChange) :
    notices durationString changes =
      (notifyNewDevices (changes.filterMap DeviceChange.asNew)).toList ++
        (notifyBackOnline durationString (changes.filterMap DeviceChange.asBackOnline)).toList ++
        (notifyChanged (changes.filterMap DeviceChange.asChanged)).toList := by
  unfold notices
  rw [groupChanges_eq]

/-! ### The limits of the relay -/

/-- The notification that the relay is asked to deliver. -/
def Notice.toPush (notice : Notice) : PushNotification := ⟨notice.title, notice.body⟩

/-- A summary fits: its text besides the devices, their number and their lines. -/
def SummaryFits (fixedLength : ℕ) (devices : List Device) : Prop :=
  fixedLength + utf16Length (toString devices.length) + summaryLength devices ≤ maxBodyLength

/-- The lengths under which the notification of new devices is within the limits. -/
def NewDevicesFit : List Device → Prop
  | [] => True
  | [device] =>
    28 + identityLength device ≤ maxTitleLength ∧
      194 + nameLength device + shownLength device.vendor + shownLength device.deviceType ≤
        maxBodyLength
  | many => SummaryFits 171 many

/-- The lengths under which the notification of devices back online is within the limits. -/
def BackOnlineFit (durationString : StdDuration → String) : List (Device × StdDuration) → Prop
  | [] => True
  | [(device, absentFor)] =>
    27 + utf16Length (durationText durationString absentFor) + identityLength device ≤
        maxTitleLength ∧
      132 + nameLength device + shownLength device.vendor + shownLength device.deviceType +
        registrationLength device + utf16Length (durationText durationString absentFor) ≤
        maxBodyLength
  | many => SummaryFits 69 (many.map Prod.fst)

/-- The lengths under which the notification of changed devices is within the limits. -/
def ChangedFit : List (Device × Device × Bool × Bool) → Prop
  | [] => True
  | [(existing, new, ipChanged, vendorChanged)] =>
    utf16Length (changedPrefix ipChanged vendorChanged) + identityLength new ≤ maxTitleLength ∧
      92 + nameLength new + shownLength new.deviceType + registrationLength new +
        (if ipChanged then 21 else 0) +
        (if vendorChanged then 97 + utf16Length existing.vendor + utf16Length new.vendor else 0) ≤
        maxBodyLength
  | many => SummaryFits 162 (many.map fun change ↦ change.2.1)

theorem withinLimits_iff {title body : String} {titleLength bodyLength : ℕ}
    (htitle : utf16Length title = titleLength) (hbody : utf16Length body = bodyLength)
    (htitlePos : 0 < titleLength) (hbodyPos : 0 < bodyLength) :
    (⟨title, body⟩ : PushNotification).WithinLimits ↔
      titleLength ≤ maxTitleLength ∧ bodyLength ≤ maxBodyLength := by
  have hne {text : String} (hpos : 0 < utf16Length text) : text ≠ "" :=
    fun hempty ↦ hpos.ne' (utf16Length_eq_zero_iff.mpr hempty)
  rw [← htitle, ← hbody]
  rw [← htitle] at htitlePos
  rw [← hbody] at hbodyPos
  exact ⟨fun h ↦ ⟨h.title_le, h.body_le⟩, fun h ↦ ⟨hne htitlePos, hne hbodyPos, h.1, h.2⟩⟩

/-- The title of a summary is within the limits, so only its body can be too long. -/
theorem summary_withinLimits_iff {title body : String} {suffixLength fixedLength : ℕ}
    {devices : List Device} (hdevices : devices.length < 2 ^ 64) (hsuffix : suffixLength ≤ 34)
    (htitlePos : 0 < suffixLength) (hbodyPos : 0 < fixedLength)
    (htitle : utf16Length title = utf16Length (toString devices.length) + suffixLength)
    (hbody : utf16Length body =
      fixedLength + utf16Length (toString devices.length) + summaryLength devices) :
    (⟨title, body⟩ : PushNotification).WithinLimits ↔ SummaryFits fixedLength devices := by
  have hdigits := utf16Length_toString_le hdevices
  have hmax : maxTitleLength = 256 := rfl
  rw [withinLimits_iff htitle hbody (by omega) (by omega)]
  exact and_iff_right (by omega)

section Kinds

variable {durationString : StdDuration → String}

theorem newDevices_iff {devices : List Device} (hdevices : devices.length < 2 ^ 64) :
    (∀ notice ∈ notifyNewDevices devices, notice.toPush.WithinLimits) ↔ NewDevicesFit devices := by
  match devices with
  | [] => exact iff_of_true nofun trivial
  | [device] =>
    obtain ⟨htitle, hbody⟩ := utf16Length_renderNewDevice device
    simp only [notifyNewDevices, Option.mem_some_iff, forall_eq']
    exact withinLimits_iff htitle hbody (by omega) (by omega)
  | first :: second :: rest =>
    obtain ⟨htitle, hbody⟩ := utf16Length_renderNewDevicesSummary (first :: second :: rest)
    simp only [notifyNewDevices, Option.mem_some_iff, forall_eq']
    exact summary_withinLimits_iff hdevices (by decide) (by decide) (by decide) htitle hbody

theorem backOnline_iff {devices : List (Device × StdDuration)}
    (hdevices : devices.length < 2 ^ 64) :
    (∀ notice ∈ notifyBackOnline durationString devices, notice.toPush.WithinLimits) ↔
      BackOnlineFit durationString devices := by
  match devices with
  | [] => exact iff_of_true nofun trivial
  | [(device, absentFor)] =>
    obtain ⟨htitle, hbody⟩ := utf16Length_renderDeviceBackOnline device
      (durationText durationString absentFor)
    simp only [notifyBackOnline, Option.mem_some_iff, forall_eq']
    exact withinLimits_iff htitle hbody (by omega) (by omega)
  | first :: second :: rest =>
    obtain ⟨htitle, hbody⟩ :=
      utf16Length_renderBackOnlineSummary ((first :: second :: rest).map Prod.fst)
    simp only [notifyBackOnline, Option.mem_some_iff, forall_eq']
    rw [← List.length_map (f := Prod.fst)] at hdevices
    exact summary_withinLimits_iff hdevices (by decide) (by decide) (by decide) htitle hbody

theorem changedPrefix_pos (ipChanged vendorChanged : Bool) :
    0 < utf16Length (changedPrefix ipChanged vendorChanged) := by
  cases ipChanged <;> cases vendorChanged <;> decide

theorem changed_iff {devices : List (Device × Device × Bool × Bool)}
    (hdevices : devices.length < 2 ^ 64) :
    (∀ notice ∈ notifyChanged devices, notice.toPush.WithinLimits) ↔ ChangedFit devices := by
  match devices with
  | [] => exact iff_of_true nofun trivial
  | [(existing, new, ipChanged, vendorChanged)] =>
    obtain ⟨htitle, hbody⟩ := utf16Length_renderDeviceChanged existing new ipChanged vendorChanged
    have hpositive := changedPrefix_pos ipChanged vendorChanged
    simp only [notifyChanged, Option.mem_some_iff, forall_eq']
    exact withinLimits_iff htitle hbody (by omega) (by omega)
  | first :: second :: rest =>
    obtain ⟨htitle, hbody⟩ :=
      utf16Length_renderChangedSummary ((first :: second :: rest).map fun change ↦ change.2.1)
    simp only [notifyChanged, Option.mem_some_iff, forall_eq']
    rw [← List.length_map (f := fun change ↦ change.2.1)] at hdevices
    exact summary_withinLimits_iff hdevices (by decide) (by decide) (by decide) htitle hbody

end Kinds

/-- Every notification of a scan is within the limits of the relay exactly when, for each kind, the
fields of its devices are short enough: those of the one device, or those of the first three. -/
theorem notices_deliverable_iff (durationString : StdDuration → String)
    (changes : List DeviceChange) (hchanges : changes.length < 2 ^ 64) :
    (∀ notice ∈ notices durationString changes, notice.toPush.WithinLimits) ↔
      NewDevicesFit (changes.filterMap DeviceChange.asNew) ∧
        BackOnlineFit durationString (changes.filterMap DeviceChange.asBackOnline) ∧
        ChangedFit (changes.filterMap DeviceChange.asChanged) := by
  have hlength {α : Type} (kind : DeviceChange → Option α) :
      (changes.filterMap kind).length < 2 ^ 64 := (List.length_filterMap_le _ _).trans_lt hchanges
  rw [notices_eq]
  simp only [List.mem_append, Option.mem_toList, or_imp, forall_and]
  rw [← newDevices_iff (hlength _), ← backOnline_iff (hlength _), ← changed_iff (hlength _),
    and_assoc]
  exact Iff.rfl

/-- A host name of 255 characters makes a title that the relay refuses. -/
theorem long_host_name_refused :
    ¬ ∀ (durationString : StdDuration → String) (changes : List DeviceChange),
      changes.length < 2 ^ 64 →
        ∀ notice ∈ notices durationString changes, notice.toPush.WithinLimits := by
  intro hall
  let name := String.ofList (List.replicate 255 'a')
  let device := { Device.new "aa:bb:cc:dd:ee:ff" "192.168.1.42" "" .epoch with name := some name }
  have hlimits := hall (fun _ ↦ "12d") [.new device] (by decide)
    (.of .newDeviceFound (renderNewDevice device) (some device.macAddress)) List.mem_cons_self
  have htitle : utf16Length (renderNewDevice device).1 = 28 + identityLength device :=
    (utf16Length_renderNewDevice device).1
  have hname : utf16Length name = 255 := by
    unfold utf16Length
    rw [String.toList_ofList, List.length_replicate, List.countP_replicate, if_neg (by decide)]
  have hne : name ≠ "" := by
    intro hempty
    rw [hempty] at hname
    cases hname
  have hidentity : identityLength device = 255 := (if_pos hne).trans hname
  have hle : utf16Length (renderNewDevice device).1 ≤ 256 := hlimits.title_le
  omega

/-- A device with a vendor and no name. -/
theorem notices_deliverable_iff_acme :
    (Notice.of .newDeviceFound
      (renderNewDevice (.new "aa:bb:cc:dd:ee:ff" "192.168.1.42" "Acme" .epoch))
      (some "aa:bb:cc:dd:ee:ff")).toPush.WithinLimits := by
  let device := Device.new "aa:bb:cc:dd:ee:ff" "192.168.1.42" "Acme" .epoch
  have hfit : NewDevicesFit [device] := by
    refine ⟨?_, ?_⟩ <;> decide
  exact (notices_deliverable_iff (fun _ ↦ "12d") [.new device] (by decide)).mpr
    ⟨hfit, trivial, trivial⟩ _ List.mem_cons_self

end Oott
