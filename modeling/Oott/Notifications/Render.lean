import Oott.Model.Records
import Oott.Utils.Json

/-!
# The texts of the notifications

`notifications/render.rs`: the title and the body of each kind of notification, in the form for one
device and in the summary of several. A MAC is ASCII text, so that its last five bytes are its last
five characters. The crate `duration_string` writes the time a device was absent for; its text is a
parameter. Every text is taken apart into its parts, so that its length in UTF-16 units is a sum
over the fields of the devices.
-/

set_option autoImplicit false
set_option relaxedAutoImplicit false

namespace Oott

/-- `SUMMARY_LIST_LIMIT`. -/
def summaryListLimit : ℕ := 3

/-- `UNKNOWN_PLACEHOLDER`. -/
def unknownPlaceholder : String := "-"

/-- `writeln!`. -/
def writeln (body text : String) : String := body ++ text ++ "\n"

/-- A text, or the placeholder for an empty one. -/
def orPlaceholder (text : String) : String := if text = "" then unknownPlaceholder else text

/-- `display_name`. -/
def displayName (device : Device) : String :=
  (device.name.filter fun name ↦ name ≠ "").getD unknownPlaceholder

/-- The last five characters of a MAC. -/
def macSuffix (mac : String) : String :=
  if mac.toList.length > 5 then String.ofList (mac.toList.drop (mac.toList.length - 5)) else mac

/-- `title_identity`. -/
def titleIdentity (device : Device) : String :=
  match device.name.filter fun name ↦ name ≠ "" with
  | some name => name
  | none =>
    if device.vendor ≠ "" then device.vendor else "device …" ++ macSuffix device.macAddress

/-- `device_type_or_placeholder`. -/
def deviceTypeOrPlaceholder (device : Device) : String := orPlaceholder device.deviceType

/-- `vendor_or_placeholder`. -/
def vendorOrPlaceholder (device : Device) : String := orPlaceholder device.vendor

/-- `registration_line`. -/
def registrationLine (device : Device) : String :=
  if device.isRegistered then
    if device.owner = "" then "Registered" else "Registered to " ++ device.owner
  else "Not registered"

/-- `render_new_device`. -/
def renderNewDevice (device : Device) : String × String :=
  let title := "New device on your network: " ++ titleIdentity device
  let body := writeln "" "A device that has not been seen before joined your network."
  let body := writeln body ""
  let body := writeln body "Device"
  let body := writeln body ("  Name: " ++ displayName device)
  let body := writeln body ("  Vendor: " ++ vendorOrPlaceholder device)
  let body := writeln body ("  Type: " ++ deviceTypeOrPlaceholder device)
  let body := writeln body ""
  let body := body ++ "If you do not recognise this device, consider investigating before " ++
    "granting it continued access."
  (title, body)

/-- `render_device_back_online`. -/
def renderDeviceBackOnline (device : Device) (durationText : String) : String × String :=
  let title := "Device back online after " ++ durationText ++ ": " ++ titleIdentity device
  let body := writeln "" "A known device returned to your network after being absent."
  let body := writeln body ""
  let body := writeln body "Device"
  let body := writeln body ("  Name: " ++ displayName device)
  let body := writeln body ("  Vendor: " ++ vendorOrPlaceholder device)
  let body := writeln body ("  Type: " ++ deviceTypeOrPlaceholder device)
  let body := writeln body ""
  let body := writeln body "Status"
  let body := writeln body ("  " ++ registrationLine device)
  let body := writeln body ""
  let body := writeln body "Activity"
  let body := body ++ "  Absent for: " ++ durationText
  (title, body)

/-- The title of `render_device_changed`, less the identity. -/
def changedPrefix (ipChanged vendorChanged : Bool) : String :=
  match ipChanged, vendorChanged with
  | true, true => "Device changed IP and vendor: "
  | true, false => "Device changed IP: "
  | false, true => "Device changed vendor: "
  | false, false => "Device changed: "

/-- `render_device_changed`. -/
def renderDeviceChanged (existing new : Device) (ipChanged vendorChanged : Bool) :
    String × String :=
  let title := changedPrefix ipChanged vendorChanged ++ titleIdentity new
  let body := writeln "" "An existing device's network details changed."
  let body := writeln body ""
  let body := writeln body "Device"
  let body := writeln body ("  Name: " ++ displayName new)
  let body := writeln body ("  Type: " ++ deviceTypeOrPlaceholder new)
  let body := writeln body ""
  let body := writeln body "Status"
  let body := writeln body ("  " ++ registrationLine new)
  let body := writeln body ""
  let body := writeln body "Changes"
  let body := if ipChanged then writeln body "  IP address changed" else body
  let body :=
    if vendorChanged then
      let body := writeln body ("  Vendor: " ++ existing.vendor ++ " -> " ++ new.vendor)
      let body := writeln body ""
      body ++ "A vendor change on the same MAC address is unusual and may indicate " ++
        "MAC spoofing."
    else body
  (title, body)

/-- `summary_device_line`. -/
def summaryDeviceLine (device : Device) : String :=
  let details := (if device.vendor ≠ "" then [device.vendor] else []) ++
    if device.deviceType ≠ "" then [device.deviceType] else []
  if details ≠ [] then displayName device ++ " (" ++ String.intercalate ", " details ++ ")"
  else displayName device

/-- `write_device_summary`. -/
def writeDeviceSummary (body : String) (devices : List Device) : String :=
  let body := (devices.take summaryListLimit).foldl
    (fun body device ↦ writeln body ("  - " ++ summaryDeviceLine device)) body
  if devices.length > summaryListLimit then
    writeln body ("  …and " ++ toString (devices.length - summaryListLimit) ++ " more devices")
  else body

/-- `render_new_devices_summary`. -/
def renderNewDevicesSummary (devices : List Device) : String × String :=
  let title := toString devices.length ++ " new devices found on your network"
  let body := writeln "" (toString devices.length ++
    " devices that have not been seen before joined your network.")
  let body := writeln body ""
  let body := writeln body "Devices"
  let body := writeDeviceSummary body devices
  let body := writeln body ""
  let body := body ++ "If you do not recognise these devices, consider investigating before " ++
    "granting them continued access."
  (title, body)

/-- `render_back_online_summary`. -/
def renderBackOnlineSummary (devices : List Device) : String × String :=
  let title := toString devices.length ++ " devices back online"
  let body := writeln "" (toString devices.length ++
    " known devices returned to your network after being absent.")
  let body := writeln body ""
  let body := writeln body "Devices"
  let body := writeDeviceSummary body devices
  (title, body)

/-- `render_changed_summary`. -/
def renderChangedSummary (devices : List Device) : String × String :=
  let title := toString devices.length ++ " devices changed on your network"
  let body := writeln "" (toString devices.length ++
    " existing devices changed their network details (IP address and/or vendor).")
  let body := writeln body ""
  let body := writeln body "Devices"
  let body := writeDeviceSummary body devices
  let body := writeln body ""
  let body := body ++
    "A vendor change on the same device is unusual and may indicate MAC spoofing."
  (title, body)

/-! ### The lengths of the parts -/

/-- The length of a text that the placeholder stands in for when it is empty. -/
def shownLength (text : String) : ℕ := if text = "" then 1 else utf16Length text

/-- The length of the shown name. -/
def nameLength (device : Device) : ℕ := shownLength (device.name.getD "")

/-- The length of the identity: of the name, else of the vendor, else of the masked MAC. -/
def identityLength (device : Device) : ℕ :=
  if device.name.getD "" ≠ "" then utf16Length (device.name.getD "")
  else if device.vendor ≠ "" then utf16Length device.vendor
  else 8 + utf16Length (macSuffix device.macAddress)

/-- The length of the line on the registration. -/
def registrationLength (device : Device) : ℕ :=
  if device.isRegistered then
    if device.owner = "" then 10 else 14 + utf16Length device.owner
  else 14

/-- The length of the line of a device in a summary, with its bullet and its line break. -/
def summaryLineLength (device : Device) : ℕ :=
  5 + nameLength device +
    if device.vendor = "" then
      if device.deviceType = "" then 0 else 3 + utf16Length device.deviceType
    else if device.deviceType = "" then 3 + utf16Length device.vendor
    else 5 + utf16Length device.vendor + utf16Length device.deviceType

/-- The length of the lines of several devices. -/
def summaryLinesLength : List Device → ℕ
  | [] => 0
  | device :: devices => summaryLineLength device + summaryLinesLength devices

/-- The length of the list of devices in a summary. -/
def summaryLength (devices : List Device) : ℕ :=
  summaryLinesLength (devices.take summaryListLimit) +
    if devices.length > summaryListLimit then
      21 + utf16Length (toString (devices.length - summaryListLimit))
    else 0

@[simp] theorem utf16Length_writeln (body text : String) :
    utf16Length (writeln body text) = utf16Length body + utf16Length text + 1 := by
  unfold writeln
  rw [utf16Length_append, utf16Length_append]
  rfl

@[simp] theorem utf16Length_orPlaceholder (text : String) :
    utf16Length (orPlaceholder text) = shownLength text := by
  unfold orPlaceholder shownLength
  split_ifs <;> rfl

/-- An empty name is no name. -/
theorem filter_name (name : Option String) :
    name.filter (fun name ↦ name ≠ "") = if name.getD "" = "" then none else name := by
  cases name with
  | none => rfl
  | some name =>
    by_cases hempty : name = ""
    · rw [hempty]
      rfl
    · rw [Option.getD_some, if_neg hempty]
      exact Option.filter_eq_some_iff.mpr ⟨rfl, decide_eq_true hempty⟩

@[simp] theorem utf16Length_displayName (device : Device) :
    utf16Length (displayName device) = nameLength device := by
  unfold displayName nameLength shownLength
  rw [filter_name]
  split_ifs with hempty
  · rfl
  · cases hname : device.name with
    | none => exact absurd (by rw [hname]; rfl) hempty
    | some name => rfl

@[simp] theorem utf16Length_titleIdentity (device : Device) :
    utf16Length (titleIdentity device) = identityLength device := by
  have hmasked : utf16Length "device …" = 8 := utf16Length_ofList rfl
  unfold titleIdentity identityLength
  rw [filter_name]
  by_cases hempty : device.name.getD "" = ""
  · rw [if_pos hempty, if_neg (not_not.mpr hempty)]
    dsimp only
    split_ifs
    · rfl
    · rw [utf16Length_append, hmasked]
  · rw [if_neg hempty, if_pos hempty]
    cases hname : device.name with
    | none => exact absurd (by rw [hname]; rfl) hempty
    | some name => rfl

@[simp] theorem utf16Length_registrationLine (device : Device) :
    utf16Length (registrationLine device) = registrationLength device := by
  unfold registrationLine registrationLength
  split_ifs
  · decide
  · rw [utf16Length_append]
    exact congrArg (· + _) (by decide)
  · decide

theorem utf16Length_summaryLine (device : Device) :
    utf16Length ("  - " ++ summaryDeviceLine device) + 1 = summaryLineLength device := by
  have hfixed : utf16Length "  - " = 4 ∧ utf16Length " (" = 2 ∧ utf16Length ")" = 1 ∧
      utf16Length ", " = 2 := by
    refine ⟨?_, ?_, ?_, ?_⟩ <;> exact utf16Length_ofList rfl
  have hone (first : String) : String.intercalate ", " [first] = first := rfl
  have htwo (first second : String) :
    String.intercalate ", " [first, second] = first ++ ", " ++ second := rfl
  unfold summaryDeviceLine summaryLineLength
  by_cases hvendor : device.vendor = "" <;> by_cases htype : device.deviceType = "" <;>
    simp [hvendor, htype, hfixed, hone, htwo] <;> omega

theorem utf16Length_summaryLines (body : String) (devices : List Device) :
    utf16Length (devices.foldl
      (fun body device ↦ writeln body ("  - " ++ summaryDeviceLine device)) body) =
      utf16Length body + summaryLinesLength devices := by
  induction devices generalizing body with
  | nil => rfl
  | cons device devices ih =>
    have hline := utf16Length_summaryLine device
    rw [List.foldl_cons, ih, utf16Length_writeln, summaryLinesLength]
    omega

@[simp] theorem utf16Length_writeDeviceSummary (body : String) (devices : List Device) :
    utf16Length (writeDeviceSummary body devices) = utf16Length body + summaryLength devices := by
  have hfixed : utf16Length "  …and " = 7 ∧ utf16Length " more devices" = 13 := by
    refine ⟨?_, ?_⟩ <;> exact utf16Length_ofList rfl
  unfold writeDeviceSummary summaryLength
  dsimp only
  split_ifs
  · rw [utf16Length_writeln, utf16Length_append, utf16Length_append, utf16Length_summaryLines]
    omega
  · exact utf16Length_summaryLines body _

/-! ### The lengths of the notifications -/

/-- The headings and labels that the bodies share. -/
theorem utf16Length_labels :
    utf16Length "" = 0 ∧ utf16Length "Device" = 6 ∧ utf16Length "Devices" = 7 ∧
      utf16Length "  Name: " = 8 ∧ utf16Length "  Vendor: " = 10 ∧ utf16Length "  Type: " = 8 := by
  refine ⟨?_, ?_, ?_, ?_, ?_, ?_⟩ <;> exact utf16Length_ofList rfl

theorem utf16Length_renderNewDevice (device : Device) :
    utf16Length (renderNewDevice device).1 = 28 + identityLength device ∧
      utf16Length (renderNewDevice device).2 =
        194 + nameLength device + shownLength device.vendor + shownLength device.deviceType := by
  have htitle : utf16Length "New device on your network: " = 28 := utf16Length_ofList rfl
  have hlabels := utf16Length_labels
  have htexts :
      utf16Length "A device that has not been seen before joined your network." = 59 ∧
        utf16Length "If you do not recognise this device, consider investigating before " = 67 ∧
        utf16Length "granting it continued access." = 29 := by
    refine ⟨?_, ?_, ?_⟩ <;> exact utf16Length_ofList rfl
  unfold renderNewDevice vendorOrPlaceholder deviceTypeOrPlaceholder
  simp only [utf16Length_writeln, utf16Length_append, utf16Length_titleIdentity,
    utf16Length_displayName, utf16Length_orPlaceholder]
  omega

theorem utf16Length_renderDeviceBackOnline (device : Device) (durationText : String) :
    utf16Length (renderDeviceBackOnline device durationText).1 =
        27 + utf16Length durationText + identityLength device ∧
      utf16Length (renderDeviceBackOnline device durationText).2 =
        132 + nameLength device + shownLength device.vendor + shownLength device.deviceType +
          registrationLength device + utf16Length durationText := by
  have htitle : utf16Length "Device back online after " = 25 ∧ utf16Length ": " = 2 := by
    refine ⟨?_, ?_⟩ <;> exact utf16Length_ofList rfl
  have hlabels := utf16Length_labels
  have htexts : utf16Length "A known device returned to your network after being absent." = 59 ∧
      utf16Length "Status" = 6 ∧ utf16Length "  " = 2 ∧ utf16Length "Activity" = 8 ∧
      utf16Length "  Absent for: " = 14 := by
    refine ⟨?_, ?_, ?_, ?_, ?_⟩ <;> exact utf16Length_ofList rfl
  unfold renderDeviceBackOnline vendorOrPlaceholder deviceTypeOrPlaceholder
  simp only [utf16Length_writeln, utf16Length_append, utf16Length_titleIdentity,
    utf16Length_displayName, utf16Length_orPlaceholder, utf16Length_registrationLine]
  omega

theorem utf16Length_renderDeviceChanged (existing new : Device) (ipChanged vendorChanged : Bool) :
    utf16Length (renderDeviceChanged existing new ipChanged vendorChanged).1 =
        utf16Length (changedPrefix ipChanged vendorChanged) + identityLength new ∧
      utf16Length (renderDeviceChanged existing new ipChanged vendorChanged).2 =
        92 + nameLength new + shownLength new.deviceType + registrationLength new +
          (if ipChanged then 21 else 0) +
          if vendorChanged then 97 + utf16Length existing.vendor + utf16Length new.vendor
          else 0 := by
  have hlabels := utf16Length_labels
  have htexts : utf16Length "An existing device's network details changed." = 45 ∧
      utf16Length "Status" = 6 ∧ utf16Length "  " = 2 ∧ utf16Length "Changes" = 7 := by
    refine ⟨?_, ?_, ?_, ?_⟩ <;> exact utf16Length_ofList rfl
  have hchanges : utf16Length "  IP address changed" = 20 ∧ utf16Length " -> " = 4 ∧
      utf16Length "A vendor change on the same MAC address is unusual and may indicate " = 68 ∧
      utf16Length "MAC spoofing." = 13 := by
    refine ⟨?_, ?_, ?_, ?_⟩ <;> exact utf16Length_ofList rfl
  unfold renderDeviceChanged deviceTypeOrPlaceholder
  cases ipChanged <;> cases vendorChanged <;>
    simp only [utf16Length_writeln, utf16Length_append, utf16Length_titleIdentity,
      utf16Length_displayName, utf16Length_orPlaceholder, utf16Length_registrationLine, if_true,
      Bool.false_eq_true, if_false, true_and] <;>
    omega

theorem utf16Length_renderNewDevicesSummary (devices : List Device) :
    utf16Length (renderNewDevicesSummary devices).1 =
        utf16Length (toString devices.length) + 34 ∧
      utf16Length (renderNewDevicesSummary devices).2 =
        171 + utf16Length (toString devices.length) + summaryLength devices := by
  have htitle : utf16Length " new devices found on your network" = 34 := utf16Length_ofList rfl
  have hlabels := utf16Length_labels
  have htexts :
      utf16Length " devices that have not been seen before joined your network." = 60 ∧
        utf16Length "If you do not recognise these devices, consider investigating before " = 69 ∧
        utf16Length "granting them continued access." = 31 := by
    refine ⟨?_, ?_, ?_⟩ <;> exact utf16Length_ofList rfl
  unfold renderNewDevicesSummary
  simp only [utf16Length_writeln, utf16Length_append, utf16Length_writeDeviceSummary]
  omega

theorem utf16Length_renderBackOnlineSummary (devices : List Device) :
    utf16Length (renderBackOnlineSummary devices).1 =
        utf16Length (toString devices.length) + 20 ∧
      utf16Length (renderBackOnlineSummary devices).2 =
        69 + utf16Length (toString devices.length) + summaryLength devices := by
  have htitle : utf16Length " devices back online" = 20 := utf16Length_ofList rfl
  have hlabels := utf16Length_labels
  have htexts : utf16Length " known devices returned to your network after being absent." = 59 :=
    utf16Length_ofList rfl
  unfold renderBackOnlineSummary
  simp only [utf16Length_writeln, utf16Length_append, utf16Length_writeDeviceSummary]
  omega

theorem utf16Length_renderChangedSummary (devices : List Device) :
    utf16Length (renderChangedSummary devices).1 =
        utf16Length (toString devices.length) + 32 ∧
      utf16Length (renderChangedSummary devices).2 =
        162 + utf16Length (toString devices.length) + summaryLength devices := by
  have htitle : utf16Length " devices changed on your network" = 32 := utf16Length_ofList rfl
  have hlabels := utf16Length_labels
  have htexts :
      utf16Length " existing devices changed their network details (IP address and/or vendor)." =
          75 ∧
        utf16Length
          "A vendor change on the same device is unusual and may indicate MAC spoofing." = 76 := by
    refine ⟨?_, ?_⟩ <;> exact utf16Length_ofList rfl
  unfold renderChangedSummary
  simp only [utf16Length_writeln, utf16Length_append, utf16Length_writeDeviceSummary]
  omega

/-- A number of 64 bits has at most twenty digits. -/
theorem utf16Length_toString_le {n : ℕ} (h : n < 2 ^ 64) : utf16Length (toString n) ≤ 40 := by
  have hdigits : (toString n).toList.length ≤ 20 := by
    rw [String.length_toList]
    exact (Nat.length_repr_le_iff (by decide)).mpr (h.trans (by decide))
  have hcount := List.countP_le_length (p := fun c : Char ↦ 0xFFFF < c.toNat)
    (l := (toString n).toList)
  unfold utf16Length
  omega

end Oott
