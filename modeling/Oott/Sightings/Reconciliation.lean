import Oott.Scanners.Enrichment
import Oott.Scanners.Pipeline

/-!
# The notified device is the stored one

A sighting of a known device is reconciled with the stored record twice: by `reconcile` on the
device that goes into the changes, and by the conditional `UPDATE` of `seen` on the row. The two
agree on every column. Where the reconciled vendor is empty the `UPDATE` writes no type, and there
the agreement needs that the type of a built device is the one of its vendor and that there is no
type for the empty vendor.
-/

set_option autoImplicit false
set_option relaxedAutoImplicit false

namespace Oott

open Effects

/-- The device a change describes to the notification layer. -/
def DeviceChange.notified : DeviceChange → Device
  | .new device => device
  | .backOnline device _ => device
  | .changed _ seen _ _ => seen

/-- A notified device agrees with a row, on the MAC up to letter case and on the other columns but
`last_seen` exactly. -/
structure Device.AgreesWith (notified row : Device) : Prop where
  macAddress : NocaseEq notified.macAddress row.macAddress
  ipv4Address : notified.ipv4Address = row.ipv4Address
  vendor : notified.vendor = row.vendor
  isRegistered : notified.isRegistered = row.isRegistered
  owner : notified.owner = row.owner
  deviceType : notified.deviceType = row.deviceType
  name : notified.name = row.name

section Reconcile

variable {recorded device : Device} (instant : Instant)

/-- Without a vendor in the sighting and in the record, a sighting that learns no type from the
empty vendor leaves the type of the record. -/
theorem reconcile_deviceType_of_vendor_eq (htype : device.vendor = "" → device.deviceType = "")
    (hvendor : (reconcile recorded device).vendor = "") :
    (reconcile recorded device).deviceType = recorded.deviceType := by
  have hdeduced := (reconcile_vendor_eq_empty_iff.mp hvendor).1
  by_cases hstored : recorded.deviceType = ""
  · simp [reconcile, hstored, htype hdeduced]
  · simp [reconcile, hstored]

/-- The reconciled vendor is the one that the `UPDATE` leaves: an empty one is not written, and then
there was none. -/
theorem reconcile_vendor :
    ((sightingClause recorded device instant).apply recorded).vendor =
      (reconcile recorded device).vendor := by
  rw [sightingClause_apply_vendor]
  split_ifs with hvendor
  · rw [hvendor]
    exact (reconcile_vendor_eq_empty_iff.mp hvendor).2
  · rfl

/-- The reconciled device agrees with the row that the `UPDATE` leaves. -/
theorem reconcile_agreesWith (hmac : NocaseEq recorded.macAddress device.macAddress)
    (htype : device.vendor = "" → device.deviceType = "") :
    (reconcile recorded device).AgreesWith
      ((sightingClause recorded device instant).apply recorded) where
  macAddress := hmac.symm
  ipv4Address := rfl
  vendor := (reconcile_vendor instant).symm
  isRegistered := rfl
  owner := rfl
  deviceType := by
    rw [sightingClause_apply_deviceType]
    split_ifs with hkept
    · rcases hkept with hvendor | hstored
      · exact reconcile_deviceType_of_vendor_eq htype hvendor
      · simp [reconcile, hstored]
    · rfl
  name := by
    rw [sightingClause_apply_name, reconcile_name]
    -- What is stored is written only where nothing else is, and then it is nothing.
    cases hname : recorded.name with
    | none => rw [Option.none_or, Option.or_none]
    | some name => rfl

end Reconcile

/-- Every change found for a known device describes the reconciled device. -/
theorem notified_of_mem_changesAt {settings : Settings} {existing new : Device} {instant : Instant}
    {change : DeviceChange} (hmem : change ∈ changesAt settings existing new instant) :
    change.notified = new := by
  cases change with
  | new device => exact absurd hmem new_not_mem_changesAt
  | backOnline device absentFor => exact (backOnline_mem_changesAt.mp hmem).2.1
  | changed old seen ipFlag vendorFlag => exact (changed_mem_changesAt.mp hmem).2.2.1

/-- A device built from a sighting without a vendor has no type, when the empty vendor has none. -/
theorem buildDevice_deviceType_of_vendor_eq {databases : Databases} {mac ipv4 : String}
    {serviceHints : List String} {name : Option String} {instant : Instant}
    (hempty : databases.deviceTypes.lookup "" = none)
    (hvendor : (buildDevice databases mac ipv4 serviceHints name instant).vendor = "") :
    (buildDevice databases mac ipv4 serviceHints name instant).deviceType = "" := by
  rw [buildDevice_deviceType, hvendor]
  unfold findDeviceType
  rw [hempty]
  rfl

/-- Every change returned for a known device describes it as the row read back afterwards has it. -/
theorem notified_agreesWith_row {settings : Settings} {device recorded : Device}
    {scanner : DeviceEventScanner} {world after : World} {changes : List DeviceChange}
    (htype : device.vendor = "" → device.deviceType = "")
    (hknown : world.db.devices.select (normalizeMac device.macAddress) = some recorded)
    (hrun : (recordSighting settings device scanner).run clocked world = (some changes, after)) :
    ∀ change ∈ changes, ∃ row,
      after.db.devices.select (normalizeMac device.macAddress) = some row ∧
        change.notified.AgreesWith row := by
  intro change hchange
  have hrow : ((recordSighting settings device scanner).run clocked world).2.db.devices.select
      (normalizeMac device.macAddress) = _ := row_of_recordSighting_known hknown
  rw [hrun] at hrow
  refine ⟨_, hrow, ?_⟩
  rw [run_recordSighting_known hknown] at hrun
  obtain ⟨instant, hfound⟩ := recordKnownDevice_sublist (Program.exec_ofMachine_iff.mpr hrun)
  rw [notified_of_mem_changesAt (hfound.subset hchange)]
  have hmac := (DevicesTable.nocaseEq_of_select hknown).trans
    (nocaseEq_normalizeMac device.macAddress)
  exact reconcile_agreesWith _ hmac htype

/-- The notification describes the device as stored: every change that a sighting of a known device
returns, made by `build_device` and with succeeding calls, describes the device as the row read back
afterwards has it. -/
theorem notified_agreesWith_stored (settings : Settings) {databases : Databases}
    (hempty : databases.deviceTypes.lookup "" = none) (mac ipv4 : String)
    (serviceHints : List String) (name : Option String) (builtAt : Instant)
    (scanner : DeviceEventScanner) {world after : World} {recorded : Device}
    {changes : List DeviceChange}
    (hknown : world.db.devices.select (normalizeMac mac) = some recorded)
    (hrun : (recordSighting settings (buildDevice databases mac ipv4 serviceHints name builtAt)
      scanner).run clocked world = (some changes, after)) :
    ∀ change ∈ changes, ∃ row, after.db.devices.select (normalizeMac mac) = some row ∧
      change.notified.AgreesWith row := by
  have htype := @buildDevice_deviceType_of_vendor_eq databases mac ipv4 serviceHints name builtAt
    hempty
  have hmac := buildDevice_macAddress databases mac ipv4 serviceHints name builtAt
  generalize buildDevice databases mac ipv4 serviceHints name builtAt = device at htype hmac hrun
  rw [← hmac] at hknown ⊢
  exact notified_agreesWith_row htype hknown hrun

/-- A registered device that is known at one address. -/
def registeredNas : Device where
  macAddress := "aa:00:00:00:00:01"
  ipv4Address := "10.0.0.1"
  vendor := "Acme"
  lastSeen := .epoch
  isRegistered := true
  owner := "Ada"
  deviceType := "Server"
  name := some "nas"

/-- A bare sighting of it at another address returns a change, which describes the registered
device. -/
theorem notified_agreesWith_stored_registeredNas :
    ∃ (changes : List DeviceChange) (after : World), changes.length = 1 ∧ ∀ change ∈ changes,
      ∃ row, after.db.devices.select (normalizeMac "AA:00:00:00:00:01") = some row ∧
        change.notified.AgreesWith row := by
  have hknown : (World.still ⟨.single registeredNas, []⟩ .epoch).db.devices.select
      (normalizeMac "AA:00:00:00:00:01") = some registeredNas := by decide
  have hlength : ((recordSighting .default
      (buildDevice ⟨[], [], []⟩ "AA:00:00:00:00:01" "10.0.0.2" [] none .epoch) .arp).run clocked
        (.still ⟨.single registeredNas, []⟩ .epoch)).1.map List.length = some 1 := by decide
  obtain ⟨changes, hchanges, hone⟩ := Option.map_eq_some_iff.mp hlength
  exact ⟨changes, _, hone, notified_agreesWith_stored .default rfl "AA:00:00:00:00:01" "10.0.0.2"
    [] none .epoch .arp hknown (Prod.ext hchanges rfl)⟩

end Oott
