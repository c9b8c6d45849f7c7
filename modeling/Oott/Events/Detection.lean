import Oott.Database.Statements

/-!
# Detecting what changed about a known device

`events/detection.rs`: the stored record is compared with the record as it was just reconciled. A
return after the configured absence and a change of address or vendor are detected independently, so
one sighting can show both. Learning a first address or vendor is no change, and neither is a
sighting without one.
-/

set_option autoImplicit false
set_option relaxedAutoImplicit false

namespace Oott

open Effects

/-- `vendor_changed`. -/
def vendorChanged (existing new : String) : Bool :=
  !existing.isEmpty && !new.isEmpty && existing != new

/-- `ip_changed`. -/
def ipChanged (existing new : String) : Bool :=
  !existing.isEmpty && !new.isEmpty && existing != new

theorem vendorChanged_iff (existing new : String) :
    vendorChanged existing new = true ↔ existing ≠ "" ∧ new ≠ "" ∧ existing ≠ new := by
  simp [vendorChanged, and_assoc]

theorem ipChanged_iff (existing new : String) :
    ipChanged existing new = true ↔ existing ≠ "" ∧ new ≠ "" ∧ existing ≠ new := by
  simp [ipChanged, and_assoc]

/-- The changes `detect_known_device_changes` finds at the instant it reads from the clock. -/
def changesAt (settings : Settings) (existing new : Device) (instant : Instant) :
    List DeviceChange :=
  let elapsedSinceLastSeen := instant.elapsedSince existing.lastSeen
  let ipChangedFlag := ipChanged existing.ipv4Address new.ipv4Address
  let vendorChangedFlag := vendorChanged existing.vendor new.vendor
  (if settings.notifyWhenNotSeenFor ≤ elapsedSinceLastSeen then
    [.backOnline new elapsedSinceLastSeen] else []) ++
  (if ipChangedFlag || vendorChangedFlag then
    [.changed existing new ipChangedFlag vendorChangedFlag] else [])

/-- `detect_known_device_changes`. -/
def detectKnownDeviceChanges (settings : Settings) (existing new : Device) :
    Program backend (List DeviceChange) := do
  return changesAt settings existing new (← now)

variable {settings : Settings} {existing new : Device} {instant : Instant}

theorem backOnline_mem_changesAt {device : Device} {absentFor : StdDuration} :
    .backOnline device absentFor ∈ changesAt settings existing new instant ↔
      settings.notifyWhenNotSeenFor ≤ instant.elapsedSince existing.lastSeen ∧
        device = new ∧ absentFor = instant.elapsedSince existing.lastSeen := by
  simp [changesAt]

theorem changed_mem_changesAt {old seen : Device} {ipFlag vendorFlag : Bool} :
    .changed old seen ipFlag vendorFlag ∈ changesAt settings existing new instant ↔
      (ipChanged existing.ipv4Address new.ipv4Address = true ∨
        vendorChanged existing.vendor new.vendor = true) ∧
        old = existing ∧ seen = new ∧ ipFlag = ipChanged existing.ipv4Address new.ipv4Address ∧
          vendorFlag = vendorChanged existing.vendor new.vendor := by
  simp [changesAt]

theorem new_not_mem_changesAt {device : Device} :
    .new device ∉ changesAt settings existing new instant := by
  simp [changesAt]

end Oott
