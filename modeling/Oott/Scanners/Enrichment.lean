import Oott.Data.Vendors
import Oott.Model.Records

/-!
# Building a device from a sighting

`scanners/common/enrichment.rs`: the vendor comes from the first eight bytes of the MAC, or from the
advertised services when there is none and the MAC is locally administered; the device type comes
from the vendor.
-/

set_option autoImplicit false
set_option relaxedAutoImplicit false

namespace Oott

/-- The characters that fill exactly `bytes` bytes of UTF-8, `none` when a character straddles the
end or the text is too short. -/
def bytePrefix : Nat → List Char → Option (List Char)
  | 0, _ => some []
  | _ + 1, [] => none
  | bytes + 1, c :: rest =>
    if c.utf8Size ≤ bytes + 1 then (c :: ·) <$> bytePrefix (bytes + 1 - c.utf8Size) rest else none
termination_by structural _ text => text

/-- `mac.get(0..8).unwrap_or("")`. -/
def vendorPrefix (mac : String) : String :=
  String.ofList ((bytePrefix 8 mac.toList).getD [])

/-- The vendor `build_device` deduces. -/
def deducedVendor (databases : Databases) (mac : String) (serviceHints : List String) : String :=
  let vendor := findMacVendor databases.macVendors (vendorPrefix mac)
  if vendor.isEmpty && isLocallyAdministered mac then
    findServiceVendor databases.serviceVendors serviceHints
  else vendor

/-- `build_device`, at the instant it reads from the clock. -/
def buildDevice (databases : Databases) (mac ipv4 : String) (serviceHints : List String)
    (name : Option String) (instant : Instant) : Device :=
  let device := Device.new mac ipv4 (deducedVendor databases mac serviceHints) instant
  { device with
    deviceType := findDeviceType databases.deviceTypes device.vendor
    name := name }

variable (databases : Databases) (mac ipv4 : String) (serviceHints : List String)
  (name : Option String) (instant : Instant)

@[simp] theorem buildDevice_macAddress :
    (buildDevice databases mac ipv4 serviceHints name instant).macAddress = mac := rfl

@[simp] theorem buildDevice_ipv4Address :
    (buildDevice databases mac ipv4 serviceHints name instant).ipv4Address = ipv4 := rfl

@[simp] theorem buildDevice_lastSeen :
    (buildDevice databases mac ipv4 serviceHints name instant).lastSeen = instant := rfl

/-- A built device is unregistered and has no owner. -/
theorem buildDevice_unregistered :
    (buildDevice databases mac ipv4 serviceHints name instant).isRegistered = false ∧
      (buildDevice databases mac ipv4 serviceHints name instant).owner = "" := ⟨rfl, rfl⟩

/-- The type of a built device is the one of its vendor. -/
theorem buildDevice_deviceType :
    (buildDevice databases mac ipv4 serviceHints name instant).deviceType =
      findDeviceType databases.deviceTypes
        (buildDevice databases mac ipv4 serviceHints name instant).vendor := rfl

end Oott
