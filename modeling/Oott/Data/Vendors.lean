import Oott.Utils.Network

/-!
# The vendor and device type databases

The three static databases of `data/`: the vendor of a MAC prefix, the vendor a service type gives
away, and the device type of a vendor. Each is a map from texts, loaded from a list of records; a
later record replaces an earlier one under the same key. `str::to_uppercase` and `str::to_lowercase`
are taken on ASCII, where they change the letters only. The Kelvin sign is the one other character
whose lowercase form is an ASCII character, and so the one other character through which a service
type can reach an ASCII key.
-/

set_option autoImplicit false
set_option relaxedAutoImplicit false

namespace Oott

/-- `HashMap<String, String>`, the last insertion first. -/
abbrev TextMap := List (String × String)

/-- `str::to_uppercase` on ASCII. -/
def toUppercase (text : String) : String := String.ofList (text.toList.map Char.toUpper)

/-- `str::to_lowercase` on ASCII and the Kelvin sign. -/
def toLowercase (text : String) : String :=
  String.ofList (text.toList.map fun c ↦ if c = '\u212a' then 'k' else c.toLower)

/-- `mac_vendor_finder::MacRecord`. -/
structure MacRecord where
  macPrefix : String
  vendorName : String

/-- `MAC_VENDORS_DATABASE`: the export, keyed by the prefixes in capitals. -/
def macVendorsDatabase (records : List MacRecord) : TextMap :=
  records.foldl (fun database el ↦ (toUppercase el.macPrefix, el.vendorName) :: database) []

/-- `mac_vendor_finder::find`. -/
def findMacVendor (database : TextMap) (macPrefix : String) : String :=
  (database.lookup (toUppercase macPrefix)).getD ""

/-- `service_vendor_finder::normalize`: without trailing dots, in small letters. -/
def normalizeService (serviceType : String) : String :=
  toLowercase (String.ofList (serviceType.toList.reverse.dropWhile (· = '.')).reverse)

/-- `SERVICE_VENDOR_DATABASE`. -/
def serviceVendorDatabase (raw : List (String × String)) : TextMap :=
  raw.foldl (fun database el ↦ (normalizeService el.1, el.2) :: database) []

/-- `service_vendor_finder::find`: the vendor of the first service type with a known signature. -/
def findServiceVendor (database : TextMap) (serviceTypes : List String) : String :=
  (serviceTypes.findSome? fun serviceType ↦ database.lookup (normalizeService serviceType)).getD ""

/-- `vendor_device_type_finder::find`. -/
def findDeviceType (database : TextMap) (vendor : String) : String :=
  (database.lookup vendor).getD ""

/-- The three databases, as loaded at the first lookup. -/
structure Databases where
  macVendors : TextMap
  serviceVendors : TextMap
  deviceTypes : TextMap

example : findServiceVendor (serviceVendorDatabase [("_sonos", "Sonos")]) ["_http", "_SoNos."] =
    "Sonos" := by decide

end Oott
