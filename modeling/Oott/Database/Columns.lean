import Oott.Database.Listing
import Oott.Model.Notifications
import Oott.Utils.DatesReadBack
import Oott.Utils.Network

/-!
# The columns of a record

The values that the `INSERT` statements bind, and the record that a list or a `read` makes of the
columns of a row. The enumerations are stored as texts, by `Display` and `FromStr`, and a timestamp
as the text of `to_rfc3339_opts`. A record is read back as it was inserted, with its MAC in
lowercase and the id of its row (`Device.read_columns`, `DeviceEvent.read_columns`,
`Notification.read_columns`).
-/

set_option autoImplicit false
set_option relaxedAutoImplicit false

namespace Oott

/-! ### Values -/

namespace SqlValue

/-- `String::column_result`. -/
def asText : SqlValue → Option String
  | text value => some value
  | _ => none

/-- `i64::column_result`. -/
def asInteger : SqlValue → Option Int
  | integer value => some value
  | _ => none

/-- `bool::column_result`. -/
def asBool : SqlValue → Option Bool
  | integer value => some (value ≠ 0)
  | _ => none

/-- `Option::<String>::column_result`. -/
def asTextOrNull : SqlValue → Option (Option String)
  | null => some none
  | text value => some (some value)
  | integer _ => none

@[simp] theorem asBool_ofBool (value : Bool) : (ofBool value).asBool = some value := by
  cases value <;> rfl

/-- `ToSql` of an optional text. -/
def ofTextOrNull (value : Option String) : SqlValue := (value.map text).getD null

@[simp] theorem asTextOrNull_ofTextOrNull (value : Option String) :
    (ofTextOrNull value).asTextOrNull = some value := by
  cases value <;> rfl

end SqlValue

/-- `DateTime::<Utc>::column_result` of `rusqlite`, as far as it reads what was written: the text of
an instant of the years 0 to 9999, with any number of decimals. -/
structure DateTimeColumn where
  columnResult : String → Option Instant
  written : ∀ (instant : Instant) (timestamp : String), WrittenAt instant timestamp →
    columnResult timestamp = some instant

/-- The parser of RFC 3339 is one. -/
def DateTimeColumn.rfc3339 : DateTimeColumn where
  columnResult := parseFromRfc3339
  written _ _ := fun ⟨hyear, format, htext⟩ ↦ htext ▸ parseFromRfc3339_toRfc3339Opts hyear format

/-! ### Enumerations -/

/-- `Display` of `DeviceEventType`. -/
def DeviceEventType.toText : DeviceEventType → String
  | newDevice => "NewDevice"
  | deviceSeen => "DeviceSeen"
  | deviceChanged => "DeviceChanged"
  | deviceBackOnline => "DeviceBackOnline"

/-- `DeviceEventType::from_str`. -/
def DeviceEventType.fromStr : String → Option DeviceEventType
  | "NewDevice" => some newDevice
  | "DeviceSeen" => some deviceSeen
  | "DeviceChanged" => some deviceChanged
  | "DeviceBackOnline" => some deviceBackOnline
  | _ => none

/-- `Display` of `DeviceEventScanner`. -/
def DeviceEventScanner.toText : DeviceEventScanner → String
  | arp => "ARP"
  | mdns => "mDNS"
  | ssdp => "SSDP"
  | dhcp => "DHCP"
  | snmp => "SNMP"

/-- `DeviceEventScanner::from_str`. -/
def DeviceEventScanner.fromStr : String → Option DeviceEventScanner
  | "ARP" => some arp
  | "mDNS" => some mdns
  | "SSDP" => some ssdp
  | "DHCP" => some dhcp
  | "SNMP" => some snmp
  | _ => none

/-- `Display` of `NotificationType`. -/
def NotificationType.toText : NotificationType → String
  | newDeviceFound => "NewDeviceFound"
  | deviceOnlineAfterTime => "DeviceOnlineAfterTime"
  | deviceChanged => "DeviceChanged"
  | other => "Other"

/-- `NotificationType::from_str`, which does not fail. -/
def NotificationType.fromStr : String → Option NotificationType
  | "NewDeviceFound" => some newDeviceFound
  | "DeviceOnlineAfterTime" => some deviceOnlineAfterTime
  | "DeviceChanged" => some deviceChanged
  | _ => some other

@[simp] theorem DeviceEventType.fromStr_toText (eventType : DeviceEventType) :
    fromStr eventType.toText = some eventType := by
  cases eventType <;> rfl

@[simp] theorem DeviceEventScanner.fromStr_toText (scanner : DeviceEventScanner) :
    fromStr scanner.toText = some scanner := by
  cases scanner <;> rfl

@[simp] theorem NotificationType.fromStr_toText (notificationType : NotificationType) :
    fromStr notificationType.toText = some notificationType := by
  cases notificationType <;> rfl

/-! ### Records -/

section Records

variable (column : DateTimeColumn)

/-- The columns of `devices` that `db::devices::insert` writes, with the text of `last_seen`. -/
def Device.columns (device : Device) (lastSeen : String) : List SqlValue :=
  [.text (normalizeMac device.macAddress), .text device.ipv4Address, .text device.vendor,
    .text lastSeen, .ofBool device.isRegistered, .text device.owner, .text device.deviceType,
    .ofTextOrNull device.name]

/-- What `db::devices::list_devices` and `read` make of the columns of a row. -/
def Device.ofColumns : List SqlValue → Option Device
  | [macAddress, ipv4Address, vendor, lastSeen, isRegistered, owner, deviceType, name] => do
    return {
      macAddress := ← macAddress.asText
      ipv4Address := ← ipv4Address.asText
      vendor := ← vendor.asText
      lastSeen := ← column.columnResult (← lastSeen.asText)
      isRegistered := ← isRegistered.asBool
      owner := ← owner.asText
      deviceType := ← deviceType.asText
      name := ← name.asTextOrNull }
  | _ => none

/-- The columns of `device_events` that `db::device_events::insert` writes, after the id, with the
text of `created_on`. -/
def DeviceEvent.columns (event : DeviceEvent) (createdOn : String) : List SqlValue :=
  [.text (normalizeMac event.macAddress), .text createdOn, .text event.eventType.toText,
    .text event.ipv4Address, .text event.vendor, .text event.scanner.toText]

/-- What `db::device_events::list` makes of the columns of a row. -/
def DeviceEvent.ofColumns : List SqlValue → Option DeviceEvent
  | [id, macAddress, createdOn, eventType, ipv4Address, vendor, scanner] => do
    return {
      id := ← id.asInteger
      macAddress := ← macAddress.asText
      createdOn := ← column.columnResult (← createdOn.asText)
      eventType := ← DeviceEventType.fromStr (← eventType.asText)
      ipv4Address := ← ipv4Address.asText
      vendor := ← vendor.asText
      scanner := ← DeviceEventScanner.fromStr (← scanner.asText) }
  | _ => none

/-- The columns of `notifications` that `db::notifications::insert` writes, after the id, with the
text of `created_on`. -/
def Notification.columns (notification : Notification) (createdOn : String) : List SqlValue :=
  [.text createdOn, .text notification.notificationType.toText, .text notification.title,
    .text notification.body, .ofBool notification.isNew,
    .ofTextOrNull (notification.macAddress.map normalizeMac)]

/-- What `db::notifications::list` and `read` make of the columns of a row. -/
def Notification.ofColumns : List SqlValue → Option Notification
  | [id, createdOn, notificationType, title, body, isNew, macAddress] => do
    return {
      id := ← id.asInteger
      createdOn := ← column.columnResult (← createdOn.asText)
      notificationType := ← NotificationType.fromStr (← notificationType.asText)
      title := ← title.asText
      body := ← body.asText
      isNew := ← isNew.asBool
      macAddress := ← macAddress.asTextOrNull }
  | _ => none

variable {column} {timestamp : String}

theorem Device.read_columns {device : Device} (hwritten : WrittenAt device.lastSeen timestamp) :
    Device.ofColumns column (device.columns timestamp) =
      some { device with macAddress := normalizeMac device.macAddress } := by
  simp [columns, ofColumns, SqlValue.asText, column.written _ _ hwritten]

theorem DeviceEvent.read_columns {event : DeviceEvent}
    (hwritten : WrittenAt event.createdOn timestamp) (id : Int) :
    DeviceEvent.ofColumns column (.integer id :: event.columns timestamp) =
      some { event with id := id, macAddress := normalizeMac event.macAddress } := by
  simp [columns, ofColumns, SqlValue.asText, SqlValue.asInteger, column.written _ _ hwritten]

theorem Notification.read_columns {notification : Notification}
    (hwritten : WrittenAt notification.createdOn timestamp) (id : Int) :
    Notification.ofColumns column (.integer id :: notification.columns timestamp) =
      some { notification with
        id := id, macAddress := notification.macAddress.map normalizeMac } := by
  simp [columns, ofColumns, SqlValue.asText, SqlValue.asInteger, column.written _ _ hwritten]

end Records

end Oott
