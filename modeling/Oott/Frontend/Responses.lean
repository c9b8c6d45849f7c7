import Oott.Database.Columns
import Oott.Frontend.DeviceTypes
import Oott.Utils.DartDates
import Oott.Utils.Json
import Oott.WebServer.Parameters

/-!
# The responses of the lists

The JSON that `serde` writes of the records, and what the app reads of it: `fromJson` of its own
`Device`, `DeviceEvent` and `Notification`, and `_paginate`. Every record that has been stored is
shown (`records_arrive`): from the columns of its row, through the JSON, with all its fields, the
timestamp without its nanoseconds. The app has the same types of events and of notifications as the
backend; of the type of a device it keeps what it knows.
-/

set_option autoImplicit false
set_option relaxedAutoImplicit false

namespace Oott

/-! ### What the backend writes -/

namespace Json

/-- An integer. -/
def ofInt (value : Int) : Json := number value

/-- A text, or `null`. -/
def ofTextOrNull (value : Option String) : Json := (value.map string).getD null

/-- `as bool`. -/
def asBool : Json → Option Bool
  | bool value => some value
  | _ => none

/-- `as int`. -/
def asInt : Json → Option Int
  | number value => if value.den = 1 then some value.num else none
  | _ => none

/-- `as String?` of a member, which is `null` when it is missing. -/
def textOrNull (name : String) (json : Json) : Option (Option String) :=
  match json.member name with
  | none => some none
  | some null => some none
  | some (string text) => some (some text)
  | some _ => none

@[simp] theorem asInt_ofInt (value : Int) : (ofInt value).asInt = some value := rfl

end Json

/-- The name of the variant, which is the JSON of a `DeviceEventType`. -/
def DeviceEventType.variant : DeviceEventType → String
  | newDevice => "NewDevice"
  | deviceSeen => "DeviceSeen"
  | deviceChanged => "DeviceChanged"
  | deviceBackOnline => "DeviceBackOnline"

/-- The name of the variant, which is the JSON of a `DeviceEventScanner`; `Display` writes other
texts. -/
def DeviceEventScanner.variant : DeviceEventScanner → String
  | arp => "Arp"
  | mdns => "Mdns"
  | ssdp => "Ssdp"
  | dhcp => "Dhcp"
  | snmp => "Snmp"

/-- The name of the variant, which is the JSON of a `NotificationType`. -/
def NotificationType.variant : NotificationType → String
  | newDeviceFound => "NewDeviceFound"
  | deviceOnlineAfterTime => "DeviceOnlineAfterTime"
  | deviceChanged => "DeviceChanged"
  | other => "Other"

/-- The JSON of a `Device`. -/
def Device.toJson (device : Device) : Json :=
  .object [("mac_address", .string device.macAddress), ("ipv4_address", .string device.ipv4Address),
    ("vendor", .string device.vendor), ("last_seen", .string (serialize device.lastSeen)),
    ("is_registered", .bool device.isRegistered), ("owner", .string device.owner),
    ("device_type", .string device.deviceType), ("name", .ofTextOrNull device.name)]

/-- The JSON of a `DeviceEvent`. -/
def DeviceEvent.toJson (event : DeviceEvent) : Json :=
  .object [("id", .ofInt event.id), ("mac_address", .string event.macAddress),
    ("created_on", .string (serialize event.createdOn)),
    ("event_type", .string event.eventType.variant), ("ipv4_address", .string event.ipv4Address),
    ("vendor", .string event.vendor), ("scanner", .string event.scanner.variant)]

/-- The JSON of a `Notification`. -/
def Notification.toJson (notification : Notification) : Json :=
  .object [("id", .ofInt notification.id),
    ("created_on", .string (serialize notification.createdOn)),
    ("notification_type", .string notification.notificationType.variant),
    ("title", .string notification.title), ("body", .string notification.body),
    ("is_new", .bool notification.isNew),
    ("mac_address", .ofTextOrNull notification.macAddress)]

/-- The JSON of a `DeviceListResponse` or a `NotificationListResponse`. -/
def listToJson {α : Type} (toJson : α → Json) (items : List α) (totalCount : ℕ) : Json :=
  .object [("items", .array (items.map toJson)), ("total_count", .ofInt totalCount)]

/-! ### What the app reads -/

namespace App

/-- `Device`. -/
structure Device where
  macAddress : String
  ipv4Address : String
  vendor : String
  lastSeen : ParsedDateTime
  isRegistered : Bool
  owner : String
  deviceType : DeviceType
  name : Option String
deriving DecidableEq

/-- `Device.fromJson`. -/
def Device.fromJson (dart : DartLowerCase) (json : Json) : Option Device := do
  return {
    macAddress := ← (← json.member "mac_address").text
    ipv4Address := ← (← json.member "ipv4_address").text
    vendor := ← (← json.member "vendor").text
    lastSeen := ← DateTime.parse (← (← json.member "last_seen").text)
    isRegistered := ← (← json.member "is_registered").asBool
    owner := ← (← json.member "owner").text
    deviceType := .fromString dart (← (← json.member "device_type").text)
    name := ← json.textOrNull "name" }

/-- `wireValue` of a `DeviceEventType`. -/
def wireValue : DeviceEventType → String
  | .newDevice => "NewDevice"
  | .deviceSeen => "DeviceSeen"
  | .deviceChanged => "DeviceChanged"
  | .deviceBackOnline => "DeviceBackOnline"

/-- `DeviceEventType.fromString`: any other text is that of a sighting. -/
def eventTypeFromString (value : String) : DeviceEventType :=
  ([.newDevice, .deviceSeen, .deviceChanged, .deviceBackOnline].find? fun type ↦
    wireValue type = value).getD .deviceSeen

/-- `DeviceEvent`. -/
structure DeviceEvent where
  id : Int
  macAddress : String
  createdOn : ParsedDateTime
  eventType : DeviceEventType
  ipv4Address : String
  vendor : String
  scanner : String
deriving DecidableEq

/-- `DeviceEvent.fromJson`. -/
def DeviceEvent.fromJson (json : Json) : Option DeviceEvent := do
  return {
    id := ← (← json.member "id").asInt
    macAddress := ← (← json.member "mac_address").text
    createdOn := ← DateTime.parse (← (← json.member "created_on").text)
    eventType := eventTypeFromString (← (← json.member "event_type").text)
    ipv4Address := ← (← json.member "ipv4_address").text
    vendor := ← (← json.member "vendor").text
    scanner := ← (← json.member "scanner").text }

/-- The `switch` of `NotificationType.fromString`. -/
def notificationTypeOfLowerCase : String → NotificationType
  | "newdevicefound" => .newDeviceFound
  | "deviceonlineaftertime" => .deviceOnlineAfterTime
  | "devicechanged" => .deviceChanged
  | _ => .other

/-- `Notification`. -/
structure Notification where
  id : Int
  title : String
  body : String
  isNew : Bool
  notificationType : NotificationType
  createdOn : ParsedDateTime
  macAddress : Option String
deriving DecidableEq

/-- `Notification.fromJson`. -/
def Notification.fromJson (dart : DartLowerCase) (json : Json) : Option Notification := do
  return {
    id := ← (← json.member "id").asInt
    createdOn := ← DateTime.parse (← (← json.member "created_on").text)
    notificationType := notificationTypeOfLowerCase
      (dart.toLowerCase (← (← json.member "notification_type").text))
    title := ← (← json.member "title").text
    body := ← (← json.member "body").text
    isNew := ← (← json.member "is_new").asBool
    macAddress := ← json.textOrNull "mac_address" }

/-- `_paginate`. One item that cannot be read fails the page. -/
def paginate {α : Type} (fromItem : Json → Option α) (data : Json) : Option (List α × Int) := do
  let items ← (← (← data.member "items").items).mapM fromItem
  return (items, ← (← data.member "total_count").asInt)

/-- What `getDeviceEvents` makes of the response. -/
def readEvents (data : Json) : Option (List DeviceEvent) := do
  (← data.items).mapM DeviceEvent.fromJson

end App

/-! ### What is shown -/

namespace App

/-- A timestamp of the backend in the app. -/
def timestamp (instant : Instant) : ParsedDateTime := ⟨instant.nanos / 1000, true⟩

/-- A device of the backend in the app. -/
def Device.of (dart : DartLowerCase) (device : Oott.Device) : Device where
  macAddress := device.macAddress
  ipv4Address := device.ipv4Address
  vendor := device.vendor
  lastSeen := timestamp device.lastSeen
  isRegistered := device.isRegistered
  owner := device.owner
  deviceType := .fromString dart device.deviceType
  name := device.name

/-- An event of the backend in the app. -/
def DeviceEvent.of (event : Oott.DeviceEvent) : DeviceEvent where
  id := event.id
  macAddress := event.macAddress
  createdOn := timestamp event.createdOn
  eventType := event.eventType
  ipv4Address := event.ipv4Address
  vendor := event.vendor
  scanner := event.scanner.variant

/-- A notification of the backend in the app. -/
def Notification.of (notification : Oott.Notification) : Notification where
  id := notification.id
  title := notification.title
  body := notification.body
  isNew := notification.isNew
  notificationType := notification.notificationType
  createdOn := timestamp notification.createdOn
  macAddress := notification.macAddress

section Read

variable {dart : DartLowerCase}

@[simp] theorem parse_serialize {instant : Instant} (hyear : instant.FourDigitYear) :
    DateTime.parse (serialize instant) = some (timestamp instant) :=
  DateTime.parse_toRfc3339Opts hyear .autoSi

theorem Device.fromJson_toJson {device : Oott.Device} (hyear : device.lastSeen.FourDigitYear) :
    Device.fromJson dart device.toJson = some (.of dart device) := by
  cases hname : device.name <;>
    simp [Device.fromJson, Oott.Device.toJson, Device.of, Json.member, Json.text, Json.asBool,
      Json.textOrNull, Json.ofTextOrNull, hyear, hname]

@[simp] theorem eventTypeFromString_variant (eventType : DeviceEventType) :
    eventTypeFromString eventType.variant = eventType := by
  cases eventType <;> decide

theorem DeviceEvent.fromJson_toJson {event : Oott.DeviceEvent}
    (hyear : event.createdOn.FourDigitYear) :
    DeviceEvent.fromJson event.toJson = some (.of event) := by
  simp [DeviceEvent.fromJson, Oott.DeviceEvent.toJson, DeviceEvent.of, Json.member, Json.text,
    hyear]

/-- The names of the variants are of ASCII, and lowered as such. -/
@[simp] theorem ofLowerCase_variant (notificationType : NotificationType) :
    notificationTypeOfLowerCase (dart.toLowerCase notificationType.variant) =
      notificationType := by
  have hascii : notificationType.variant.toList.all (·.toNat < 128) = true := by
    cases notificationType <;> decide
  rw [dart.ascii _ (by simpa using hascii)]
  cases notificationType <;> decide

theorem Notification.fromJson_toJson {notification : Oott.Notification}
    (hyear : notification.createdOn.FourDigitYear) :
    Notification.fromJson dart notification.toJson = some (.of notification) := by
  cases hmac : notification.macAddress <;>
    simp [Notification.fromJson, Oott.Notification.toJson, Notification.of, Json.member, Json.text,
      Json.asBool, Json.textOrNull, Json.ofTextOrNull, hyear, hmac]

/-- The items of a list, if each can be read. -/
theorem mapM_eq_some {α β : Type} {read : α → Option β} {f : α → β} {items : List α}
    (hread : ∀ item ∈ items, read item = some (f item)) : items.mapM read = some (items.map f) := by
  induction items with
  | nil => rfl
  | cons item rest ih =>
    obtain ⟨hitem, hrest⟩ := List.forall_mem_cons.mp hread
    rw [List.mapM_cons, hitem, ih hrest]
    rfl

theorem paginate_listToJson {α β : Type} {toJson : α → Json} {fromItem : Json → Option β}
    {f : α → β} {items : List α} (hread : ∀ item ∈ items, fromItem (toJson item) = some (f item))
    (totalCount : ℕ) :
    paginate fromItem (listToJson toJson items totalCount) =
      some (items.map f, (totalCount : Int)) := by
  have hitems : (items.map toJson).mapM fromItem = some (items.map f) := by
    rw [List.mapM_map]
    exact mapM_eq_some hread
  simp [paginate, listToJson, Json.member, Json.items, hitems]

end Read

/-! ### From the row to the app -/

section Receive

variable (column : DateTimeColumn) (dart : DartLowerCase)

/-- A page of devices in the app, from the columns of its rows. -/
def receiveDevices (rows : List (Stored Oott.Device)) (totalCount : ℕ) :
    Option (List Device × Int) := do
  let items ← rows.mapM fun row ↦ Oott.Device.ofColumns column (row.record.columns row.timestamp)
  paginate (Device.fromJson dart) (listToJson Oott.Device.toJson items totalCount)

/-- The events of a device in the app, from the columns of their rows. -/
def receiveEvents (rows : List (Stored Oott.DeviceEvent)) : Option (List DeviceEvent) := do
  let items ← rows.mapM fun row ↦ Oott.DeviceEvent.ofColumns column
    (.integer row.record.id :: row.record.columns row.timestamp)
  readEvents (.array (items.map Oott.DeviceEvent.toJson))

/-- A page of notifications in the app, from the columns of its rows. -/
def receiveNotifications (rows : List (Stored Oott.Notification)) (totalCount : ℕ) :
    Option (List Notification × Int) := do
  let items ← rows.mapM fun row ↦ Oott.Notification.ofColumns column
    (.integer row.record.id :: row.record.columns row.timestamp)
  paginate (Notification.fromJson dart) (listToJson Oott.Notification.toJson items totalCount)

end Receive

end App

open App in
/-- Every record that has been stored is shown. For any rows that this version or an older one has
written, the app gets every device, event and notification with all the fields of its row: the MAC
in lowercase, the timestamp without its nanoseconds, the types of events and notifications as they
are, and of the type of a device what the app knows. -/
theorem records_arrive (column : DateTimeColumn) (dart : DartLowerCase)
    {devices : List (Stored Device)}
    (hdevices : ∀ row ∈ devices, WrittenAt row.record.lastSeen row.timestamp)
    {events : List (Stored DeviceEvent)}
    (hevents : ∀ row ∈ events, WrittenAt row.record.createdOn row.timestamp)
    {notifications : List (Stored Notification)}
    (hnotifications : ∀ row ∈ notifications, WrittenAt row.record.createdOn row.timestamp)
    (totalCount : ℕ) :
    receiveDevices column dart devices totalCount =
      some (devices.map fun row ↦
        { App.Device.of dart row.record with macAddress := normalizeMac row.record.macAddress },
        (totalCount : Int)) ∧
    receiveEvents column events =
      some (events.map fun row ↦
        { App.DeviceEvent.of row.record with macAddress := normalizeMac row.record.macAddress }) ∧
    receiveNotifications column dart notifications totalCount =
      some (notifications.map fun row ↦
        { App.Notification.of row.record with
          macAddress := row.record.macAddress.map normalizeMac }, (totalCount : Int)) := by
  refine ⟨?_, ?_, ?_⟩
  · unfold receiveDevices
    rw [mapM_eq_some fun row hrow ↦ Device.read_columns (hdevices row hrow), Option.bind_eq_bind,
      Option.bind_some, paginate_listToJson (f := App.Device.of dart), List.map_map]
    · rfl
    · rintro item hitem
      obtain ⟨row, hrow, rfl⟩ := List.mem_map.mp hitem
      exact App.Device.fromJson_toJson (hdevices row hrow).1
  · unfold receiveEvents readEvents
    rw [mapM_eq_some fun row hrow ↦ DeviceEvent.read_columns (hevents row hrow) row.record.id,
      Option.bind_eq_bind, Option.bind_some]
    show (List.map DeviceEvent.toJson _).mapM App.DeviceEvent.fromJson = _
    rw [List.mapM_map, List.mapM_map]
    exact mapM_eq_some fun row hrow ↦ App.DeviceEvent.fromJson_toJson (hevents row hrow).1
  · unfold receiveNotifications
    rw [mapM_eq_some fun row hrow ↦
        Notification.read_columns (hnotifications row hrow) row.record.id,
      Option.bind_eq_bind, Option.bind_some, paginate_listToJson (f := App.Notification.of),
      List.map_map]
    · rfl
    · rintro item hitem
      obtain ⟨row, hrow, rfl⟩ := List.mem_map.mp hitem
      exact App.Notification.fromJson_toJson (hnotifications row hrow).1

open App in
/-- A device, an event and a notification of one instant, the event by an older version. -/
theorem records_arrive_sameInstant :
    ∃ (instant : Instant) (device : Device) (event : DeviceEvent) (notification : Notification),
      instant.nanos = 1123456789 ∧
      receiveDevices .rfc3339 asciiLowerCase [⟨device, toRfc3339Opts instant .nanos⟩] 1 =
        some ([{ App.Device.of asciiLowerCase device with
          macAddress := normalizeMac device.macAddress }], 1) ∧
      receiveEvents .rfc3339 [⟨event, toRfc3339 instant⟩] =
        some [{ App.DeviceEvent.of event with macAddress := normalizeMac event.macAddress }] ∧
      receiveNotifications .rfc3339 asciiLowerCase
          [⟨notification, toRfc3339Opts instant .nanos⟩] 1 =
        some ([{ App.Notification.of notification with
          macAddress := notification.macAddress.map normalizeMac }], 1) := by
  let instant : Instant := ⟨1123456789, by decide⟩
  have hyear : instant.FourDigitYear := by decide
  let device : Device := .new "AA:BB:CC:DD:EE:01" "192.168.1.2" "" instant
  let event : DeviceEvent :=
    ⟨1, "aa:bb:cc:dd:ee:01", instant, .newDevice, "192.168.1.2", "", .ssdp⟩
  let notification : Notification := ⟨1, instant, .newDeviceFound, "New device", "", true, none⟩
  exact ⟨instant, device, event, notification, rfl,
    @records_arrive .rfc3339 asciiLowerCase [⟨device, toRfc3339Opts instant .nanos⟩]
      (List.forall_mem_singleton.mpr ⟨hyear, .nanos, rfl⟩) [⟨event, toRfc3339 instant⟩]
      (List.forall_mem_singleton.mpr ⟨hyear, .autoSi, rfl⟩)
      [⟨notification, toRfc3339Opts instant .nanos⟩]
      (List.forall_mem_singleton.mpr ⟨hyear, .nanos, rfl⟩) 1⟩

end Oott
