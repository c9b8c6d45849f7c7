import Oott.Model.Time

/-!
# Devices, device events and changes

The records of `model/devices.rs` and `model/device_events.rs`. A `Device` is both a row of the
`devices` table and what a scanner builds from a sighting. The event type and the scanner are stored
as the text of the enumeration, and no two members have texts equal under `NOCASE`, so a comparison
of the column is a comparison of members.
-/

set_option autoImplicit false
set_option relaxedAutoImplicit false

namespace Oott

/-- `model::devices::Device`. -/
@[ext] structure Device where
  macAddress : String
  ipv4Address : String
  vendor : String
  lastSeen : Instant
  isRegistered : Bool
  owner : String
  deviceType : String
  name : Option String
deriving DecidableEq

/-- `Device::new`: an unregistered device without owner, type or name. -/
def Device.new (macAddress ipv4Address vendor : String) (lastSeen : Instant) : Device where
  macAddress := macAddress
  ipv4Address := ipv4Address
  vendor := vendor
  lastSeen := lastSeen
  isRegistered := false
  owner := ""
  deviceType := ""
  name := none

/-- `model::device_events::DeviceEventType`. -/
inductive DeviceEventType
  | newDevice
  | deviceSeen
  | deviceChanged
  | deviceBackOnline
deriving DecidableEq

/-- `model::device_events::DeviceEventScanner`. -/
inductive DeviceEventScanner
  | arp
  | mdns
  | ssdp
  | dhcp
  | snmp
deriving DecidableEq

/-- `model::device_events::DeviceEvent`. -/
structure DeviceEvent where
  id : Int
  macAddress : String
  createdOn : Instant
  eventType : DeviceEventType
  ipv4Address : String
  vendor : String
  scanner : DeviceEventScanner
deriving DecidableEq

/-- `DeviceEvent::new`: an event without a row yet, under the id -1. -/
def DeviceEvent.new (macAddress : String) (createdOn : Instant) (eventType : DeviceEventType)
    (ipv4Address vendor : String) (scanner : DeviceEventScanner) : DeviceEvent where
  id := -1
  macAddress := macAddress
  createdOn := createdOn
  eventType := eventType
  ipv4Address := ipv4Address
  vendor := vendor
  scanner := scanner

/-- `model::device_events::DeviceChange`. -/
inductive DeviceChange
  | new (device : Device)
  | backOnline (device : Device) (absentFor : StdDuration)
  | changed (existing new : Device) (ipChanged vendorChanged : Bool)
deriving DecidableEq

/-- The settings that the sighting pipeline and the retention sweep read. -/
structure Settings where
  deduplicationWindow : StdDuration
  notifyWhenNotSeenFor : StdDuration
  retentionWindow : StdDuration

/-- The defaults: a minute, a week and 365 days. -/
def Settings.default : Settings where
  deduplicationWindow := .fromSecs 60
  notifyWhenNotSeenFor := .fromSecs 604800
  retentionWindow := .fromSecs 31536000

end Oott
