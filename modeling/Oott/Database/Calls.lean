import Oott.Database.Statements

/-!
# The database layer

The functions of `db/devices.rs` and `db/device_events.rs`, each under its own name. Every function
normalizes the MAC it is given before it reaches a statement. `read` answers `none` both for a
device that has no row and for a query that failed. Log lines are left out.
-/

set_option autoImplicit false
set_option relaxedAutoImplicit false

namespace Oott

open Effects

namespace Db.Devices

/-- `db::devices::read`. -/
def read (macAddress : String) : Program backend (Option Device) := do
  match ← sql (.selectDevice (normalizeMac macAddress)) with
  | .ok device => return device
  | .error _ => return none

/-- `db::devices::insert`. -/
def insert (device : Device) : Program backend (Except DbError Unit) := do
  match ← sql (.insertDevice { device with macAddress := normalizeMac device.macAddress }) with
  | .ok _ => return .ok ()
  | .error error => return .error error

/-- The `SET` clause of `seen`. The vendor and the type derived from it are written only when the
vendor is not empty, the type only over an empty one, and the name only when there is one. -/
def seenClause (ipv4Address vendor deviceType : String) (name : Option String)
    (lastSeen : Instant) : SetClause where
  ipv4Address := some ipv4Address
  lastSeen := some lastSeen
  vendor := if vendor = "" then none else some vendor
  deviceType :=
    if vendor = "" then none else some fun stored ↦ if stored = "" then deviceType else stored
  name := name.map some

/-- `db::devices::seen`. -/
def seen (macAddress ipv4Address vendor deviceType : String) (name : Option String) :
    Program backend (Except DbError Unit) := do
  let lastSeen ← now
  match ← sql (.updateDevices (seenClause ipv4Address vendor deviceType name lastSeen)
      (normalizeMac macAddress)) with
  | .ok _ => return .ok ()
  | .error error => return .error error

/-- An `UPDATE` whose number of rows is not looked at. -/
def writeClause (clause : SetClause) (macAddress : String) :
    Program backend (Except DbError Unit) := do
  match ← sql (.updateDevices clause (normalizeMac macAddress)) with
  | .ok _ => return .ok ()
  | .error error => return .error error

/-- The `SET` clause of `update`. -/
def updateClause (owner deviceType vendor : String) (name : Option String) : SetClause where
  owner := some owner
  deviceType := some fun _ ↦ deviceType
  vendor := some vendor
  name := some name

/-- `db::devices::update`. -/
def update (macAddress owner deviceType vendor : String) (name : Option String) :
    Program backend (Except DbError Unit) :=
  writeClause (updateClause owner deviceType vendor name) macAddress

/-- The `SET` clause of `register`, which leaves the name out when none is supplied. -/
def registerClause (owner deviceType : String) (name : Option String) : SetClause where
  isRegistered := some true
  owner := some owner
  deviceType := some fun _ ↦ deviceType
  name := name.map some

/-- `db::devices::register`. -/
def register (macAddress owner deviceType : String) (name : Option String) :
    Program backend (Except DbError Unit) :=
  writeClause (registerClause owner deviceType name) macAddress

/-- The `SET` clause of `unregister`. -/
def unregisterClause : SetClause where
  isRegistered := some false
  owner := some ""

/-- `db::devices::unregister`. -/
def unregister (macAddress : String) : Program backend (Except DbError Unit) :=
  writeClause unregisterClause macAddress

/-- `db::devices::delete`. -/
def delete (macAddress : String) : Program backend (Except DbError Nat) :=
  sql (.deleteDevice (normalizeMac macAddress))

end Db.Devices

namespace Db.DeviceEvents

/-- `db::device_events::insert`. -/
def insert (event : DeviceEvent) : Program backend (Except DbError Int) :=
  sql (.insertDeviceEvent { event with macAddress := normalizeMac event.macAddress })

/-- `db::device_events::recent_duplicate_exists`. -/
def recentDuplicateExists (macAddress : String) (scanner : DeviceEventScanner)
    (eventType : DeviceEventType) (since : Instant) : Program backend (Except DbError Bool) := do
  match ← sql (.countDeviceEvents (normalizeMac macAddress) scanner eventType since) with
  | .ok count => return .ok (decide (0 < count))
  | .error error => return .error error

/-- `db::device_events::purge_older_than`. -/
def purgeOlderThan (cutoff : Instant) : Program backend (Except DbError Nat) :=
  sql (.deleteDeviceEventsBefore cutoff)

end Db.DeviceEvents

end Oott
