import Oott.Events.Recording

/-!
# The sighting pipeline

`scanners/common/pipeline.rs`: every scanner hands a device it has seen to `record_sighting`, which
reads the stored record, reconciles the two, writes the record back and records the events. The arm
for a known device and the arm for a new one are named here, so that a sighting that has made its
read is one of the two.
-/

set_option autoImplicit false
set_option relaxedAutoImplicit false

namespace Oott

open Effects

/-- The carry-over of `record_sighting`: the sighted device with the fields the stored record keeps.
The MAC and `last_seen` stay those of the sighting. -/
def reconcile (recorded device : Device) : Device :=
  { device with
    name := if recorded.name.isSome then recorded.name else device.name
    ipv4Address := if device.ipv4Address.isEmpty then recorded.ipv4Address else device.ipv4Address
    isRegistered := recorded.isRegistered
    owner := recorded.owner
    vendor := if device.vendor.isEmpty then recorded.vendor else device.vendor
    deviceType :=
      if recorded.deviceType.isEmpty then device.deviceType else recorded.deviceType }

/-- The `Some(recorded)` arm of `record_sighting`. -/
def recordKnownSighting (settings : Settings) (recorded device : Device)
    (scanner : DeviceEventScanner) : Program backend (List DeviceChange) := do
  let device := reconcile recorded device
  match ← Db.Devices.seen device.macAddress device.ipv4Address device.vendor device.deviceType
      device.name with
  | .error _ => return []
  | .ok _ => recordKnownDevice settings recorded device scanner

/-- The `None` arm of `record_sighting`. -/
def recordNewSighting (settings : Settings) (device : Device) (scanner : DeviceEventScanner) :
    Program backend (List DeviceChange) := do
  match ← Db.Devices.insert device with
  | .error _ => return []
  | .ok _ => return (← recordNewDevice settings device scanner).toList

/-- `record_sighting`. -/
def recordSighting (settings : Settings) (device : Device) (scanner : DeviceEventScanner) :
    Program backend (List DeviceChange) := do
  match ← Db.Devices.read device.macAddress with
  | some recorded => recordKnownSighting settings recorded device scanner
  | none => recordNewSighting settings device scanner

/-! ### A sighting call by call -/

section Steps

variable (settings : Settings) (recorded device : Device) (scanner : DeviceEventScanner)

/-- The `SET` clause a sighting of a known device writes, at the instant `seen` reads. -/
def sightingClause (instant : Instant) : SetClause :=
  Db.Devices.seenClause (reconcile recorded device).ipv4Address (reconcile recorded device).vendor
    (reconcile recorded device).deviceType (reconcile recorded device).name instant

/-- What a sighting does with the answer to its read. -/
def answerSightingRead : Except DbError (Option Device) → Program backend (List DeviceChange)
  | .ok (some recorded) => recordKnownSighting settings recorded device scanner
  | .ok none | .error _ => recordNewSighting settings device scanner

/-- What a sighting of a known device does with the answer to its `UPDATE`. -/
def answerSeen : Except DbError Nat → Program backend (List DeviceChange)
  | .ok _ => recordKnownDevice settings recorded (reconcile recorded device) scanner
  | .error _ => .ret []

/-- What a sighting of a new device does with the answer to its `INSERT`. -/
def answerInsert : Except DbError Nat → Program backend (List DeviceChange)
  | .ok _ => recordNewDevice settings device scanner >>= fun change ↦ .ret change.toList
  | .error _ => .ret []

/-- A sighting of a known device that has read the clock and is about to write. -/
def writingSeen (instant : Instant) : Program backend (List DeviceChange) :=
  .call (E := backend) (.sql (.updateDevices (sightingClause recorded device instant)
    (normalizeMac device.macAddress))) (answerSeen settings recorded device scanner)

theorem recordSighting_eq :
    recordSighting settings device scanner =
      .call (E := backend) (.sql (.selectDevice (normalizeMac device.macAddress)))
        (answerSightingRead settings device scanner) := by
  refine congrArg (Program.call (E := backend) _) (funext fun response ↦ ?_)
  rcases response with error | found | stored <;> rfl

theorem recordKnownSighting_eq :
    recordKnownSighting settings recorded device scanner =
      .call (E := backend) .now (writingSeen settings recorded device scanner) := by
  refine congrArg (Program.call (E := backend) _) (funext fun instant ↦ ?_)
  refine congrArg (Program.call (E := backend) _) (funext fun response ↦ ?_)
  cases response <;> rfl

theorem recordNewSighting_eq :
    recordNewSighting settings device scanner =
      .call (E := backend)
        (.sql (.insertDevice { device with macAddress := normalizeMac device.macAddress }))
        (answerInsert settings device scanner) := by
  refine congrArg (Program.call (E := backend) _) (funext fun response ↦ ?_)
  cases response <;> rfl

/-- After its `UPDATE` a sighting makes no calls but those that record events. -/
theorem answerSeen_always (response : Except DbError Nat) :
    (answerSeen settings recorded device scanner response).Always
      (Call.RecordsEventsOf (normalizeMac device.macAddress)) := by
  cases response with
  | ok rows => exact recordKnownDevice_always settings scanner recorded (reconcile recorded device)
  | error error => exact Program.always_ret []

/-- After its `INSERT` a sighting makes no calls but those that record events. -/
theorem answerInsert_always (response : Except DbError Nat) :
    (answerInsert settings device scanner response).Always
      (Call.RecordsEventsOf (normalizeMac device.macAddress)) := by
  cases response with
  | ok rows =>
    exact (recordNewDevice_always settings scanner device).bind fun _ ↦ Program.always_ret _
  | error error => exact Program.always_ret []

end Steps

/-! ### The columns of a sighting -/

section Columns

variable (recorded device row : Device) (instant : Instant)

/-- A recorded name is kept, and the seen one fills in where there is none. -/
theorem reconcile_name :
    (reconcile recorded device).name = recorded.name.or device.name := by
  cases hname : recorded.name with
  | none => simp [reconcile, hname]
  | some name => simp [reconcile, hname]

variable {recorded device row}

theorem reconcile_vendor_of_eq (hdeduced : device.vendor = "") :
    (reconcile recorded device).vendor = recorded.vendor := by
  simp [reconcile, hdeduced]

theorem reconcile_vendor_of_ne (hdeduced : device.vendor ≠ "") :
    (reconcile recorded device).vendor = device.vendor := by
  simp [reconcile, hdeduced]

/-- The reconciled vendor is empty only when neither the sighting nor the record has one. -/
theorem reconcile_vendor_eq_empty_iff :
    (reconcile recorded device).vendor = "" ↔ device.vendor = "" ∧ recorded.vendor = "" := by
  by_cases hdeduced : device.vendor = ""
  · rw [reconcile_vendor_of_eq hdeduced, and_iff_right hdeduced]
  · rw [reconcile_vendor_of_ne hdeduced]
    exact ⟨fun h ↦ absurd h hdeduced, fun h ↦ h.1⟩

/-- The clause writes the reconciled name, where there is one. -/
theorem sightingClause_apply_name :
    ((sightingClause recorded device instant).apply row).name =
      (recorded.name.or device.name).or row.name := by
  rw [← reconcile_name]
  cases hname : (reconcile recorded device).name with
  | none => simp [SetClause.apply, sightingClause, Db.Devices.seenClause, hname]
  | some name => simp [SetClause.apply, sightingClause, Db.Devices.seenClause, hname]

/-- The clause writes the reconciled vendor, where there is one. -/
theorem sightingClause_apply_vendor :
    ((sightingClause recorded device instant).apply row).vendor =
      if (reconcile recorded device).vendor = "" then row.vendor
      else (reconcile recorded device).vendor := by
  split_ifs with hvendor
  · simp [SetClause.apply, sightingClause, Db.Devices.seenClause, hvendor]
  · simp [SetClause.apply, sightingClause, Db.Devices.seenClause, hvendor]

/-- The clause writes a type with a vendor only, and only over an empty type. -/
theorem sightingClause_apply_deviceType :
    ((sightingClause recorded device instant).apply row).deviceType =
      if (reconcile recorded device).vendor = "" ∨ row.deviceType ≠ "" then row.deviceType
      else (reconcile recorded device).deviceType := by
  by_cases hvendor : (reconcile recorded device).vendor = ""
  · simp [SetClause.apply, sightingClause, Db.Devices.seenClause, hvendor]
  · by_cases htype : row.deviceType = ""
    · simp [SetClause.apply, sightingClause, Db.Devices.seenClause, hvendor, htype]
    · simp [SetClause.apply, sightingClause, Db.Devices.seenClause, hvendor, htype]

end Columns

/-! ### What a sighting does to the `devices` table -/

section Table

variable {settings : Settings} {device : Device} {scanner : DeviceEventScanner}
  {world after : World} {outcome : Option (List DeviceChange)}

/-- Recording events leaves the `devices` table alone, whatever fails. -/
theorem devices_of_recordsEvents {macAddress : String} {α : Type} {program : Program backend α}
    {outcome : Option α} (hexec : Program.Exec Faulty program world outcome after)
    (hrecords : program.Always (Call.RecordsEventsOf macAddress)) :
    after.db.devices = world.db.devices := by
  refine hexec.preserves (fun reached ↦ reached.db.devices = world.db.devices) ?_ hrecords rfl
  intro op before response middle hop hcall hbefore
  rw [Faulty.devices_eq hop hcall, hbefore]

/-- Whatever fails, a sighting leaves the `devices` table as it is, or updates the row it read, or
inserts a row where there was none. -/
theorem devices_of_recordSighting
    (hexec : Program.Exec Faulty (recordSighting settings device scanner) world outcome after) :
    after.db.devices = world.db.devices ∨
      (∃ recorded instant,
        world.db.devices.select (normalizeMac device.macAddress) = some recorded ∧
        after.db.devices = world.db.devices.update (sightingClause recorded device instant)
          (normalizeMac device.macAddress)) ∨
      world.db.devices.insert { device with macAddress := normalizeMac device.macAddress } =
        some after.db.devices := by
  rw [recordSighting_eq] at hexec
  obtain ⟨found, afterRead, hread, hexec⟩ := Program.exec_call_iff.mp hexec
  -- Either the read found a row, or the sighting goes on as one of a new device.
  have hnew : ∀ {final : World}, Program.Exec Faulty
      (recordNewSighting settings device scanner) world outcome final →
      final.db.devices = world.db.devices ∨
        world.db.devices.insert { device with macAddress := normalizeMac device.macAddress } =
          some final.db.devices := by
    intro final hexec
    rw [recordNewSighting_eq] at hexec
    obtain ⟨inserted, afterInsert, hinsert, hexec⟩ := Program.exec_call_iff.mp hexec
    have hkept := devices_of_recordsEvents hexec (answerInsert_always settings device scanner _)
    rw [hkept]
    cases hinsert with
    | fail statement error => exact Or.inl rfl
    | answer =>
      cases htable : world.db.devices.insert
          { device with macAddress := normalizeMac device.macAddress } with
      | none => exact Or.inl (by simp [clocked, Statement.execute, htable, World.withDb])
      | some table => exact Or.inr (by simp [clocked, Statement.execute, htable, World.withDb])
  cases hread with
  | fail statement error => exact (hnew hexec).imp_right Or.inr
  | answer =>
    change Program.Exec Faulty (answerSightingRead settings device scanner
      (.ok (world.db.devices.select (normalizeMac device.macAddress)))) world outcome after at hexec
    cases hselect : world.db.devices.select (normalizeMac device.macAddress) with
    | none =>
      rw [hselect] at hexec
      exact (hnew hexec).imp_right Or.inr
    | some recorded =>
      rw [hselect] at hexec
      change Program.Exec Faulty (recordKnownSighting settings recorded device scanner) world
        outcome after at hexec
      rw [recordKnownSighting_eq] at hexec
      obtain ⟨instant, afterClock, hclock, hexec⟩ := Program.exec_call_iff.mp hexec
      cases hclock
      obtain ⟨written, afterSeen, hseen, hexec⟩ := Program.exec_call_iff.mp hexec
      have hkept := devices_of_recordsEvents hexec
        (answerSeen_always settings recorded device scanner _)
      rw [hkept]
      cases hseen with
      | fail statement error => exact Or.inl rfl
      | answer => exact Or.inr (Or.inl ⟨recorded, _, rfl, rfl⟩)

end Table

/-! ### A sighting whose calls all succeed -/

section Runs

variable {settings : Settings} {device recorded : Device} {scanner : DeviceEventScanner}
  {world : World}

/-- The tables between the `UPDATE` of a sighting and its events. -/
def World.afterSeen (world : World) (recorded device : Device) : World :=
  world.tick.withDb (world.db.updateDevices (sightingClause recorded device (world.clock 0))
    (normalizeMac device.macAddress))

theorem run_recordSighting_known
    (hknown : world.db.devices.select (normalizeMac device.macAddress) = some recorded) :
    (recordSighting settings device scanner).run clocked world =
      (recordKnownDevice settings recorded (reconcile recorded device) scanner).run clocked
        (world.afterSeen recorded device) := by
  rw [recordSighting_eq, Program.run_call]
  change (answerSightingRead settings device scanner
    (.ok (world.db.devices.select (normalizeMac device.macAddress)))).run clocked world = _
  rw [hknown]
  change (recordKnownSighting settings recorded device scanner).run clocked world = _
  rw [recordKnownSighting_eq]
  rfl

/-- A sighting of a new device inserts a row for it and records its event. -/
theorem run_recordSighting_new
    (hnew : world.db.devices.select (normalizeMac device.macAddress) = none) :
    ∃ table,
      world.db.devices.insert { device with macAddress := normalizeMac device.macAddress } =
        some table ∧
      (recordSighting settings device scanner).run clocked world =
        (recordNewDevice settings device scanner >>= fun change ↦ .ret change.toList).run clocked
          (world.withDb { world.db with devices := table }) := by
  have hfree : world.db.devices.select
      ({ device with macAddress := normalizeMac device.macAddress } : Device).macAddress = none :=
    hnew
  obtain ⟨table, htable⟩ := DevicesTable.insert_of_select_eq_none hfree
  refine ⟨table, htable, ?_⟩
  rw [recordSighting_eq, Program.run_call]
  change (answerSightingRead settings device scanner
    (.ok (world.db.devices.select (normalizeMac device.macAddress)))).run clocked world = _
  rw [hnew]
  change (recordNewSighting settings device scanner).run clocked world = _
  rw [recordNewSighting_eq, Program.run_call]
  simp only [clocked, Statement.execute, htable]
  rfl

/-- The row that a sighting of a known device leaves, when its calls all succeed. -/
theorem row_of_recordSighting_known
    (hknown : world.db.devices.select (normalizeMac device.macAddress) = some recorded) :
    ((recordSighting settings device scanner).run clocked world).2.db.devices.select
        (normalizeMac device.macAddress) =
      some ((sightingClause recorded device (world.clock 0)).apply recorded) := by
  rw [run_recordSighting_known hknown]
  have hkept := devices_of_recordsEvents
    (Program.exec_run Faulty.allows_clocked _ (world.afterSeen recorded device))
    (recordKnownDevice_always settings scanner recorded (reconcile recorded device))
  rw [hkept]
  exact DevicesTable.select_update_of_some _ (NocaseEq.refl _) hknown

end Runs

end Oott
