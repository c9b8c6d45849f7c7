import Oott.Database.Tables
import Oott.Utils.Network
import Oott.Effects.Sequential

/-!
# Statements, the clock and their answers

The calls of the backend that leave Rust: the SQL statements of `db/devices.rs` and
`db/device_events.rs`, and a reading of the clock. `Statement.execute` is what SQLite does with a
statement, atomically; the two deletions of `db::devices::delete` run in one transaction and are one
statement here. The columns `last_seen` and `created_on` hold the text of an instant, with nine
decimals, and are compared here as instants: the texts of the years 0 to 9999 have that order, and
the start of a window that lies before them sorts first.

A `World` is the database with the readings the clock is going to give. `clocked` answers every call
from it and is the meaning of a run in which no database call fails. Under `Faulty` any database
call may also fail, leaving the tables as they are.
-/

set_option autoImplicit false
set_option relaxedAutoImplicit false

namespace Oott

open Effects

/-- `db::error::DbError`, as far as the statements below raise it. -/
inductive DbError
  | parseRusqlite
  | pool
deriving DecidableEq

/-- The statements of `db/devices.rs` and `db/device_events.rs`. -/
inductive Statement
  | selectDevice (macAddress : String)
  | insertDevice (row : Device)
  | updateDevices (clause : SetClause) (macAddress : String)
  | deleteDevice (macAddress : String)
  | countDeviceEvents (macAddress : String) (scanner : DeviceEventScanner)
      (eventType : DeviceEventType) (since : Instant)
  | insertDeviceEvent (event : DeviceEvent)
  | deleteDeviceEventsBefore (cutoff : Instant)

/-- What a statement gives back: a row if there is one, a row id, or a number of rows. -/
abbrev Statement.Result : Statement → Type
  | selectDevice _ => Option Device
  | insertDevice _ => Nat
  | updateDevices _ _ => Nat
  | deleteDevice _ => Nat
  | countDeviceEvents _ _ _ _ => Nat
  | insertDeviceEvent _ => Int
  | deleteDeviceEventsBefore _ => Nat

/-- The `WHERE` clause of the deduplication check. -/
def DeviceEvent.Matches (row : DeviceEvent) (macAddress : String) (scanner : DeviceEventScanner)
    (eventType : DeviceEventType) (since : Instant) : Prop :=
  NocaseEq row.macAddress macAddress ∧ row.scanner = scanner ∧ row.eventType = eventType ∧
    since ≤ row.createdOn

instance (row : DeviceEvent) (macAddress : String) (scanner : DeviceEventScanner)
    (eventType : DeviceEventType) (since : Instant) :
    Decidable (row.Matches macAddress scanner eventType since) :=
  inferInstanceAs (Decidable (_ ∧ _ ∧ _ ∧ _))

namespace Database

/-- The id SQLite gives the next row of `device_events`: one more than the largest. -/
def nextEventId (db : Database) : Int := db.deviceEvents.foldl (fun id row ↦ max id row.id) 0 + 1

/-- The table `device_events` with one more row, under the next id. -/
def insertEvent (db : Database) (event : DeviceEvent) : Database :=
  { db with deviceEvents := db.deviceEvents ++ [{ event with id := db.nextEventId }] }

/-- The number of rows the deduplication check counts. -/
def countEvents (db : Database) (macAddress : String) (scanner : DeviceEventScanner)
    (eventType : DeviceEventType) (since : Instant) : Nat :=
  db.deviceEvents.countP fun row ↦ row.Matches macAddress scanner eventType since

/-- The database after an `UPDATE` on `devices`. -/
def updateDevices (db : Database) (clause : SetClause) (macAddress : String) : Database :=
  { db with devices := db.devices.update clause macAddress }

/-- The transaction of `db::devices::delete`: the events of the device, then its row. -/
def deleteDevice (db : Database) (macAddress : String) : Database where
  devices := db.devices.delete macAddress
  deviceEvents := db.deviceEvents.filter fun row ↦ ¬ NocaseEq row.macAddress macAddress

/-- `DELETE FROM device_events WHERE created_on < ?`. -/
def deleteEventsBefore (db : Database) (cutoff : Instant) : Database :=
  { db with deviceEvents := db.deviceEvents.filter fun row ↦ ¬ row.createdOn < cutoff }

end Database

/-- What SQLite answers to a statement, and the tables it leaves. -/
def Statement.execute :
    (statement : Statement) → Database → Except DbError statement.Result × Database
  | selectDevice macAddress, db => (.ok (db.devices.select macAddress), db)
  | insertDevice row, db =>
    match db.devices.insert row with
    | some devices => (.ok 1, { db with devices := devices })
    | none => (.error .parseRusqlite, db)
  | updateDevices clause macAddress, db =>
    (.ok (db.devices.rows.countP fun row ↦ NocaseEq row.macAddress macAddress),
      db.updateDevices clause macAddress)
  | deleteDevice macAddress, db =>
    (.ok (db.devices.rows.countP fun row ↦ NocaseEq row.macAddress macAddress),
      db.deleteDevice macAddress)
  | countDeviceEvents macAddress scanner eventType since, db =>
    (.ok (db.countEvents macAddress scanner eventType since), db)
  | insertDeviceEvent event, db => (.ok db.nextEventId, db.insertEvent event)
  | deleteDeviceEventsBefore cutoff, db =>
    (.ok (db.deviceEvents.countP fun row ↦ row.createdOn < cutoff), db.deleteEventsBefore cutoff)

/-- A call that leaves Rust. -/
inductive Call
  | now
  | sql (statement : Statement)

/-- The interface of the backend: a reading of the clock is an instant, and a statement may fail. -/
abbrev backend : Interface where
  Op := Call
  Response
    | .now => Instant
    | .sql statement => Except DbError statement.Result

/-- `Utc::now()`. -/
def now : Program backend Instant := .perform (E := backend) .now

/-- Run a statement on a connection from the pool. -/
def sql (statement : Statement) : Program backend (Except DbError statement.Result) :=
  .perform (E := backend) (.sql statement)

/-- The database and the readings the clock is going to give. -/
structure World where
  db : Database
  clock : ℕ → Instant

namespace World

/-- The world after one reading of the clock. -/
def tick (world : World) : World := { world with clock := fun n ↦ world.clock (n + 1) }

/-- The world with other tables. -/
def withDb (world : World) (db : Database) : World := { world with db := db }

/-- A world whose clock stands still. -/
def still (db : Database) (instant : Instant) : World := ⟨db, fun _ ↦ instant⟩

@[simp] theorem tick_db (world : World) : world.tick.db = world.db := rfl

@[simp] theorem tick_clock (world : World) (n : ℕ) : world.tick.clock n = world.clock (n + 1) := rfl

@[simp] theorem withDb_db (world : World) (db : Database) : (world.withDb db).db = db := rfl

@[simp] theorem withDb_clock (world : World) (db : Database) :
    (world.withDb db).clock = world.clock := rfl

@[simp] theorem tick_still (db : Database) (instant : Instant) :
    (still db instant).tick = still db instant := rfl

@[simp] theorem withDb_still (db later : Database) (instant : Instant) :
    (still db instant).withDb later = still later instant := rfl

end World

/-- The machine on which no database call fails. -/
def clocked : Machine backend World
  | .now, world => (world.clock 0, world.tick)
  | .sql statement, world =>
    ((statement.execute world.db).1, world.withDb (statement.execute world.db).2)

/-- A run only moves the clock forward. -/
theorem clock_of_run {α : Type} (program : Program backend α) (world : World) :
    ∃ readings, ∀ n, (program.run clocked world).2.clock n = world.clock (n + readings) := by
  induction program generalizing world with
  | ret value => exact ⟨0, fun _ ↦ rfl⟩
  | abort => exact ⟨0, fun _ ↦ rfl⟩
  | call op next ih =>
    obtain ⟨later, hlater⟩ := ih (clocked op world).1 (clocked op world).2
    cases op with
    | now =>
      refine ⟨later + 1, fun n ↦ ?_⟩
      rw [Program.run_call, hlater]
      rfl
    | sql statement => exact ⟨later, hlater⟩

/-- A run on a clock that stands still leaves it so. -/
theorem run_still {α : Type} (program : Program backend α) (db : Database) (instant : Instant) :
    (program.run clocked (.still db instant)).2 =
      .still (program.run clocked (.still db instant)).2.db instant := by
  obtain ⟨readings, hclock⟩ := clock_of_run program (.still db instant)
  exact congrArg (World.mk _) (funext hclock)

/-- An activity performed at one instant: every reading of the clock is that instant, and no call
fails. -/
def PerformAt {A : Type} {α : A → Type} (program : (activity : A) → Program backend (α activity))
    (timed : Timed Instant A) (before : Database) (outcome : Option (α timed.activity))
    (after : Database) : Prop :=
  (program timed.activity).run clocked (.still before timed.time) =
    (outcome, .still after timed.time)

/-- Every activity can be performed at every instant. -/
theorem performAt_run {A : Type} {α : A → Type}
    (program : (activity : A) → Program backend (α activity)) (timed : Timed Instant A)
    (before : Database) :
    PerformAt program timed before
      ((program timed.activity).run clocked (.still before timed.time)).1
      ((program timed.activity).run clocked (.still before timed.time)).2.db :=
  Prod.ext rfl (run_still _ _ _)

/-- The transitions in which any database call may fail, without effect. -/
inductive Faulty : Transition backend World
  | answer (op : Call) (world : World) : Faulty op world (clocked op world).1 (clocked op world).2
  | fail (statement : Statement) (world : World) (error : DbError) :
      Faulty (.sql statement) world (.error error) world

/-- The transitions in which every database call succeeds. -/
abbrev Reliable : Transition backend World := .ofMachine clocked

/-- A succeeding call is one of the answers a faulty database can give. -/
theorem Faulty.allows_clocked : Transition.Allows Faulty clocked := Faulty.answer

/-! ### Calls that work on one device's events -/

/-- A call of a sighting after it has written the device: a reading of the clock, the deduplication
check, or the insertion of an event under the given MAC. -/
def Call.RecordsEventsOf (macAddress : String) : Call → Prop
  | .now => True
  | .sql (.countDeviceEvents _ _ _ _) => True
  | .sql (.insertDeviceEvent event) => event.macAddress = macAddress
  | .sql _ => False

/-- Such a call leaves the `devices` table alone. -/
theorem Faulty.devices_eq {macAddress : String} {op : Call} {world after : World}
    {response : backend.Response op} (hrecords : op.RecordsEventsOf macAddress)
    (hcall : Faulty op world response after) : after.db.devices = world.db.devices := by
  cases hcall with
  | fail statement error => rfl
  | answer =>
    cases op with
    | now => rfl
    | sql statement =>
      cases statement with
      | countDeviceEvents => rfl
      | insertDeviceEvent => rfl
      | selectDevice => exact hrecords.elim
      | insertDevice => exact hrecords.elim
      | updateDevices => exact hrecords.elim
      | deleteDevice => exact hrecords.elim
      | deleteDeviceEventsBefore => exact hrecords.elim

end Oott
