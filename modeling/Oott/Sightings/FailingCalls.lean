import Oott.Effects.Trace
import Oott.Scanners.Pipeline

/-!
# A sighting whose calls fail

`read` answers `None` both for a device without a row and for a query that failed, so the insertion
also runs for known devices; the primary key then refuses it. Whatever fails, a sighting breaks no
key, makes no known device a new one, and does nothing at all when its read of a known device or its
`UPDATE` fails (`failing_calls_harmless`).
-/

set_option autoImplicit false
set_option relaxedAutoImplicit false

namespace Oott

open Effects

/-- The call is a read of a device, and it failed. -/
def FailsToRead : Answer backend → Prop
  | ⟨.sql (.selectDevice _), .error _⟩ => True
  | _ => False

/-- The call is an `UPDATE` of a device, and it failed. -/
def FailsToUpdate : Answer backend → Prop
  | ⟨.sql (.updateDevices _ _), .error _⟩ => True
  | _ => False

section Sighting

variable {settings : Settings} {device : Device} {scanner : DeviceEventScanner}
  {world after : World} {trace : List (Answer backend)} {outcome : Option (List DeviceChange)}

/-- A call that only records events is no `UPDATE`. -/
theorem not_failsToUpdate {macAddress : String} {answer : Answer backend}
    (hrecords : answer.op.RecordsEventsOf macAddress) : ¬ FailsToUpdate answer := by
  intro hfails
  obtain ⟨op, response⟩ := answer
  cases op with
  | now => exact hfails
  | sql statement =>
    cases statement with
    | updateDevices clause mac => exact hrecords
    | _ => exact hfails

/-- A sighting of a device that it does not find: the insertion fails and nothing happens, or the
device is inserted, which had no row. -/
theorem recordNewSighting_traced
    (htraced : Program.Traced Faulty (recordNewSighting settings device scanner) world trace
      outcome after) :
    (∀ answer ∈ trace, ¬ FailsToUpdate answer) ∧
      (after.db = world.db ∧ outcome = some [] ∨
        world.db.devices.select (normalizeMac device.macAddress) = none) := by
  rw [recordNewSighting_eq] at htraced
  obtain ⟨response, middle, rest, rfl, hcall, hrest⟩ := Program.traced_call_iff.mp htraced
  have hrecords := hrest.allowed (answerInsert_always settings device scanner response)
  refine ⟨List.forall_mem_cons.mpr ⟨id, fun answer hmem ↦ not_failsToUpdate (hrecords answer hmem)⟩,
    ?_⟩
  cases hcall with
  | fail statement error =>
    obtain ⟨-, houtcome, rfl⟩ := Program.traced_ret_iff.mp hrest
    exact Or.inl ⟨rfl, houtcome⟩
  | answer =>
    cases htable : world.db.devices.insert
        { device with macAddress := normalizeMac device.macAddress } with
    | none =>
      simp only [clocked, Statement.execute, htable] at hrest
      obtain ⟨-, houtcome, rfl⟩ := Program.traced_ret_iff.mp hrest
      exact Or.inl ⟨rfl, houtcome⟩
    | some table => exact Or.inr (DevicesTable.rows_of_insert htable).2

/-- A sighting of a device that it finds: the `UPDATE` fails and nothing happens, or no call of it
is a failing `UPDATE`; a new device is never among what it returns. -/
theorem recordKnownSighting_traced {recorded : Device}
    (htraced : Program.Traced Faulty (recordKnownSighting settings recorded device scanner) world
      trace outcome after) :
    ((∃ answer ∈ trace, FailsToUpdate answer) → after.db = world.db ∧ outcome = some []) ∧
      ∀ changes, outcome = some changes → ∀ found, .new found ∉ changes := by
  rw [recordKnownSighting_eq] at htraced
  obtain ⟨instant, read, rest, rfl, hclock, hrest⟩ := Program.traced_call_iff.mp htraced
  obtain ⟨response, written, rest, rfl, hcall, hlast⟩ := Program.traced_call_iff.mp hrest
  have hrecords := hlast.allowed (answerSeen_always settings recorded device scanner response)
  cases hclock
  cases hcall with
  | fail statement error =>
    obtain ⟨-, rfl, rfl⟩ := Program.traced_ret_iff.mp hlast
    refine ⟨fun _ ↦ ⟨rfl, rfl⟩, fun changes hchanges found ↦ ?_⟩
    cases hchanges
    exact List.not_mem_nil
  | answer =>
    constructor
    · intro ⟨answer, hmem, hfails⟩
      rcases List.mem_cons.mp hmem with rfl | hmem
      · cases hfails
      · rcases List.mem_cons.mp hmem with rfl | hmem
        · cases hfails
        · exact absurd hfails (not_failsToUpdate (hrecords answer hmem))
    · intro changes houtcome found hmem
      rw [houtcome] at hlast
      obtain ⟨instant, hsublist⟩ :=
        recordKnownDevice_sublist (Program.exec_iff_traced.mpr ⟨_, hlast⟩)
      exact new_not_mem_changesAt (hsublist.subset hmem)

end Sighting

/-- Failing database calls never corrupt the device record or invent a device. For every pattern of
failing calls, no two rows have one MAC; a new device is returned only for a MAC that had no row; a
failing read of a device that has a row changes nothing and returns nothing; and so does a failing
`UPDATE`, after which the same sighting, at whatever later instants, reports what it would have
reported then. -/
theorem failing_calls_harmless (settings : Settings) (device : Device)
    (scanner : DeviceEventScanner) {world after : World} {trace : List (Answer backend)}
    {outcome : Option (List DeviceChange)}
    (htraced : Program.Traced Faulty (recordSighting settings device scanner) world trace outcome
      after) :
    (after.db.devices.rows.map fun row ↦ normalizeMac row.macAddress).Nodup ∧
    (∀ changes, outcome = some changes → ∀ found, .new found ∈ changes →
      world.db.devices.select (normalizeMac device.macAddress) = none) ∧
    ((∃ answer ∈ trace.head?, FailsToRead answer) →
      world.db.devices.select (normalizeMac device.macAddress) ≠ none →
        after.db = world.db ∧ outcome = some []) ∧
    ((∃ answer ∈ trace, FailsToUpdate answer) →
      after.db = world.db ∧ outcome = some [] ∧
        ∀ clock, (recordSighting settings device scanner).run clocked ⟨after.db, clock⟩ =
          (recordSighting settings device scanner).run clocked ⟨world.db, clock⟩) := by
  refine ⟨List.pairwise_map.mpr after.db.devices.primaryKey, ?_⟩
  rw [recordSighting_eq] at htraced
  obtain ⟨response, middle, rest, rfl, hcall, hrest⟩ := Program.traced_call_iff.mp htraced
  have hsame : middle = world := by cases hcall <;> rfl
  subst hsame
  have hread : ¬ FailsToUpdate ⟨.sql (.selectDevice (normalizeMac device.macAddress)), response⟩ :=
    id
  by_cases hnew : answerSightingRead settings device scanner response =
      recordNewSighting settings device scanner
  · -- The sighting goes on as one of a new device.
    rw [hnew] at hrest
    obtain ⟨hupdates, hcases⟩ := recordNewSighting_traced hrest
    refine ⟨fun changes houtcome found hmem ↦ hcases.resolve_left fun ⟨_, hnone⟩ ↦ ?_,
      fun _ hrow ↦ hcases.resolve_right hrow, fun ⟨answer, hmem, hfails⟩ ↦ ?_⟩
    · rw [houtcome] at hnone
      cases hnone
      cases hmem
    · rcases List.mem_cons.mp hmem with rfl | hmem
      · exact absurd hfails hread
      · exact absurd hfails (hupdates answer hmem)
  · -- The sighting goes on as one of the device in the row that it has read.
    obtain ⟨recorded, rfl⟩ : ∃ recorded, response = .ok (some recorded) := by
      rcases response with error | found | recorded
      · exact absurd rfl hnew
      · exact absurd rfl hnew
      · exact ⟨recorded, rfl⟩
    obtain ⟨hupdate, hchanges⟩ := recordKnownSighting_traced hrest
    refine ⟨fun changes houtcome found hmem ↦ absurd hmem (hchanges changes houtcome found),
      fun ⟨answer, hhead, hfails⟩ ↦ ?_, fun ⟨answer, hmem, hfails⟩ ↦ ?_⟩
    · cases hhead
      cases hfails
    · rcases List.mem_cons.mp hmem with rfl | hmem
      · exact absurd hfails hread
      · obtain ⟨hdb, houtcome⟩ := hupdate ⟨answer, hmem, hfails⟩
        exact ⟨hdb, houtcome, fun clock ↦ by rw [hdb]⟩

/-- The row of a device that has been seen before. -/
def storedDevice : Device := .new "aa:00:00:00:00:01" "10.0.0.1" "Acme" .epoch

/-- The stored device, seen at another address. -/
def movedDevice : Device := { storedDevice with ipv4Address := "10.0.0.2" }

/-- The `UPDATE` of that sighting fails. -/
theorem failing_calls_harmless_failedUpdate :
    ∃ trace after, Program.Traced Faulty (recordSighting .default movedDevice .arp)
        (.still ⟨.single storedDevice, []⟩ .epoch) trace (some []) after ∧
      after.db = ⟨.single storedDevice, []⟩ := by
  have htraced : Program.Traced Faulty (recordSighting .default movedDevice .arp)
      (.still ⟨.single storedDevice, []⟩ .epoch) _ (some []) _ :=
    .call (.answer _ _) (.call (.answer .now _) (.call (.fail _ _ .pool) (.ret _ _)))
  obtain ⟨-, -, -, hupdate⟩ := failing_calls_harmless .default movedDevice .arp htraced
  obtain ⟨hdb, -⟩ := hupdate
    ⟨_, List.mem_cons_of_mem _ (List.mem_cons_of_mem _ List.mem_cons_self), trivial⟩
  exact ⟨_, _, htraced, hdb⟩

end Oott
