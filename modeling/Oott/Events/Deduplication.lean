import Oott.Events.Recording
import Mathlib.Algebra.Order.Group.Unbundled.Int

/-!
# Deduplication over whole histories

Two properties of `device_events` under every history of recorded sightings, deletions and purges.
Rows of one device, scanner and type are more than the deduplication window apart
(`Database.Spaced`), because each insertion is made only when no such row is that recent. And
whether a change is recorded depends on the rows of its own device and scanner that are not
`DeviceSeen` rows (`Database.concerning`): the row that every sighting records first suppresses
nothing.

Both need that the window is a `chrono::Duration`. `record_event` takes a window that is too long
for one as an empty one, and then deduplicates nothing (`events_deduplicated_iff`).
-/

set_option autoImplicit false
set_option relaxedAutoImplicit false

namespace Oott

open Effects

/-- What adds to `device_events` and what takes from it: the two recording functions, the deletion
of a device, and a purge of the rows before some instant. -/
inductive EventOperation
  | newDevice (device : Device) (scanner : DeviceEventScanner)
  | knownDevice (existing new : Device) (scanner : DeviceEventScanner)
  | deleteDevice (macAddress : String)
  | purge (cutoff : Instant)

namespace EventOperation

/-- What an operation returns. -/
abbrev Outcome : EventOperation → Type
  | newDevice _ _ => Option DeviceChange
  | knownDevice _ _ _ => List DeviceChange
  | deleteDevice _ => Except DbError Nat
  | purge _ => Except DbError Nat

/-- The program of an operation. -/
def program (settings : Settings) :
    (operation : EventOperation) → Program backend operation.Outcome
  | newDevice device scanner => recordNewDevice settings device scanner
  | knownDevice existing new scanner => recordKnownDevice settings existing new scanner
  | deleteDevice macAddress => Db.Devices.delete macAddress
  | purge cutoff => Db.DeviceEvents.purgeOlderThan cutoff

end EventOperation

/-- Two events that only their times can keep from being duplicates. -/
def DeviceEvent.SameKey (first second : DeviceEvent) : Prop :=
  NocaseEq first.macAddress second.macAddress ∧ first.scanner = second.scanner ∧
    first.eventType = second.eventType

instance (first second : DeviceEvent) : Decidable (first.SameKey second) :=
  inferInstanceAs (Decidable (_ ∧ _ ∧ _))

/-- Rows with the same key were created more than the window apart. -/
def Database.Spaced (window : StdDuration) (db : Database) : Prop :=
  db.deviceEvents.Pairwise fun first second ↦ first.SameKey second →
    (window.nanos : Int) < |first.createdOn.nanos - second.createdOn.nanos|

instance (window : StdDuration) (db : Database) : Decidable (db.Spaced window) :=
  inferInstanceAs (Decidable (db.deviceEvents.Pairwise _))

/-! ### Spacing -/

section Spacing

variable {settings : Settings} {scanner : DeviceEventScanner} {device : Device} {instant : Instant}

/-- A window that is a `chrono::Duration` is used as it is. -/
theorem Settings.effectiveWindow_eq
    (hwindow : (settings.deduplicationWindow.nanos : Int) ≤ TimeDelta.maxNanos) :
    settings.effectiveWindow.nanos = settings.deduplicationWindow.nanos := by
  unfold Settings.effectiveWindow
  cases hstd : TimeDelta.fromStd settings.deduplicationWindow with
  | none => exact absurd hwindow (not_le.mpr (TimeDelta.fromStd_eq_none.mp hstd))
  | some window => exact TimeDelta.fromStd_eq_some.mp hstd

/-- A window that is too long for one is used as an empty one. -/
theorem Settings.since_of_long
    (hlong : TimeDelta.maxNanos < (settings.deduplicationWindow.nanos : Int)) :
    settings.since instant = some instant := by
  unfold Settings.since Settings.effectiveWindow
  rw [TimeDelta.fromStd_eq_none.mpr hlong, Instant.sub_eq_some]
  exact (Int.sub_zero instant.nanos).symm

/-- The events up to an instant, spaced, on a clock that stands at the instant. -/
structure SpacedUpTo (window : StdDuration) (instant : Instant) (world : World) : Prop where
  clock : ∀ n, world.clock n = instant
  createdOn : ∀ row ∈ world.db.deviceEvents, row.createdOn ≤ instant
  spaced : world.db.Spaced window

theorem SpacedUpTo.tick {window : StdDuration} {world : World}
    (hspaced : SpacedUpTo window instant world) : SpacedUpTo window instant world.tick where
  clock := fun n ↦ hspaced.clock (n + 1)
  createdOn := hspaced.createdOn
  spaced := hspaced.spaced

/-- Rows that remain stay spaced. -/
theorem SpacedUpTo.of_sublist {window : StdDuration} {world : World} {db : Database}
    (hspaced : SpacedUpTo window instant world)
    (hrows : db.deviceEvents.Sublist world.db.deviceEvents) :
    SpacedUpTo window instant (world.withDb db) where
  clock := hspaced.clock
  createdOn := fun row hrow ↦ hspaced.createdOn row (hrows.subset hrow)
  spaced := hspaced.spaced.sublist hrows

/-- An event that is no duplicate of any row in the window is more than the window later than each
row with its key. -/
theorem Database.Spaced.insert {window : StdDuration} {db : Database} {event : DeviceEvent}
    {since : Instant} (hspaced : db.Spaced window)
    (hsince : since.nanos = event.createdOn.nanos - window.nanos)
    (hfresh : ¬ ∃ row ∈ db.deviceEvents,
      row.Matches event.macAddress event.scanner event.eventType since) :
    (db.insertEvent event).Spaced window := by
  refine List.pairwise_append.mpr
    ⟨hspaced, List.pairwise_singleton _ _, fun row hrow last hlast ↦ ?_⟩
  rw [List.mem_singleton.mp hlast]
  rintro ⟨hmac, hscanner, htype⟩
  have hbefore : row.createdOn < since := by
    by_contra hrecent
    exact hfresh ⟨row, hrow, hmac, hscanner, htype, not_lt.mp hrecent⟩
  rw [Instant.lt_iff, hsince] at hbefore
  rw [lt_abs]
  right
  change (window.nanos : Int) < -(row.createdOn.nanos - event.createdOn.nanos)
  omega

/-- Recordings keep the rows spaced. -/
theorem spacedUpTo_keptByRecording
    (hwindow : (settings.deduplicationWindow.nanos : Int) ≤ TimeDelta.maxNanos) :
    KeptByRecording settings device scanner
      (SpacedUpTo settings.deduplicationWindow instant) where
  tick := fun world hspaced ↦ hspaced.tick
  insert := by
    intro world eventType since hspaced hsince hfresh
    have hticks := hspaced.tick.tick
    have hstart := Instant.sub_eq_some.mp hsince
    rw [hspaced.clock 1, Settings.effectiveWindow_eq hwindow] at hstart
    rw [hspaced.clock 0]
    refine ⟨hticks.clock, ?_, hspaced.spaced.insert hstart hfresh⟩
    refine List.forall_mem_append.mpr ⟨hspaced.createdOn, List.forall_mem_singleton.mpr ?_⟩
    exact le_refl instant

/-- Every operation keeps the rows spaced. -/
theorem EventOperation.keeps_spaced
    (hwindow : (settings.deduplicationWindow.nanos : Int) ≤ TimeDelta.maxNanos)
    (operation : EventOperation) :
    (operation.program settings).Keeps clocked
      (SpacedUpTo settings.deduplicationWindow instant) := by
  cases operation with
  | newDevice device scanner => exact recordNewDevice_keeps (spacedUpTo_keptByRecording hwindow)
  | knownDevice existing new scanner =>
    exact recordKnownDevice_keeps (spacedUpTo_keptByRecording hwindow) existing
  | deleteDevice macAddress => exact fun world hspaced ↦ hspaced.of_sublist List.filter_sublist
  | purge cutoff => exact fun world hspaced ↦ hspaced.of_sublist List.filter_sublist

/-- In every history whose times do not decrease, the rows stay spaced. -/
theorem spaced_of_history
    (hwindow : (settings.deduplicationWindow.nanos : Int) ≤ TimeDelta.maxNanos)
    {start last : Database} (hstart : start.deviceEvents = [])
    {history : List (Completed (Timed Instant EventOperation)
      (fun timed ↦ timed.activity.Outcome) Database)}
    (hrun : Sequential (PerformAt (EventOperation.program settings)) start history last)
    (hclock : Chronological history) : last.Spaced settings.deduplicationWindow := by
  have hinvariant := hrun.chronological_invariant
    (fun history db ↦ db.Spaced settings.deduplicationWindow ∧
      ∀ instant, (∀ completed ∈ history, completed.activity.time ≤ instant) →
        ∀ row ∈ db.deviceEvents, row.createdOn ≤ instant) (fun _ ↦ True) ?_ ?_ hclock
    fun _ _ ↦ trivial
  · exact hinvariant.1
  · unfold Database.Spaced
    rw [hstart]
    exact ⟨List.Pairwise.nil, fun _ _ ↦ List.forall_mem_nil _⟩
  · intro history completed hperform _ htimes ⟨hspaced, hbounded⟩
    have hkept := completed.activity.activity.keeps_spaced hwindow
      (.still completed.before completed.activity.time)
      ⟨fun _ ↦ rfl, hbounded _ htimes, hspaced⟩
    rw [show _ = _ from hperform] at hkept
    refine ⟨hkept.spaced, fun instant hlater row hrow ↦ ?_⟩
    exact (hkept.createdOn row hrow).trans (hlater completed List.mem_cons_self)

end Spacing

/-! ### Locality -/

/-- A row of the device and the scanner that is not a `DeviceSeen` row. -/
def DeviceEvent.Concerns (row : DeviceEvent) (macAddress : String) (scanner : DeviceEventScanner) :
    Prop :=
  NocaseEq row.macAddress macAddress ∧ row.scanner = scanner ∧ row.eventType ≠ .deviceSeen

instance (row : DeviceEvent) (macAddress : String) (scanner : DeviceEventScanner) :
    Decidable (row.Concerns macAddress scanner) :=
  inferInstanceAs (Decidable (_ ∧ _ ∧ _))

namespace Database

/-- The database without the `DeviceSeen` rows, the rows of other scanners and the rows of other
devices. -/
def restrict (db : Database) (macAddress : String) (scanner : DeviceEventScanner) : Database :=
  { db with deviceEvents := db.deviceEvents.filter fun row ↦ row.Concerns macAddress scanner }

/-- What the rows of the device and the scanner that are not `DeviceSeen` rows record: every column
but the id, which counts the insertions of all rows. -/
def concerning (db : Database) (macAddress : String) (scanner : DeviceEventScanner) :
    List DeviceEvent :=
  (db.restrict macAddress scanner).deviceEvents.map fun row ↦ { row with id := 0 }

variable {db : Database} {macAddress : String} {scanner : DeviceEventScanner}

theorem concerning_restrict :
    (db.restrict macAddress scanner).concerning macAddress scanner =
      db.concerning macAddress scanner := by
  unfold concerning restrict
  rw [List.filter_filter]
  simp only [Bool.and_self]

theorem concerning_insertEvent (event : DeviceEvent) :
    (db.insertEvent event).concerning macAddress scanner =
      db.concerning macAddress scanner ++
        if event.Concerns macAddress scanner then [{ event with id := 0 }] else [] := by
  unfold concerning restrict insertEvent
  simp only [List.filter_append, List.map_append]
  congr 1
  by_cases hconcerns : event.Concerns macAddress scanner
  · have hrow : ({ event with id := db.nextEventId } : DeviceEvent).Concerns macAddress scanner :=
      hconcerns
    simp [hconcerns, hrow]
  · have hrow : ¬ ({ event with id := db.nextEventId } : DeviceEvent).Concerns macAddress scanner :=
      hconcerns
    simp [hconcerns, hrow]

/-- Whether there is a duplicate of an event that is not `DeviceSeen` is seen in the rows concerning
its device and scanner. -/
theorem exists_matches_iff {eventType : DeviceEventType} (htype : eventType ≠ .deviceSeen)
    (since : Instant) :
    (∃ row ∈ db.deviceEvents, row.Matches (normalizeMac macAddress) scanner eventType since) ↔
      ∃ row ∈ db.concerning macAddress scanner,
        row.Matches (normalizeMac macAddress) scanner eventType since := by
  unfold concerning restrict
  constructor
  · intro ⟨row, hrow, hmatches⟩
    have hconcerns : row.Concerns macAddress scanner := by
      refine ⟨hmatches.1.trans (nocaseEq_normalizeMac _), hmatches.2.1, ?_⟩
      rw [hmatches.2.2.1]
      exact htype
    refine ⟨{ row with id := 0 }, List.mem_map.mpr ⟨row, ?_, rfl⟩, hmatches⟩
    exact List.mem_filter.mpr ⟨hrow, decide_eq_true hconcerns⟩
  · intro ⟨row, hrow, hmatches⟩
    obtain ⟨stored, hstored, hsame⟩ := List.mem_map.mp hrow
    rw [← hsame] at hmatches
    exact ⟨stored, (List.mem_filter.mp hstored).1, hmatches⟩

end Database

section Locality

variable {settings : Settings} {scanner : DeviceEventScanner} {device : Device}

/-- Worlds that show a recording of a device by a scanner the same time and the same rows. -/
structure SameConcern (macAddress : String) (scanner : DeviceEventScanner) (world other : World) :
    Prop where
  clock : world.clock = other.clock
  concerning : world.db.concerning macAddress scanner = other.db.concerning macAddress scanner

theorem SameConcern.tick {macAddress : String} {world other : World}
    (hsame : SameConcern macAddress scanner world other) :
    SameConcern macAddress scanner world.tick other.tick where
  clock := funext fun n ↦ congrFun hsame.clock (n + 1)
  concerning := hsame.concerning

/-- An event that is not `DeviceSeen` is recorded in both of two such worlds or in neither. -/
theorem recordDeviceEvent_alike {eventType : DeviceEventType} (htype : eventType ≠ .deviceSeen) :
    Program.Alike clocked (SameConcern device.macAddress scanner) (· = ·)
      (recordDeviceEvent settings device eventType scanner)
      (recordDeviceEvent settings device eventType scanner) := by
  refine recordDeviceEvent_alike_of SameConcern.clock SameConcern.tick (fun hsame since ↦ ?_)
    fun hsame instant ↦ ⟨hsame.clock, ?_⟩
  · rw [Database.exists_matches_iff htype, Database.exists_matches_iff htype, hsame.concerning]
  · rw [World.withDb_db, World.withDb_db, Database.concerning_insertEvent,
      Database.concerning_insertEvent, hsame.concerning]

/-- A `DeviceSeen` event may be recorded in one of them only, but leaves them as they are to later
recordings. -/
theorem recordDeviceEvent_deviceSeen_alike :
    Program.Alike clocked (SameConcern device.macAddress scanner) (fun _ _ ↦ True)
      (recordDeviceEvent settings device .deviceSeen scanner)
      (recordDeviceEvent settings device .deviceSeen scanner) := by
  intro world other hsame
  have hticks := hsame.tick.tick
  have hclock := congrFun hsame.clock
  cases hsince : settings.since (world.clock 1) with
  | none =>
    rw [run_recordDeviceEvent_of_none settings scanner world device _ hsince]
    rw [hclock] at hsince
    rw [run_recordDeviceEvent_of_none settings scanner other device _ hsince]
    exact ⟨.none, hticks⟩
  | some since =>
    -- The row inserted in one of them is a `DeviceSeen` row.
    have hinserted : ∀ (db : Database) (instant : Instant),
        (db.insertEvent (insertedEvent scanner device .deviceSeen instant)).concerning
          device.macAddress scanner = db.concerning device.macAddress scanner := by
      intro db instant
      have hseen : ¬ (insertedEvent scanner device .deviceSeen instant).Concerns
          device.macAddress scanner := fun hconcerns ↦ hconcerns.2.2 rfl
      rw [Database.concerning_insertEvent, if_neg hseen, List.append_nil]
    rw [run_recordDeviceEvent settings scanner world device _ hsince]
    rw [hclock] at hsince
    rw [run_recordDeviceEvent settings scanner other device _ hsince]
    split_ifs
    · exact ⟨.some trivial, hticks⟩
    · exact ⟨.some trivial, hticks.clock, hsame.concerning.trans (hinserted _ _).symm⟩
    · exact ⟨.some trivial, hticks.clock, (hinserted _ _).trans hsame.concerning⟩
    · exact ⟨.some trivial, hticks.clock,
        (hinserted _ _).trans (hsame.concerning.trans (hinserted _ _).symm)⟩

/-- Recordings look at the rows concerning the device and the scanner. -/
theorem sameConcern_alikeInRecording :
    AlikeInRecording settings device scanner (SameConcern device.macAddress scanner) where
  clock := SameConcern.clock
  tick := SameConcern.tick
  seen := recordDeviceEvent_deviceSeen_alike
  event := recordDeviceEvent_alike

/-- A recording of the device has the outcome it would have without the other rows, and adds the
same rows to those concerning it. -/
def RecordsLocally (device : Device) (scanner : DeviceEventScanner) {α : Type}
    (program : Program backend α) : Prop :=
  ∀ (db : Database) (instant : Instant),
    (program.run clocked (.still db instant)).1 =
        (program.run clocked (.still (db.restrict device.macAddress scanner) instant)).1 ∧
      (program.run clocked (.still db instant)).2.db.concerning device.macAddress scanner =
        (program.run clocked
          (.still (db.restrict device.macAddress scanner) instant)).2.db.concerning
            device.macAddress scanner

/-- A program that cannot tell such worlds apart records locally. -/
theorem RecordsLocally.of_alike {α : Type} {program : Program backend α}
    (halike : program.Alike clocked (SameConcern device.macAddress scanner) (· = ·) program) :
    RecordsLocally device scanner program := by
  intro db instant
  have hsame : SameConcern device.macAddress scanner (.still db instant)
      (.still (db.restrict device.macAddress scanner) instant) :=
    ⟨rfl, Database.concerning_restrict.symm⟩
  exact ⟨halike.outcome_eq hsame, (halike _ _ hsame).2.concerning⟩

end Locality

/-! ### The condition -/

/-- What deduplication is for: in every history from an empty table whose times do not decrease, the
rows with one key are more than the window apart, and recordings are local. -/
structure Deduplicates (settings : Settings) : Prop where
  spaced : ∀ (start last : Database) (history : List (Completed (Timed Instant EventOperation)
      (fun timed ↦ timed.activity.Outcome) Database)), start.deviceEvents = [] →
    Sequential (PerformAt (EventOperation.program settings)) start history last →
    Chronological history → last.Spaced settings.deduplicationWindow
  newDevice : ∀ device scanner,
    RecordsLocally device scanner (recordNewDevice settings device scanner)
  knownDevice : ∀ existing new scanner,
    RecordsLocally new scanner (recordKnownDevice settings existing new scanner)

/-- A new device is recorded when no row in the window is a duplicate. -/
theorem performAt_newDevice {settings : Settings} {device : Device} {scanner : DeviceEventScanner}
    {db : Database} {instant since : Instant} (hsince : settings.since instant = some since)
    (hfresh : ¬ ∃ row ∈ db.deviceEvents,
      row.Matches (normalizeMac device.macAddress) scanner .newDevice since) :
    PerformAt (EventOperation.program settings) ⟨instant, .newDevice device scanner⟩ db
      (some (some (.new device)))
      (db.insertEvent (insertedEvent scanner device .newDevice instant)) := by
  have hrecorded := run_recordDeviceEvent settings scanner (.still db instant) device .newDevice
    hsince
  rw [if_neg (show ¬ ∃ row ∈ (World.still db instant).db.deviceEvents, _ from hfresh)] at hrecorded
  change (recordDeviceEvent settings device .newDevice scanner >>= _).run clocked _ = _
  rw [Program.run_bind, hrecorded]
  rfl

/-- A device of which only the MAC is known. -/
def bareDevice : Device := .new "aa:00:00:00:00:01" "" "" .epoch

/-- The first nanosecond after the epoch. -/
def Instant.afterEpoch : Instant := ⟨1, by decide⟩

/-- With a window that is too long, a device can be recorded twice a nanosecond apart. -/
theorem exists_not_spaced {settings : Settings}
    (hlong : TimeDelta.maxNanos < (settings.deduplicationWindow.nanos : Int)) :
    ∃ (history : List (Completed (Timed Instant EventOperation)
        (fun timed ↦ timed.activity.Outcome) Database)) (last : Database),
      Sequential (PerformAt (EventOperation.program settings)) .empty history last ∧
        Chronological history ∧ ¬ last.Spaced settings.deduplicationWindow := by
  have hsince := fun instant ↦ @Settings.since_of_long settings instant hlong
  have hempty : ¬ ∃ row ∈ Database.empty.deviceEvents,
      row.Matches (normalizeMac bareDevice.macAddress) .arp .newDevice .epoch := by decide
  have hearlier : ¬ ∃ row ∈ (Database.empty.insertEvent
      (insertedEvent .arp bareDevice .newDevice .epoch)).deviceEvents,
      row.Matches (normalizeMac bareDevice.macAddress) .arp .newDevice .afterEpoch := by decide
  have hfirst := performAt_newDevice (hsince .epoch) hempty
  have hsecond := performAt_newDevice (hsince .afterEpoch) hearlier
  refine ⟨_, _, (Sequential.start.extend hfirst).extend hsecond, ?_, fun hspaced ↦ ?_⟩
  · refine List.pairwise_cons.mpr ⟨List.forall_mem_singleton.mpr ?_, List.pairwise_singleton _ _⟩
    exact (Instant.le_iff _ _).mpr (by decide)
  · have hapart := List.rel_of_pairwise_cons hspaced (List.mem_singleton_self _) ⟨rfl, rfl, rfl⟩
    have hclose : |(0 : Int) - 1| = 1 := by decide
    change (settings.deduplicationWindow.nanos : Int) < |(0 : Int) - 1| at hapart
    rw [hclose] at hapart
    exact absurd (hlong.trans hapart) (by decide)

/-- The events of every history are deduplicated exactly when the window is a `chrono::Duration`. -/
theorem events_deduplicated_iff (settings : Settings) :
    Deduplicates settings ↔
      (settings.deduplicationWindow.nanos : Int) ≤ TimeDelta.maxNanos := by
  constructor
  · intro hdeduplicates
    by_contra hlong
    obtain ⟨history, last, hrun, hclock, hclose⟩ := exists_not_spaced (not_le.mp hlong)
    exact hclose (hdeduplicates.spaced _ last history rfl hrun hclock)
  · intro hwindow
    exact ⟨fun start last history hstart hrun hclock ↦ spaced_of_history hwindow hstart hrun hclock,
      fun device scanner ↦ .of_alike sameConcern_alikeInRecording.newDevice,
      fun existing new scanner ↦
        .of_alike (sameConcern_alikeInRecording.knownDevice existing)⟩

/-- The defaults with a window of 20000000000000000 seconds. -/
def longWindow : Settings :=
  { Settings.default with deduplicationWindow := .fromSecs 20000000000000000 }

/-- Under that window, one scanner records one device as new twice, a nanosecond apart. -/
theorem recorded_twice_in_longWindow :
    ((recordNewDevice longWindow bareDevice .arp).run clocked (.still
        ((recordNewDevice longWindow bareDevice .arp).run clocked (.still .empty .epoch)).2.db
        .afterEpoch)).2.db.deviceEvents.length = 2 ∧
      ¬ ((recordNewDevice longWindow bareDevice .arp).run clocked (.still
        ((recordNewDevice longWindow bareDevice .arp).run clocked (.still .empty .epoch)).2.db
        .afterEpoch)).2.db.Spaced longWindow.deduplicationWindow := by
  decide +kernel

end Oott
