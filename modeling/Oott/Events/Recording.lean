import Oott.Events.Detection
import Oott.Database.Calls

/-!
# Recording device events

`events.rs`: an event is recorded unless one of the same type for the same MAC was recorded by the
same scanner within the deduplication window, and a change is returned only when its event passes
that check. The start of the window is the current instant minus the window as a `chrono::Duration`,
or minus nothing when the window is too long to be one; the subtraction panics when it leaves the
calendar, which ends the program here (`Settings.since`).

Runs in which no database call fails only add events and read the clock (`World.Records`). One event
is recorded or has a duplicate in the window (`run_recordDeviceEvent`), and so is each change that a
sighting of a known device shows (`recordKnownDevice_spec`).
-/

set_option autoImplicit false
set_option relaxedAutoImplicit false

namespace Oott

open Effects

/-- `device_event`: an event describing this sighting of `device`, stamped with the current time. -/
def deviceEvent (device : Device) (eventType : DeviceEventType) (scanner : DeviceEventScanner) :
    Program backend DeviceEvent := do
  return .new device.macAddress (← now) eventType device.ipv4Address device.vendor scanner

/-- `event_type_for`. -/
def eventTypeFor : DeviceChange → DeviceEventType
  | .new _ => .newDevice
  | .backOnline _ _ => .deviceBackOnline
  | .changed _ _ _ _ => .deviceChanged

/-- The deduplication window as `record_event` uses it: nothing when `from_std` fails. -/
def Settings.effectiveWindow (settings : Settings) : TimeDelta :=
  (TimeDelta.fromStd settings.deduplicationWindow).getD .zero

/-- The window that `record_event` uses is no longer than the one in the settings. -/
theorem Settings.effectiveWindow_le (settings : Settings) :
    settings.effectiveWindow.nanos ≤ settings.deduplicationWindow.nanos := by
  unfold Settings.effectiveWindow
  cases hstd : TimeDelta.fromStd settings.deduplicationWindow with
  | none => exact Int.natCast_nonneg _
  | some window => exact (TimeDelta.fromStd_eq_some.mp hstd).le

theorem Settings.effectiveWindow_nonneg (settings : Settings) :
    0 ≤ settings.effectiveWindow.nanos := by
  unfold Settings.effectiveWindow
  cases hstd : TimeDelta.fromStd settings.deduplicationWindow with
  | none => exact le_refl _
  | some window =>
    change 0 ≤ window.nanos
    rw [TimeDelta.fromStd_eq_some.mp hstd]
    exact Int.natCast_nonneg _

/-- The start of the deduplication window at an instant, `none` where the subtraction panics. -/
def Settings.since (settings : Settings) (instant : Instant) : Option Instant :=
  instant.sub settings.effectiveWindow

/-- An event after the start of the window is no older than the window. -/
theorem Settings.age_le_of_since {settings : Settings} {instant since createdOn : Instant}
    (hsince : settings.since instant = some since) (hafter : since ≤ createdOn) :
    instant.nanos - createdOn.nanos ≤ settings.deduplicationWindow.nanos := by
  have hstart := Instant.sub_eq_some.mp hsince
  have hwindow := settings.effectiveWindow_le
  rw [Instant.le_iff] at hafter
  omega

/-- `record_event`: `true` when the event was recorded, also when the insertion failed, and `false`
when it was suppressed as a duplicate. -/
def recordEvent (settings : Settings) (event : DeviceEvent) : Program backend Bool := do
  let since ← Program.orAbort (settings.since (← now))
  match ← Db.DeviceEvents.recentDuplicateExists event.macAddress event.scanner event.eventType
      since with
  | .ok true => return false
  | .ok false | .error _ =>
    let _ ← Db.DeviceEvents.insert event
    return true

/-- `record_event(device_event(..))`, as every caller has it. -/
def recordDeviceEvent (settings : Settings) (device : Device) (eventType : DeviceEventType)
    (scanner : DeviceEventScanner) : Program backend Bool := do
  let event ← deviceEvent device eventType scanner
  recordEvent settings event

theorem recordDeviceEvent_eq (settings : Settings) (device : Device) (eventType : DeviceEventType)
    (scanner : DeviceEventScanner) :
    recordDeviceEvent settings device eventType scanner =
      now >>= fun instant ↦ recordEvent settings (.new device.macAddress instant eventType
        device.ipv4Address device.vendor scanner) := rfl

/-- `record_new_device`. -/
def recordNewDevice (settings : Settings) (device : Device) (scanner : DeviceEventScanner) :
    Program backend (Option DeviceChange) := do
  let recorded ← recordDeviceEvent settings device .newDevice scanner
  return if recorded then some (.new device) else none

/-- The filter of `record_known_device`: record the event of each change, in order, and keep the
changes whose event was recorded. -/
def recordChanges (settings : Settings) (new : Device) (scanner : DeviceEventScanner) :
    List DeviceChange → Program backend (List DeviceChange)
  | [] => return []
  | change :: rest => do
    let recorded ← recordDeviceEvent settings new (eventTypeFor change) scanner
    let kept ← recordChanges settings new scanner rest
    return if recorded then change :: kept else kept

/-- `record_known_device`. -/
def recordKnownDevice (settings : Settings) (existing new : Device)
    (scanner : DeviceEventScanner) : Program backend (List DeviceChange) := do
  let _ ← recordDeviceEvent settings new .deviceSeen scanner
  let changes ← detectKnownDeviceChanges settings existing new
  recordChanges settings new scanner changes

/-! ### Which calls are made -/

section Calls

variable (settings : Settings) (scanner : DeviceEventScanner)

/-- Recording an event makes no calls but readings of the clock, a check and an insertion. -/
theorem recordEvent_always (event : DeviceEvent) :
    (recordEvent settings event).Always
      (Call.RecordsEventsOf (normalizeMac event.macAddress)) := by
  unfold recordEvent
  refine (Program.always_perform trivial).bind fun instant ↦ ?_
  refine (Program.always_orAbort _).bind fun since ↦ ?_
  have hcheck : (Db.DeviceEvents.recentDuplicateExists event.macAddress event.scanner
      event.eventType since).Always (Call.RecordsEventsOf (normalizeMac event.macAddress)) := by
    refine (Program.always_perform trivial).bind fun response ↦ ?_
    cases response <;> exact Program.always_ret _
  have hinsert : (Db.DeviceEvents.insert event).Always
      (Call.RecordsEventsOf (normalizeMac event.macAddress)) := Program.always_perform rfl
  refine hcheck.bind fun response ↦ ?_
  split
  · exact Program.always_ret _
  · exact hinsert.bind fun _ ↦ Program.always_ret _
  · exact hinsert.bind fun _ ↦ Program.always_ret _

theorem recordDeviceEvent_always (device : Device) (eventType : DeviceEventType) :
    (recordDeviceEvent settings device eventType scanner).Always
      (Call.RecordsEventsOf (normalizeMac device.macAddress)) := by
  rw [recordDeviceEvent_eq]
  refine (Program.always_perform trivial).bind fun instant ↦ ?_
  exact recordEvent_always settings (.new device.macAddress instant eventType device.ipv4Address
    device.vendor scanner)

theorem recordNewDevice_always (device : Device) :
    (recordNewDevice settings device scanner).Always
      (Call.RecordsEventsOf (normalizeMac device.macAddress)) :=
  (recordDeviceEvent_always settings scanner device _).bind fun _ ↦ Program.always_ret _

theorem recordChanges_always (new : Device) (changes : List DeviceChange) :
    (recordChanges settings new scanner changes).Always
      (Call.RecordsEventsOf (normalizeMac new.macAddress)) := by
  induction changes with
  | nil => exact Program.always_ret _
  | cons change rest ih =>
    unfold recordChanges
    refine (recordDeviceEvent_always settings scanner new _).bind fun recorded ↦ ?_
    exact ih.bind fun kept ↦ Program.always_ret _

theorem recordKnownDevice_always (existing new : Device) :
    (recordKnownDevice settings existing new scanner).Always
      (Call.RecordsEventsOf (normalizeMac new.macAddress)) := by
  unfold recordKnownDevice
  refine (recordDeviceEvent_always settings scanner new _).bind fun recorded ↦ ?_
  have hdetect : (detectKnownDeviceChanges settings existing new).Always
      (Call.RecordsEventsOf (normalizeMac new.macAddress)) :=
    (Program.always_perform trivial).bind fun _ ↦ Program.always_ret _
  exact hdetect.bind fun changes ↦ recordChanges_always settings scanner new changes

end Calls

/-! ### Which changes are returned -/

section Returned

variable {settings : Settings} {scanner : DeviceEventScanner} {σ : Type}
  {transition : Transition backend σ} {state final : σ}

theorem recordChanges_sublist {new : Device} {changes kept : List DeviceChange}
    (hexec : Program.Exec transition (recordChanges settings new scanner changes) state
      (some kept) final) : kept.Sublist changes := by
  induction changes generalizing state kept final with
  | nil =>
    obtain ⟨hkept, -⟩ := Program.exec_ret_iff.mp hexec
    cases hkept
    exact List.Sublist.refl []
  | cons change rest ih =>
    unfold recordChanges at hexec
    rcases Program.exec_bind_inv hexec with ⟨recorded, later, -, hrest⟩ | ⟨-, hnone⟩
    · rcases Program.exec_bind_inv hrest with ⟨others, last, hothers, hret⟩ | ⟨-, hnone⟩
      · obtain ⟨hkept, -⟩ := Program.exec_ret_iff.mp hret
        cases hkept
        cases recorded with
        | true => exact (ih hothers).cons_cons change
        | false => exact (ih hothers).cons change
      · cases hnone
    · cases hnone

/-- What `record_known_device` returns was found by the detection, at some reading of the clock,
whatever the database calls did. -/
theorem recordKnownDevice_sublist {existing new : Device} {changes : List DeviceChange}
    (hexec : Program.Exec transition (recordKnownDevice settings existing new scanner) state
      (some changes) final) :
    ∃ instant, changes.Sublist (changesAt settings existing new instant) := by
  unfold recordKnownDevice at hexec
  rcases Program.exec_bind_inv hexec with ⟨_, _, -, hrest⟩ | ⟨-, hnone⟩
  · obtain ⟨instant, _, -, hrest⟩ := Program.exec_call_iff.mp hrest
    exact ⟨instant, recordChanges_sublist hrest⟩
  · cases hnone

end Returned

/-! ### What is recorded when no call fails -/

/-- The event is one of the given type about a sighting of `device` by `scanner`. -/
structure DeviceEvent.Describes (event : DeviceEvent) (device : Device)
    (eventType : DeviceEventType) (scanner : DeviceEventScanner) : Prop where
  macAddress : event.macAddress = normalizeMac device.macAddress
  eventType : event.eventType = eventType
  ipv4Address : event.ipv4Address = device.ipv4Address
  vendor : event.vendor = device.vendor
  scanner : event.scanner = scanner

/-- Events of one sighting have been added, stamped with readings of the clock made meanwhile, and
nothing else has changed. -/
structure World.Records (device : Device) (scanner : DeviceEventScanner) (before after : World)
    (inserted : List DeviceEvent) (readings : ℕ) : Prop where
  devices : after.db.devices = before.db.devices
  deviceEvents : after.db.deviceEvents = before.db.deviceEvents ++ inserted
  clock : ∀ n, after.clock n = before.clock (n + readings)
  describes : ∀ event ∈ inserted, ∃ eventType, event.Describes device eventType scanner
  createdOn : ∀ event ∈ inserted, ∃ n < readings, event.createdOn = before.clock n

theorem World.Records.trans {device : Device} {scanner : DeviceEventScanner}
    {first second third : World} {inserted later : List DeviceEvent} {readings more : ℕ}
    (hfirst : first.Records device scanner second inserted readings)
    (hsecond : second.Records device scanner third later more) :
    first.Records device scanner third (inserted ++ later) (readings + more) where
  devices := hsecond.devices.trans hfirst.devices
  deviceEvents := by rw [hsecond.deviceEvents, hfirst.deviceEvents, List.append_assoc]
  clock := by
    intro n
    rw [hsecond.clock, hfirst.clock, Nat.add_assoc, Nat.add_comm more]
  describes := by
    intro event hevent
    exact (List.mem_append.mp hevent).elim (hfirst.describes event) (hsecond.describes event)
  createdOn := by
    intro event hevent
    rcases List.mem_append.mp hevent with hold | hnew
    · obtain ⟨n, hn, hstamp⟩ := hfirst.createdOn event hold
      exact ⟨n, by omega, hstamp⟩
    · obtain ⟨n, hn, hstamp⟩ := hsecond.createdOn event hnew
      exact ⟨n + readings, by omega, hstamp.trans (hfirst.clock n)⟩

/-- Reading the clock once. -/
theorem World.Records.tick (device : Device) (scanner : DeviceEventScanner) (world : World) :
    world.Records device scanner world.tick [] 1 where
  devices := rfl
  deviceEvents := (List.append_nil _).symm
  clock := fun _ ↦ rfl
  describes := List.forall_mem_nil _
  createdOn := List.forall_mem_nil _

section Runs

variable (settings : Settings) (scanner : DeviceEventScanner) (world : World) (device : Device)
  (eventType : DeviceEventType)

/-- The deduplication check, when it does not fail. -/
theorem run_recentDuplicateExists (macAddress : String) (since : Instant) :
    (Db.DeviceEvents.recentDuplicateExists macAddress scanner eventType since).run clocked world =
      (some (.ok (decide
        (0 < world.db.countEvents (normalizeMac macAddress) scanner eventType since))), world) :=
  rfl

theorem countEvents_pos_iff {db : Database} {macAddress : String} {since : Instant} :
    0 < db.countEvents macAddress scanner eventType since ↔
      ∃ row ∈ db.deviceEvents, row.Matches macAddress scanner eventType since := by
  unfold Database.countEvents
  rw [List.countP_pos_iff]
  simp

theorem run_recordEvent_of_none {event : DeviceEvent}
    (hsince : settings.since (world.clock 0) = none) :
    (recordEvent settings event).run clocked world = (none, world.tick) := by
  unfold recordEvent
  change (Program.orAbort (settings.since (world.clock 0)) >>= _).run clocked world.tick = _
  rw [hsince]
  rfl

theorem run_recordEvent (event : DeviceEvent) {since : Instant}
    (hsince : settings.since (world.clock 0) = some since) :
    (recordEvent settings event).run clocked world =
      if 0 < world.db.countEvents (normalizeMac event.macAddress) event.scanner event.eventType
          since then
        (some false, world.tick)
      else (some true, world.tick.withDb (world.db.insertEvent
        { event with macAddress := normalizeMac event.macAddress })) := by
  unfold recordEvent
  change (Program.orAbort (settings.since (world.clock 0)) >>= _).run clocked world.tick = _
  rw [hsince, Program.orAbort_some, Program.ret_bind, Program.run_bind, run_recentDuplicateExists,
    World.tick_db]
  by_cases hcount : 0 < world.db.countEvents (normalizeMac event.macAddress) event.scanner
      event.eventType since
  · rw [if_pos hcount, decide_eq_true hcount]
    rfl
  · rw [if_neg hcount, decide_eq_false hcount]
    rfl

theorem run_recordDeviceEvent_of_none (hsince : settings.since (world.clock 1) = none) :
    (recordDeviceEvent settings device eventType scanner).run clocked world =
      (none, world.tick.tick) :=
  run_recordEvent_of_none settings world.tick hsince

/-- The event `record_event` inserts for a sighting, but for its id. -/
def insertedEvent (instant : Instant) : DeviceEvent :=
  .new (normalizeMac device.macAddress) instant eventType device.ipv4Address device.vendor scanner

/-- When the start of the window is in the calendar, the event is a duplicate of one in the window
or it is inserted. -/
theorem run_recordDeviceEvent {since : Instant}
    (hsince : settings.since (world.clock 1) = some since) :
    (recordDeviceEvent settings device eventType scanner).run clocked world =
      if ∃ row ∈ world.db.deviceEvents,
          row.Matches (normalizeMac device.macAddress) scanner eventType since then
        (some false, world.tick.tick)
      else (some true, world.tick.tick.withDb
        (world.db.insertEvent (insertedEvent scanner device eventType (world.clock 0)))) := by
  have hrun := run_recordEvent settings world.tick (.new device.macAddress (world.clock 0)
    eventType device.ipv4Address device.vendor scanner) hsince
  change (recordDeviceEvent settings device eventType scanner).run clocked world = _ at hrun
  rw [hrun]
  exact if_congr (countEvents_pos_iff scanner eventType) rfl rfl

/-- Recording one event returns when the start of the window is in the calendar. -/
theorem recordDeviceEvent_returns (hsince : settings.since (world.clock 1) ≠ none) :
    ∃ recorded after, (recordDeviceEvent settings device eventType scanner).run clocked world =
      (some recorded, after) := by
  obtain ⟨since, hsince⟩ := Option.ne_none_iff_exists'.mp hsince
  rw [run_recordDeviceEvent settings scanner world device eventType hsince]
  split_ifs
  · exact ⟨_, _, rfl⟩
  · exact ⟨_, _, rfl⟩

end Runs

section Specs

variable {settings : Settings} {scanner : DeviceEventScanner} {world after : World}
  {device : Device} {eventType : DeviceEventType}

/-- Recording one event that returns: there is a duplicate in the window, or the event is there. -/
theorem recordDeviceEvent_spec {recorded : Bool}
    (hrun : (recordDeviceEvent settings device eventType scanner).run clocked world =
      (some recorded, after)) :
    ∃ since inserted, settings.since (world.clock 1) = some since ∧
      world.Records device scanner after inserted 2 ∧
      (recorded = false ∧ inserted = [] ∧ (∃ row ∈ world.db.deviceEvents,
          row.Matches (normalizeMac device.macAddress) scanner eventType since) ∨
        recorded = true ∧ (¬ ∃ row ∈ world.db.deviceEvents,
          row.Matches (normalizeMac device.macAddress) scanner eventType since) ∧
        ∃ event, inserted = [event] ∧ event.Describes device eventType scanner ∧
          event.createdOn = world.clock 0) := by
  cases hsince : settings.since (world.clock 1) with
  | none =>
    rw [run_recordDeviceEvent_of_none settings scanner world device eventType hsince] at hrun
    cases hrun
  | some since =>
    rw [run_recordDeviceEvent settings scanner world device eventType hsince] at hrun
    have hticks : world.Records device scanner world.tick.tick [] 2 :=
      (World.Records.tick device scanner world).trans (World.Records.tick device scanner _)
    by_cases hduplicate : ∃ row ∈ world.db.deviceEvents,
        row.Matches (normalizeMac device.macAddress) scanner eventType since
    · rw [if_pos hduplicate] at hrun
      cases hrun
      exact ⟨since, [], rfl, hticks, Or.inl ⟨rfl, rfl, hduplicate⟩⟩
    · rw [if_neg hduplicate] at hrun
      cases hrun
      have hdescribes : DeviceEvent.Describes { insertedEvent scanner device eventType
          (world.clock 0) with id := world.db.nextEventId } device eventType scanner :=
        ⟨rfl, rfl, rfl, rfl, rfl⟩
      refine ⟨since, [_], rfl, ⟨rfl, rfl, hticks.clock, ?_, ?_⟩,
        Or.inr ⟨rfl, hduplicate, _, rfl, hdescribes, rfl⟩⟩
      · exact List.forall_mem_singleton.mpr ⟨eventType, hdescribes⟩
      · exact List.forall_mem_singleton.mpr ⟨0, by omega, rfl⟩

/-- What a sighting records of a change: it is returned and its event is among the inserted ones, or
an event of its type was in the window, at some reading of the clock, before the sighting. -/
def Announced (settings : Settings) (device : Device) (scanner : DeviceEventScanner)
    (before : World) (inserted : List DeviceEvent) (readings : ℕ) (returned : List DeviceChange)
    (change : DeviceChange) : Prop :=
  (change ∈ returned ∧ ∃ event ∈ inserted,
    event.Describes device (eventTypeFor change) scanner) ∨
  ∃ n < readings, ∃ since, settings.since (before.clock n) = some since ∧
    ∃ row ∈ before.db.deviceEvents,
      row.Matches (normalizeMac device.macAddress) scanner (eventTypeFor change) since

/-- A change announced after some recording was announced by the whole of it, if no event of its
type was inserted before. -/
theorem Announced.of_later {before middle : World} {inserted later : List DeviceEvent}
    {readings more : ℕ} {kept returned : List DeviceChange} {change : DeviceChange}
    (hrecords : before.Records device scanner middle inserted readings)
    (hother : ∀ event ∈ inserted, event.eventType ≠ eventTypeFor change)
    (hkept : change ∈ kept → change ∈ returned)
    (hlater : Announced settings device scanner middle later more kept change) :
    Announced settings device scanner before (inserted ++ later) (readings + more) returned
      change := by
  rcases hlater with ⟨hmem, event, hevent, hdescribes⟩ | ⟨n, hn, since, hsince, row, hrow, hmatches⟩
  · exact Or.inl ⟨hkept hmem, event, List.mem_append_right _ hevent, hdescribes⟩
  · refine Or.inr ⟨n + readings, by omega, since, ?_, row, ?_, hmatches⟩
    · rw [← hrecords.clock]
      exact hsince
    · rw [hrecords.deviceEvents] at hrow
      exact (List.mem_append.mp hrow).resolve_right fun hnew ↦ hother row hnew hmatches.2.2.1

/-- With every event of the device earlier than the window, whenever the clock is read, what is
announced is returned. -/
theorem Announced.mem_returned {before : World} {inserted : List DeviceEvent} {readings : ℕ}
    {returned : List DeviceChange} {change : DeviceChange}
    (hannounced : Announced settings device scanner before inserted readings returned change)
    (hearlier : ∀ n since, settings.since (before.clock n) = some since →
      ∀ row ∈ before.db.deviceEvents, NocaseEq row.macAddress device.macAddress →
        row.createdOn < since) : change ∈ returned := by
  rcases hannounced with ⟨hmem, -⟩ | ⟨n, -, since, hsince, row, hrow, hmatches⟩
  · exact hmem
  · have hbefore := hearlier n since hsince row hrow (hmatches.1.trans (nocaseEq_normalizeMac _))
    exact absurd hmatches.2.2.2 (not_le.mpr hbefore)

/-- Recording changes of different types announces each of them. -/
theorem recordChanges_spec {changes returned : List DeviceChange}
    (hdistinct : (changes.map eventTypeFor).Nodup)
    (hrun : (recordChanges settings device scanner changes).run clocked world =
      (some returned, after)) :
    ∃ inserted readings, world.Records device scanner after inserted readings ∧
      ∀ change ∈ changes,
        Announced settings device scanner world inserted readings returned change := by
  induction changes generalizing world returned after with
  | nil =>
    cases hrun
    exact ⟨[], 0, ⟨rfl, (List.append_nil _).symm, fun _ ↦ rfl, List.forall_mem_nil _,
      List.forall_mem_nil _⟩, List.forall_mem_nil _⟩
  | cons change rest ih =>
    rw [List.map_cons, List.nodup_cons] at hdistinct
    unfold recordChanges at hrun
    obtain ⟨recorded, middle, hhead, hrun⟩ := Program.run_bind_eq_some _ hrun
    obtain ⟨kept, last, htail, hrun⟩ := Program.run_bind_eq_some _ hrun
    cases hrun
    obtain ⟨later, more, hlater, hannounced⟩ := ih hdistinct.2 htail
    obtain ⟨since, inserted, hsince, hrecords, hhead⟩ := recordDeviceEvent_spec hhead
    refine ⟨inserted ++ later, 2 + more, hrecords.trans hlater,
      List.forall_mem_cons.mpr ⟨?_, fun other hother ↦ ?_⟩⟩
    · rcases hhead with ⟨-, -, row, hrow, hmatches⟩ | ⟨hrecorded, -, event, hevent, hdescribes, -⟩
      · exact Or.inr ⟨1, by omega, since, hsince, row, hrow, hmatches⟩
      · rw [hrecorded, hevent]
        exact Or.inl ⟨List.mem_cons_self, event, List.mem_cons_self, hdescribes⟩
    · have hkept : other ∈ kept → other ∈ if recorded then change :: kept else kept := by
        intro hmem
        cases recorded with
        | true => exact List.mem_cons_of_mem _ hmem
        | false => exact hmem
      refine Announced.of_later hrecords (fun event hevent heq ↦ ?_) hkept (hannounced other hother)
      -- An event inserted for the head has the type of the head.
      have htype : event.eventType = eventTypeFor change := by
        rcases hhead with ⟨-, hnone, -⟩ | ⟨-, -, own, hown, hdescribes, -⟩
        · rw [hnone] at hevent
          cases hevent
        · rw [hown] at hevent
          rw [List.mem_singleton.mp hevent]
          exact hdescribes.eventType
      refine hdistinct.1 (List.mem_map.mpr ⟨other, hother, ?_⟩)
      rw [← heq, htype]

theorem eventTypeFor_ne_deviceSeen (change : DeviceChange) : eventTypeFor change ≠ .deviceSeen := by
  cases change <;> exact nofun

/-- The changes found for a known device have different event types. -/
theorem changesAt_nodup (settings : Settings) (existing new : Device) (instant : Instant) :
    ((changesAt settings existing new instant).map eventTypeFor).Nodup := by
  unfold changesAt
  simp only
  split_ifs <;> simp [eventTypeFor]

/-- Recording a sighting of a known device announces every change that the detection finds at the
third reading of the clock. -/
theorem recordKnownDevice_spec {existing new : Device} {returned : List DeviceChange}
    (hrun : (recordKnownDevice settings existing new scanner).run clocked world =
      (some returned, after)) :
    ∃ inserted readings, world.Records new scanner after inserted readings ∧
      returned.Sublist (changesAt settings existing new (world.clock 2)) ∧
      ∀ change ∈ changesAt settings existing new (world.clock 2),
        Announced settings new scanner world inserted readings returned change := by
  unfold recordKnownDevice at hrun
  obtain ⟨recorded, seen, hseen, hrun⟩ := Program.run_bind_eq_some _ hrun
  obtain ⟨since, inserted, -, hrecords, hseen⟩ := recordDeviceEvent_spec hseen
  have hclock : seen.clock 0 = world.clock 2 := hrecords.clock 0
  change (recordChanges settings new scanner (changesAt settings existing new (seen.clock 0))).run
    clocked seen.tick = (some returned, after) at hrun
  rw [hclock] at hrun
  obtain ⟨later, more, hlater, hannounced⟩ :=
    recordChanges_spec (changesAt_nodup settings existing new (world.clock 2)) hrun
  have hdetected := hrecords.trans (World.Records.tick new scanner seen)
  refine ⟨(inserted ++ []) ++ later, (2 + 1) + more, hdetected.trans hlater,
    recordChanges_sublist (Program.exec_ofMachine_iff.mpr hrun), fun change hchange ↦ ?_⟩
  refine Announced.of_later hdetected (fun event hevent heq ↦ ?_) id (hannounced change hchange)
  refine eventTypeFor_ne_deviceSeen change ?_
  rw [← heq]
  rw [List.append_nil] at hevent
  rcases hseen with ⟨-, hnone, -⟩ | ⟨-, -, own, hown, hdescribes, -⟩
  · rw [hnone] at hevent
    cases hevent
  · rw [hown] at hevent
    rw [List.mem_singleton.mp hevent]
    exact hdescribes.eventType

/-- The events that recording changes adds are those of the returned changes. -/
theorem eventType_of_recordChanges {changes returned : List DeviceChange}
    (hrun : (recordChanges settings device scanner changes).run clocked world =
      (some returned, after)) :
    ∀ event ∈ after.db.deviceEvents, event ∈ world.db.deviceEvents ∨
      ∃ change ∈ returned, event.eventType = eventTypeFor change := by
  induction changes generalizing world returned after with
  | nil =>
    cases hrun
    exact fun event hevent ↦ Or.inl hevent
  | cons change rest ih =>
    unfold recordChanges at hrun
    obtain ⟨recorded, middle, hhead, hrun⟩ := Program.run_bind_eq_some _ hrun
    obtain ⟨kept, last, htail, hrun⟩ := Program.run_bind_eq_some _ hrun
    cases hrun
    obtain ⟨since, inserted, -, hrecords, hhead⟩ := recordDeviceEvent_spec hhead
    have hkept : ∀ other ∈ kept, other ∈ if recorded then change :: kept else kept := by
      intro other hother
      cases recorded with
      | true => exact List.mem_cons_of_mem _ hother
      | false => exact hother
    intro event hevent
    rcases ih htail event hevent with hmiddle | ⟨other, hother, htype⟩
    · rw [hrecords.deviceEvents, List.mem_append] at hmiddle
      refine hmiddle.imp_right fun hinserted ↦ ?_
      rcases hhead with ⟨-, hnone, -⟩ | ⟨hrecorded, -, own, hown, hdescribes, -⟩
      · rw [hnone] at hinserted
        cases hinserted
      · rw [hown, List.mem_singleton] at hinserted
        rw [hrecorded, hinserted]
        exact ⟨change, List.mem_cons_self, hdescribes.eventType⟩
    · exact Or.inr ⟨other, hkept other hother, htype⟩

/-- The events that recording a known device adds are `DeviceSeen` events and those of the returned
changes. -/
theorem eventType_of_recordKnownDevice {existing : Device} {returned : List DeviceChange}
    (hrun : (recordKnownDevice settings existing device scanner).run clocked world =
      (some returned, after)) :
    ∀ event ∈ after.db.deviceEvents, event ∈ world.db.deviceEvents ∨
      event.eventType = .deviceSeen ∨
        ∃ change ∈ returned, event.eventType = eventTypeFor change := by
  unfold recordKnownDevice at hrun
  obtain ⟨recorded, middle, hseen, hrest⟩ := Program.run_bind_eq_some _ hrun
  obtain ⟨since, inserted, -, hrecords, hseen⟩ := recordDeviceEvent_spec hseen
  intro event hevent
  rcases eventType_of_recordChanges hrest event hevent with hmiddle | hreturned
  · change event ∈ middle.db.deviceEvents at hmiddle
    rw [hrecords.deviceEvents, List.mem_append] at hmiddle
    refine hmiddle.imp_right fun hinserted ↦ Or.inl ?_
    rcases hseen with ⟨-, hnone, -⟩ | ⟨-, -, own, hown, hdescribes, -⟩
    · rw [hnone] at hinserted
      cases hinserted
    · rw [hown, List.mem_singleton] at hinserted
      rw [hinserted]
      exact hdescribes.eventType
  · exact Or.inr (Or.inr hreturned)

end Specs

/-! ### Invariants of recording -/

/-- What the recordings of a device by a scanner keep: it is kept by readings of the clock, and by
the insertion of an event that has no duplicate in the window. -/
structure KeptByRecording (settings : Settings) (device : Device) (scanner : DeviceEventScanner)
    (invariant : World → Prop) : Prop where
  tick : ∀ world, invariant world → invariant world.tick
  insert : ∀ world eventType since, invariant world → settings.since (world.clock 1) = some since →
    (¬ ∃ row ∈ world.db.deviceEvents,
      row.Matches (normalizeMac device.macAddress) scanner eventType since) →
    invariant (world.tick.tick.withDb
      (world.db.insertEvent (insertedEvent scanner device eventType (world.clock 0))))

section Keeps

variable {settings : Settings} {scanner : DeviceEventScanner} {device : Device}
  {invariant : World → Prop}

theorem recordDeviceEvent_keeps (hkept : KeptByRecording settings device scanner invariant)
    (eventType : DeviceEventType) :
    (recordDeviceEvent settings device eventType scanner).Keeps clocked invariant := by
  intro world hworld
  have hticks := hkept.tick _ (hkept.tick world hworld)
  cases hsince : settings.since (world.clock 1) with
  | none =>
    rw [run_recordDeviceEvent_of_none settings scanner world device eventType hsince]
    exact hticks
  | some since =>
    rw [run_recordDeviceEvent settings scanner world device eventType hsince]
    by_cases hduplicate : ∃ row ∈ world.db.deviceEvents,
        row.Matches (normalizeMac device.macAddress) scanner eventType since
    · rw [if_pos hduplicate]
      exact hticks
    · rw [if_neg hduplicate]
      exact hkept.insert world eventType since hworld hsince hduplicate

theorem recordChanges_keeps (hkept : KeptByRecording settings device scanner invariant)
    (changes : List DeviceChange) :
    (recordChanges settings device scanner changes).Keeps clocked invariant := by
  induction changes with
  | nil => exact .ret _
  | cons change rest ih =>
    unfold recordChanges
    exact (recordDeviceEvent_keeps hkept _).bind fun recorded ↦ ih.bind fun kept ↦ .ret _

theorem recordNewDevice_keeps (hkept : KeptByRecording settings device scanner invariant) :
    (recordNewDevice settings device scanner).Keeps clocked invariant :=
  (recordDeviceEvent_keeps hkept _).bind fun _ ↦ .ret _

theorem recordKnownDevice_keeps (hkept : KeptByRecording settings device scanner invariant)
    (existing : Device) :
    (recordKnownDevice settings existing device scanner).Keeps clocked invariant := by
  refine (recordDeviceEvent_keeps hkept _).bind fun recorded ↦ ?_
  refine Program.Keeps.bind (fun world hworld ↦ hkept.tick world hworld) fun changes ↦ ?_
  exact recordChanges_keeps hkept changes

/-- When recording a known device returns, there is an event of the device. -/
theorem exists_event_of_recordKnownDevice {existing : Device} {world after : World}
    {returned : List DeviceChange}
    (hrun : (recordKnownDevice settings existing device scanner).run clocked world =
      (some returned, after)) :
    ∃ event ∈ after.db.deviceEvents, NocaseEq event.macAddress device.macAddress := by
  unfold recordKnownDevice at hrun
  obtain ⟨recorded, middle, hseen, hrest⟩ := Program.run_bind_eq_some _ hrun
  obtain ⟨since, inserted, -, hrecords, hseen⟩ := recordDeviceEvent_spec hseen
  have hmiddle : ∃ event ∈ middle.db.deviceEvents,
      NocaseEq event.macAddress device.macAddress := by
    rw [hrecords.deviceEvents]
    rcases hseen with ⟨-, -, row, hrow, hmatches⟩ | ⟨-, -, event, hevent, hdescribes, -⟩
    · exact ⟨row, List.mem_append_left _ hrow, hmatches.1.trans (nocaseEq_normalizeMac _)⟩
    · refine ⟨event, List.mem_append_right _ ?_, ?_⟩
      · rw [hevent]
        exact List.mem_singleton_self event
      · rw [hdescribes.macAddress]
        exact nocaseEq_normalizeMac _
  obtain ⟨event, hevent, hmac⟩ := hmiddle
  have hkept : KeptByRecording settings device scanner fun world ↦ event ∈ world.db.deviceEvents :=
    ⟨fun _ hmem ↦ hmem, fun _ _ _ hmem _ _ ↦ List.mem_append_left _ hmem⟩
  have hlast := recordChanges_keeps hkept
    (changesAt settings existing device (middle.clock 0)) middle.tick hevent
  change (recordChanges settings device scanner (changesAt settings existing device
    (middle.clock 0))).run clocked middle.tick = (some returned, after) at hrest
  rw [hrest] at hlast
  exact ⟨event, hlast, hmac⟩

end Keeps

/-! ### Relations of recordings -/

/-- An event is recorded in both of two related worlds or in neither, when they show the same time
and the same duplicates and an insertion leaves them related. -/
theorem recordDeviceEvent_alike_of {settings : Settings} {scanner : DeviceEventScanner}
    {device : Device} {eventType : DeviceEventType} {related : World → World → Prop}
    (hclock : ∀ {world other}, related world other → world.clock = other.clock)
    (htick : ∀ {world other}, related world other → related world.tick other.tick)
    (hduplicate : ∀ {world other}, related world other → ∀ since,
      (∃ row ∈ world.db.deviceEvents,
          row.Matches (normalizeMac device.macAddress) scanner eventType since) ↔
        ∃ row ∈ other.db.deviceEvents,
          row.Matches (normalizeMac device.macAddress) scanner eventType since)
    (hinsert : ∀ {world other}, related world other → ∀ instant,
      related (world.withDb (world.db.insertEvent (insertedEvent scanner device eventType instant)))
        (other.withDb (other.db.insertEvent (insertedEvent scanner device eventType instant)))) :
    Program.Alike clocked related (· = ·)
      (recordDeviceEvent settings device eventType scanner)
      (recordDeviceEvent settings device eventType scanner) := by
  intro world other hrelated
  have hticks := htick (htick hrelated)
  have hsame := congrFun (hclock hrelated)
  cases hsince : settings.since (world.clock 1) with
  | none =>
    rw [run_recordDeviceEvent_of_none settings scanner world device eventType hsince]
    rw [hsame] at hsince
    rw [run_recordDeviceEvent_of_none settings scanner other device eventType hsince]
    exact ⟨.none, hticks⟩
  | some since =>
    rw [run_recordDeviceEvent settings scanner world device eventType hsince]
    rw [hsame] at hsince
    rw [run_recordDeviceEvent settings scanner other device eventType hsince]
    simp only [hduplicate hrelated since]
    by_cases hfound : ∃ row ∈ other.db.deviceEvents,
        row.Matches (normalizeMac device.macAddress) scanner eventType since
    · rw [if_pos hfound, if_pos hfound]
      exact ⟨.some rfl, hticks⟩
    · rw [if_neg hfound, if_neg hfound, hsame]
      exact ⟨.some rfl, hinsert hticks _⟩

/-- Recordings of the device by the scanner cannot tell related worlds apart: they show the same
time, an event that is not `DeviceSeen` is recorded in both or in neither, and the worlds stay
related. -/
structure AlikeInRecording (settings : Settings) (device : Device) (scanner : DeviceEventScanner)
    (related : World → World → Prop) : Prop where
  clock : ∀ {world other}, related world other → world.clock = other.clock
  tick : ∀ {world other}, related world other → related world.tick other.tick
  seen : Program.Alike clocked related (fun _ _ ↦ True)
    (recordDeviceEvent settings device .deviceSeen scanner)
    (recordDeviceEvent settings device .deviceSeen scanner)
  event : ∀ {eventType}, eventType ≠ .deviceSeen → Program.Alike clocked related (· = ·)
    (recordDeviceEvent settings device eventType scanner)
    (recordDeviceEvent settings device eventType scanner)

namespace AlikeInRecording

variable {settings : Settings} {scanner : DeviceEventScanner} {device : Device}
  {related : World → World → Prop} (halike : AlikeInRecording settings device scanner related)

include halike

theorem changes (changes : List DeviceChange) :
    Program.Alike clocked related (· = ·) (recordChanges settings device scanner changes)
      (recordChanges settings device scanner changes) := by
  induction changes with
  | nil => exact .ret rfl
  | cons change rest ih =>
    unfold recordChanges
    refine (halike.event (eventTypeFor_ne_deviceSeen change)).bind ?_
    intro recorded _ hrecorded
    subst hrecorded
    refine ih.bind fun kept _ hkept ↦ .ret ?_
    rw [hkept]

theorem newDevice :
    Program.Alike clocked related (· = ·) (recordNewDevice settings device scanner)
      (recordNewDevice settings device scanner) := by
  have htype : DeviceEventType.newDevice ≠ .deviceSeen := nofun
  refine (halike.event htype).bind fun recorded _ hrecorded ↦ .ret ?_
  rw [hrecorded]

theorem knownDevice (existing : Device) :
    Program.Alike clocked related (· = ·) (recordKnownDevice settings existing device scanner)
      (recordKnownDevice settings existing device scanner) := by
  refine halike.seen.bind fun _ _ _ ↦ ?_
  have hdetect : Program.Alike clocked related (· = ·)
      (detectKnownDeviceChanges settings existing device)
      (detectKnownDeviceChanges settings existing device) := by
    intro world other hrelated
    refine ⟨.some ?_, halike.tick hrelated⟩
    change changesAt _ _ _ (world.clock 0) = changesAt _ _ _ (other.clock 0)
    rw [halike.clock hrelated]
  refine hdetect.bind fun changes _ hchanges ↦ ?_
  subst hchanges
  exact halike.changes changes

end AlikeInRecording

/-! ### When recording returns -/

section Returns

variable (settings : Settings) (scanner : DeviceEventScanner) (device : Device)

/-- Recording changes returns when the window never leaves the calendar. -/
theorem recordChanges_returns (changes : List DeviceChange) (world : World)
    (hsince : ∀ n, settings.since (world.clock n) ≠ none) :
    ∃ returned after, (recordChanges settings device scanner changes).run clocked world =
      (some returned, after) := by
  induction changes generalizing world with
  | nil => exact ⟨_, _, rfl⟩
  | cons change rest ih =>
    obtain ⟨recorded, middle, hhead⟩ := recordDeviceEvent_returns settings scanner world device
      (eventTypeFor change) (hsince 1)
    obtain ⟨since, inserted, -, hrecords, -⟩ := recordDeviceEvent_spec hhead
    have hlater : ∀ n, settings.since (middle.clock n) ≠ none := by
      intro n
      rw [hrecords.clock]
      exact hsince _
    obtain ⟨kept, last, htail⟩ := ih middle hlater
    unfold recordChanges
    rw [Program.run_bind, hhead]
    simp only
    rw [Program.run_bind, htail]
    exact ⟨_, _, rfl⟩

/-- Recording a sighting of a known device returns when the window never leaves the calendar. -/
theorem recordKnownDevice_returns (existing : Device) (world : World)
    (hsince : ∀ n, settings.since (world.clock n) ≠ none) :
    ∃ returned after, (recordKnownDevice settings existing device scanner).run clocked world =
      (some returned, after) := by
  obtain ⟨recorded, seen, hseen⟩ := recordDeviceEvent_returns settings scanner world device
    .deviceSeen (hsince 1)
  obtain ⟨since, inserted, -, hrecords, -⟩ := recordDeviceEvent_spec hseen
  have hlater : ∀ n, settings.since (seen.tick.clock n) ≠ none := by
    intro n
    rw [World.tick_clock, hrecords.clock]
    exact hsince _
  unfold recordKnownDevice
  rw [Program.run_bind, hseen]
  exact recordChanges_returns settings scanner device _ seen.tick hlater

end Returns

end Oott
