import Oott.Operations
import Mathlib.Data.List.Basic

/-!
# Announcing returns

The stored `last_seen` of a device is the time of its latest sighting, by whichever scanner, and no
event of the device is later than that (`TracksSightings`). So when a device returns after an
absence at least as long as the notification threshold, every `DeviceBackOnline` event of it is at
least as old as the absence, which a shorter deduplication window does not reach: the return is
announced, and with the length of the absence (`return_announced`).
-/

set_option autoImplicit false
set_option relaxedAutoImplicit false

namespace Oott

open Effects

/-- The histories of operations that are each performed at one instant, the latest first. -/
abbrev TimedHistory := List (Completed (Timed Instant Operation)
  (fun timed ↦ timed.activity.Outcome) Database)

/-- The time of an operation that is a sighting of the MAC. -/
def sightingOf (macAddress : String) : Timed Instant Operation → Option Instant
  | ⟨time, .sighting device _⟩ => if NocaseEq device.macAddress macAddress then some time else none
  | ⟨_, .request _⟩ => none
  | ⟨_, .sweep⟩ => none

/-- The time of the latest sighting of the MAC, by any scanner. -/
def lastSighting (macAddress : String) (history : TimedHistory) : Option Instant :=
  history.findSome? fun completed ↦ sightingOf macAddress completed.activity

/-- A sighting hands over a device that was built at the instant it is recorded. -/
def BuiltWhenRecorded : Timed Instant Operation → Prop
  | ⟨time, .sighting device _⟩ => device.lastSeen = time
  | ⟨_, .request _⟩ => True
  | ⟨_, .sweep⟩ => True

/-- The length of the absence that a change announces, in nanoseconds. -/
def DeviceChange.absence : DeviceChange → Option Int
  | .backOnline _ absentFor => some absentFor.nanos
  | .new _ => none
  | .changed _ _ _ _ => none

/-- The absences that a sighting announces: none when it has aborted. -/
def absences (outcome : Option (List DeviceChange)) : List Int :=
  (outcome.getD []).filterMap DeviceChange.absence

/-- The stored time of a device is that of its latest sighting, and no event of a device is later.
-/
structure TracksSightings (history : TimedHistory) (db : Database) : Prop where
  lastSeen : ∀ row ∈ db.devices.rows, lastSighting row.macAddress history = some row.lastSeen
  createdOn : ∀ event ∈ db.deviceEvents, ∃ time,
    lastSighting event.macAddress history = some time ∧ event.createdOn ≤ time

/-! ### The latest sighting -/

section LastSighting

variable {macAddress : String} {history : TimedHistory}
  {completed : Completed (Timed Instant Operation) (fun timed ↦ timed.activity.Outcome) Database}

theorem lastSighting_cons_of_none (hnone : sightingOf macAddress completed.activity = none) :
    lastSighting macAddress (completed :: history) = lastSighting macAddress history := by
  unfold lastSighting
  rw [List.findSome?_cons, hnone]

theorem lastSighting_cons_of_some {time : Instant}
    (htime : sightingOf macAddress completed.activity = some time) :
    lastSighting macAddress (completed :: history) = some time := by
  unfold lastSighting
  rw [List.findSome?_cons, htime]

/-- The latest sighting is not later than any time that the history does not pass. -/
theorem lastSighting_le {instant time : Instant}
    (htimes : ∀ completed ∈ history, completed.activity.time ≤ instant)
    (hlast : lastSighting macAddress history = some time) : time ≤ instant := by
  obtain ⟨completed, hmem, hsighting⟩ := List.exists_of_findSome?_eq_some hlast
  have hbefore := htimes completed hmem
  obtain ⟨before, ⟨performed, operation⟩, outcome, after⟩ := completed
  cases operation with
  | sighting device scanner =>
    simp only [sightingOf, Option.ite_none_right_eq_some, Option.some.injEq] at hsighting
    rw [← hsighting.2]
    exact hbefore
  | request served => cases hsighting
  | sweep => cases hsighting

theorem lastSighting_congr {other : String} (hmac : NocaseEq macAddress other) :
    lastSighting macAddress history = lastSighting other history := by
  have hiff : ∀ seen : String, NocaseEq seen macAddress ↔ NocaseEq seen other :=
    fun seen ↦ ⟨fun h ↦ h.trans hmac, fun h ↦ h.trans hmac.symm⟩
  unfold lastSighting
  congr 1
  funext completed
  obtain ⟨before, ⟨performed, operation⟩, outcome, after⟩ := completed
  cases operation with
  | sighting device scanner => simp only [sightingOf, hiff]
  | request served => rfl
  | sweep => rfl

end LastSighting

/-! ### What one operation leaves -/

/-- A sighting at the instant has written the row of the device and added events of it, all of them
stamped with the instant. -/
structure Stamped (macAddress : String) (instant : Instant) (before after : Database) : Prop where
  rows : ∀ row ∈ after.devices.rows,
    NocaseEq row.macAddress macAddress ∧ row.lastSeen = instant ∨
      ¬ NocaseEq row.macAddress macAddress ∧ row ∈ before.devices.rows
  deviceEvents : ∀ event ∈ after.deviceEvents,
    NocaseEq event.macAddress macAddress ∧ event.createdOn = instant ∨ event ∈ before.deviceEvents

/-- No device has been sighted: every row has the MAC and the time of an earlier one, and no event
has been added. -/
structure Unsighted (before after : Database) : Prop where
  rows : ∀ row ∈ after.devices.rows, ∃ old ∈ before.devices.rows,
    row.macAddress = old.macAddress ∧ row.lastSeen = old.lastSeen
  deviceEvents : ∀ event ∈ after.deviceEvents, event ∈ before.deviceEvents

theorem Unsighted.refl (db : Database) : Unsighted db db :=
  ⟨fun row hrow ↦ ⟨row, hrow, rfl, rfl⟩, fun _ hevent ↦ hevent⟩

section Operations

variable {settings : Settings} {device : Device} {scanner : DeviceEventScanner} {instant : Instant}
  {before after : Database}

/-- On a clock that stands at the instant, only stamped events of the device have been added. -/
structure AddsEvents (macAddress : String) (instant : Instant) (base : Database) (world : World) :
    Prop where
  clock : ∀ n, world.clock n = instant
  devices : world.db.devices = base.devices
  deviceEvents : ∀ event ∈ world.db.deviceEvents,
    NocaseEq event.macAddress macAddress ∧ event.createdOn = instant ∨ event ∈ base.deviceEvents

theorem addsEvents_keptByRecording (base : Database) :
    KeptByRecording settings device scanner (AddsEvents device.macAddress instant base) where
  tick := fun world hadds ↦ ⟨fun n ↦ hadds.clock (n + 1), hadds.devices, hadds.deviceEvents⟩
  insert := by
    intro world eventType since hadds _ _
    refine ⟨fun n ↦ hadds.clock (n + 2), hadds.devices, ?_⟩
    refine List.forall_mem_append.mpr ⟨hadds.deviceEvents, List.forall_mem_singleton.mpr ?_⟩
    exact Or.inl ⟨nocaseEq_normalizeMac _, hadds.clock 0⟩

/-- A sighting stamps what it writes with the instant at which it is recorded. -/
theorem recordSighting_stamped {outcome : Option (List DeviceChange)}
    (hbuilt : device.lastSeen = instant)
    (hrun : (recordSighting settings device scanner).run clocked (.still before instant) =
      (outcome, .still after instant)) : Stamped device.macAddress instant before after := by
  have hadds : ∃ base, AddsEvents device.macAddress instant base (.still after instant) ∧
      base.deviceEvents = before.deviceEvents ∧ ∀ row ∈ base.devices.rows,
        NocaseEq row.macAddress device.macAddress ∧ row.lastSeen = instant ∨
          ¬ NocaseEq row.macAddress device.macAddress ∧ row ∈ before.devices.rows := by
    cases hselect : before.devices.select (normalizeMac device.macAddress) with
    | some recorded =>
      rw [run_recordSighting_known hselect] at hrun
      have hafter : _ = World.still after instant := congrArg Prod.snd hrun
      refine ⟨before.updateDevices (sightingClause recorded device instant)
        (normalizeMac device.macAddress), ?_, rfl, fun row hrow ↦ ?_⟩
      · rw [← hafter]
        have hkept := @addsEvents_keptByRecording settings (reconcile recorded device) scanner
          instant
        refine recordKnownDevice_keeps (hkept _) recorded _ ?_
        exact ⟨fun _ ↦ rfl, rfl, fun _ hevent ↦ Or.inr hevent⟩
      · obtain ⟨old, hold, hupdated⟩ := DevicesTable.mem_update.mp hrow
        rw [← hupdated]
        unfold DevicesTable.updateRow
        by_cases hmac : NocaseEq old.macAddress (normalizeMac device.macAddress)
        · rw [if_pos hmac]
          exact Or.inl ⟨hmac.trans (nocaseEq_normalizeMac _), rfl⟩
        · rw [if_neg hmac]
          exact Or.inr ⟨fun h ↦ hmac (h.trans (nocaseEq_normalizeMac _).symm), hold⟩
    | none =>
      obtain ⟨table, hinsert, hnew⟩ :=
        @run_recordSighting_new settings device scanner (.still before instant) hselect
      rw [hnew] at hrun
      have hafter : _ = World.still after instant := congrArg Prod.snd hrun
      refine ⟨{ before with devices := table }, ?_, rfl, fun row hrow ↦ ?_⟩
      · rw [← hafter]
        refine (recordNewDevice_keeps (addsEvents_keptByRecording _)).bind (fun _ ↦ .ret _) _ ?_
        exact ⟨fun _ ↦ rfl, rfl, fun _ hevent ↦ Or.inr hevent⟩
      · obtain ⟨hrows, hfree⟩ := DevicesTable.rows_of_insert hinsert
        change row ∈ table.rows at hrow
        rw [hrows, List.mem_append, List.mem_singleton] at hrow
        rcases hrow with hold | hsame
        · refine Or.inr ⟨fun hmac ↦ ?_, hold⟩
          exact DevicesTable.select_eq_none_iff.mp hfree row hold
            (hmac.trans (nocaseEq_normalizeMac _).symm)
        · rw [hsame]
          exact Or.inl ⟨nocaseEq_normalizeMac _, hbuilt⟩
  obtain ⟨base, hadds, hevents, hrows⟩ := hadds
  refine ⟨fun row hrow ↦ hrows row ?_, fun event hevent ↦ ?_⟩
  · rw [← hadds.devices]
    exact hrow
  · rw [← hevents]
    exact hadds.deviceEvents event hevent

/-- A request writes no time and adds no event. -/
theorem DeviceRequest.unsighted {request : DeviceRequest} {world after : World}
    {outcome : Option Reply} (hexec : Program.Exec Faulty request.handler world outcome after) :
    Unsighted world.db after.db := by
  rcases exec_handler hexec with hsame | ⟨found, -, -, -, hwrite⟩
  · rw [hsame]
    exact .refl world.db
  · rw [hwrite]
    have hupdate : ∀ (clause : SetClause) (macAddress : String), clause.lastSeen = none →
        Unsighted world.db (world.db.updateDevices clause macAddress) := by
      intro clause macAddress hclause
      refine ⟨fun row hrow ↦ ?_, fun _ hevent ↦ hevent⟩
      obtain ⟨old, hold, hupdated⟩ := DevicesTable.mem_update.mp hrow
      refine ⟨old, hold, ?_⟩
      rw [← hupdated]
      unfold DevicesTable.updateRow
      split_ifs
      · simp [SetClause.apply, hclause]
      · exact ⟨rfl, rfl⟩
    cases request with
    | register payload => exact hupdate _ _ rfl
    | update macAddress payload => exact hupdate _ _ rfl
    | unregister macAddress => exact hupdate _ _ rfl
    | delete macAddress =>
      refine ⟨fun row hrow ↦ ⟨row, (DevicesTable.mem_delete.mp hrow).1, rfl, rfl⟩, ?_⟩
      exact fun event hevent ↦ (List.mem_filter.mp hevent).1

/-- A sweep writes no time and adds no event. -/
theorem sweep_unsighted {world after : World} {outcome : Option Unit}
    (hexec : Program.Exec Faulty (sweep settings) world outcome after) :
    Unsighted world.db after.db := by
  rcases exec_sweep hexec with hsame | ⟨cutoff, hdeleted⟩
  · rw [hsame]
    exact .refl world.db
  · rw [hdeleted]
    exact ⟨fun row hrow ↦ ⟨row, hrow, rfl, rfl⟩, fun event hevent ↦ (List.mem_filter.mp hevent).1⟩

end Operations

/-! ### The invariant -/

section Tracking

variable {settings : Settings} {history : TimedHistory}
  {completed : Completed (Timed Instant Operation) (fun timed ↦ timed.activity.Outcome) Database}

theorem TracksSightings.unsighted (htracks : TracksSightings history completed.before)
    (hnone : ∀ macAddress, sightingOf macAddress completed.activity = none)
    (hunsighted : Unsighted completed.before completed.after) :
    TracksSightings (completed :: history) completed.after where
  lastSeen := by
    intro row hrow
    obtain ⟨old, hold, hmac, hseen⟩ := hunsighted.rows row hrow
    rw [lastSighting_cons_of_none (hnone _), hmac, hseen]
    exact htracks.lastSeen old hold
  createdOn := by
    intro event hevent
    rw [lastSighting_cons_of_none (hnone _)]
    exact htracks.createdOn event (hunsighted.deviceEvents event hevent)

theorem TracksSightings.stamped (htracks : TracksSightings history completed.before)
    {macAddress : String} {instant : Instant}
    (hsame : ∀ other, NocaseEq other macAddress →
      sightingOf other completed.activity = some instant)
    (hother : ∀ other, ¬ NocaseEq other macAddress → sightingOf other completed.activity = none)
    (htimes : ∀ earlier ∈ history, earlier.activity.time ≤ instant)
    (hstamped : Stamped macAddress instant completed.before completed.after) :
    TracksSightings (completed :: history) completed.after where
  lastSeen := by
    intro row hrow
    rcases hstamped.rows row hrow with ⟨hmac, hseen⟩ | ⟨hmac, hold⟩
    · rw [lastSighting_cons_of_some (hsame _ hmac), hseen]
    · rw [lastSighting_cons_of_none (hother _ hmac)]
      exact htracks.lastSeen row hold
  createdOn := by
    intro event hevent
    rcases hstamped.deviceEvents event hevent with ⟨hmac, hcreated⟩ | hold
    · exact ⟨instant, lastSighting_cons_of_some (hsame _ hmac), le_of_eq hcreated⟩
    · obtain ⟨time, hlast, hcreated⟩ := htracks.createdOn event hold
      by_cases hmac : NocaseEq event.macAddress macAddress
      · refine ⟨instant, lastSighting_cons_of_some (hsame _ hmac), ?_⟩
        exact hcreated.trans (lastSighting_le htimes hlast)
      · refine ⟨time, ?_, hcreated⟩
        rw [lastSighting_cons_of_none (hother _ hmac)]
        exact hlast

/-- In every history from an empty database whose times do not decrease, `last_seen` is the time of
the latest sighting and no event of a device is later. -/
theorem tracksSightings_of_history {last : Database}
    (hrun : Sequential (PerformAt (Operation.program settings)) .empty history last)
    (hclock : Chronological history)
    (hbuilt : ∀ completed ∈ history, BuiltWhenRecorded completed.activity) :
    TracksSightings history last := by
  refine hrun.chronological_invariant TracksSightings
    (fun completed ↦ BuiltWhenRecorded completed.activity)
    ⟨List.forall_mem_nil _, List.forall_mem_nil _⟩ ?_ hclock hbuilt
  intro history completed hperform hcompleted htimes htracks
  obtain ⟨before, ⟨instant, operation⟩, outcome, after⟩ := completed
  have hexec := Program.exec_run Faulty.allows_clocked (operation.program settings)
    (.still before instant)
  change (operation.program settings).run clocked (.still before instant) = _ at hperform
  rw [hperform] at hexec
  cases operation with
  | sighting device scanner =>
    refine htracks.stamped (fun other hmac ↦ ?_) (fun other hmac ↦ ?_) htimes
      (recordSighting_stamped hcompleted hperform)
    · exact if_pos hmac.symm
    · exact if_neg fun h ↦ hmac h.symm
  | request served => exact htracks.unsighted (fun _ ↦ rfl) (DeviceRequest.unsighted hexec)
  | sweep => exact htracks.unsighted (fun _ ↦ rfl) (sweep_unsighted hexec)

end Tracking

/-! ### The announcement -/

section Announcement

variable {settings : Settings} {device recorded : Device} {scanner : DeviceEventScanner}
  {instant : Instant}

theorem Instant.elapsedSince_nanos {earlier : Instant} (hearlier : earlier ≤ instant) :
    ((instant.elapsedSince earlier).nanos : Int) = instant.nanos - earlier.nanos := by
  rw [Instant.le_iff] at hearlier
  exact Int.toNat_of_nonneg (by omega)

/-- The detection announces an absence that is long enough, with its length. -/
theorem changesAt_absences {existing new : Device} (hearlier : existing.lastSeen ≤ instant) :
    (changesAt settings existing new instant).filterMap DeviceChange.absence =
      if (settings.notifyWhenNotSeenFor.nanos : Int) ≤ instant.nanos - existing.lastSeen.nanos then
        [instant.nanos - existing.lastSeen.nanos] else [] := by
  have helapsed := Instant.elapsedSince_nanos hearlier
  have hlong : settings.notifyWhenNotSeenFor ≤ instant.elapsedSince existing.lastSeen ↔
      (settings.notifyWhenNotSeenFor.nanos : Int) ≤ instant.nanos - existing.lastSeen.nanos := by
    rw [StdDuration.le_iff, ← helapsed, Int.ofNat_le]
  unfold changesAt
  simp only [hlong, List.filterMap_append]
  rw [← helapsed]
  split_ifs <;> rfl

/-- After an absence longer than the window, the window does not reach back to the last sighting. -/
theorem Settings.since_of_absence {earlier : Instant}
    (hwindow : settings.deduplicationWindow < settings.notifyWhenNotSeenFor)
    (habsent : (settings.notifyWhenNotSeenFor.nanos : Int) ≤ instant.nanos - earlier.nanos) :
    ∃ since, settings.since instant = some since ∧ earlier < since := by
  have heffective := settings.effectiveWindow_le
  have hnonneg := settings.effectiveWindow_nonneg
  have hearlier := earlier.inRange
  have hinstant := instant.inRange
  rw [StdDuration.lt_iff] at hwindow
  refine ⟨⟨instant.nanos - settings.effectiveWindow.nanos, by omega⟩, ?_, ?_⟩
  · exact Instant.sub_eq_some.mpr rfl
  · rw [Instant.lt_iff]
    change earlier.nanos < instant.nanos - settings.effectiveWindow.nanos
    omega

/-- A sighting of a device that no event is later than announces the absence exactly when it is long
enough. -/
theorem recordSighting_absences {before after : Database} {outcome : Option (List DeviceChange)}
    (hwindow : settings.deduplicationWindow < settings.notifyWhenNotSeenFor)
    (hknown : before.devices.select (normalizeMac device.macAddress) = some recorded)
    (hearlier : recorded.lastSeen ≤ instant)
    (hevents : ∀ event ∈ before.deviceEvents, NocaseEq event.macAddress device.macAddress →
      event.createdOn ≤ recorded.lastSeen)
    (hrun : (recordSighting settings device scanner).run clocked (.still before instant) =
      (outcome, .still after instant)) :
    absences outcome =
      if (settings.notifyWhenNotSeenFor.nanos : Int) ≤ instant.nanos - recorded.lastSeen.nanos then
        [instant.nanos - recorded.lastSeen.nanos] else [] := by
  rw [run_recordSighting_known hknown] at hrun
  have hfound := @changesAt_absences settings instant recorded (reconcile recorded device) hearlier
  by_cases habsent : (settings.notifyWhenNotSeenFor.nanos : Int) ≤
      instant.nanos - recorded.lastSeen.nanos
  · rw [if_pos habsent] at hfound ⊢
    obtain ⟨since, hsince, hlast⟩ := Settings.since_of_absence hwindow habsent
    obtain ⟨returned, final, hreturns⟩ := recordKnownDevice_returns settings scanner
      (reconcile recorded device) recorded ((World.still before instant).afterSeen recorded device)
      fun _ ↦ by
        change settings.since instant ≠ none
        rw [hsince]
        exact Option.some_ne_none since
    rw [hreturns] at hrun
    obtain ⟨houtcome, -⟩ := Prod.mk.inj hrun
    obtain ⟨inserted, readings, -, hsublist, hannounced⟩ := recordKnownDevice_spec hreturns
    have hkept := hsublist.filterMap DeviceChange.absence
    change (returned.filterMap DeviceChange.absence).Sublist ((changesAt settings recorded
      (reconcile recorded device) instant).filterMap DeviceChange.absence) at hkept
    rw [hfound] at hkept
    have hlong : settings.notifyWhenNotSeenFor ≤ instant.elapsedSince recorded.lastSeen := by
      rw [StdDuration.le_iff, ← Int.ofNat_le, Instant.elapsedSince_nanos hearlier]
      exact habsent
    have hchange := backOnline_mem_changesAt.mpr
      ⟨hlong, Eq.refl (reconcile recorded device), Eq.refl (instant.elapsedSince recorded.lastSeen)⟩
    -- An event in the window would be later than the last sighting.
    have hmem := (hannounced _ hchange).mem_returned fun _ start hstart row hrow hmac ↦ by
      change settings.since instant = some start at hstart
      rw [hsince] at hstart
      rw [← Option.some.inj hstart]
      exact (hevents row hrow hmac).trans_lt hlast
    rw [← houtcome]
    rcases List.sublist_singleton.mp hkept with hnone | hone
    · have habsence : _ ∈ returned.filterMap DeviceChange.absence :=
        List.mem_filterMap.mpr ⟨_, hmem, rfl⟩
      rw [hnone] at habsence
      cases habsence
    · exact hone
  · rw [if_neg habsent] at hfound ⊢
    rcases outcome with - | returned
    · rfl
    · obtain ⟨inserted, readings, -, hsublist, -⟩ := recordKnownDevice_spec hrun
      have hkept := hsublist.filterMap DeviceChange.absence
      change (absences (some returned)).Sublist ((changesAt settings recorded
        (reconcile recorded device) instant).filterMap DeviceChange.absence) at hkept
      rw [hfound] at hkept
      exact List.sublist_nil.mp hkept

end Announcement

/-- Each return is announced once, with its length: in every history of operations from an empty
database, each performed at one instant and the instants not decreasing, a sighting of a known
device announces the time since the latest sighting of its MAC by any scanner if that reaches the
threshold, and no absence otherwise. The deduplication window is shorter than the threshold. -/
theorem return_announced (settings : Settings)
    (hwindow : settings.deduplicationWindow < settings.notifyWhenNotSeenFor)
    {earlier later : TimedHistory} {before after last : Database} {instant : Instant}
    {device recorded : Device} {scanner : DeviceEventScanner} {outcome : Option (List DeviceChange)}
    (hrun : Sequential (PerformAt (Operation.program settings)) .empty
      (later ++ ⟨before, ⟨instant, .sighting device scanner⟩, outcome, after⟩ :: earlier) last)
    (hclock : Chronological
      (later ++ ⟨before, ⟨instant, .sighting device scanner⟩, outcome, after⟩ :: earlier))
    (hbuilt : ∀ completed ∈ earlier, BuiltWhenRecorded completed.activity)
    (hknown : before.devices.select (normalizeMac device.macAddress) = some recorded) :
    ∃ previous, lastSighting device.macAddress earlier = some previous ∧
      absences outcome =
        if (settings.notifyWhenNotSeenFor.nanos : Int) ≤ instant.nanos - previous.nanos then
          [instant.nanos - previous.nanos] else [] := by
  obtain ⟨hbefore, hperform⟩ := hrun.split
  obtain ⟨htimes, hordered⟩ := List.pairwise_cons.mp (List.pairwise_append.mp hclock).2.1
  have htracks := tracksSightings_of_history hbefore hordered hbuilt
  have hrow := DevicesTable.select_eq_some_iff.mp hknown
  have hmac : NocaseEq recorded.macAddress device.macAddress :=
    hrow.2.trans (nocaseEq_normalizeMac _)
  have hlast : lastSighting device.macAddress earlier = some recorded.lastSeen := by
    rw [← lastSighting_congr hmac]
    exact htracks.lastSeen recorded hrow.1
  refine ⟨recorded.lastSeen, hlast, ?_⟩
  refine recordSighting_absences hwindow hknown (lastSighting_le htimes hlast) ?_ hperform
  intro event hevent hsame
  obtain ⟨time, htime, hcreated⟩ := htracks.createdOn event hevent
  rw [lastSighting_congr hsame, hlast] at htime
  rw [Option.some.inj htime]
  exact hcreated

/-- A phone that was seen at the epoch and comes back after ten days. -/
def phoneSeenAt (instant : Instant) : Device :=
  buildDevice ⟨[], [], []⟩ "aa:00:00:00:00:01" "10.0.0.1" [] none instant

/-- Ten days after the epoch. -/
def Instant.tenDays : Instant := ⟨864000 * 10 ^ 9, by decide⟩

/-- The database after mDNS has found the phone at the epoch. -/
def phoneFound : Database :=
  ((recordSighting .default (phoneSeenAt .epoch) .mdns).run clocked (.still .empty .epoch)).2.db

/-- When ARP sees the phone again, the ten days are announced. -/
theorem return_announced_tenDays :
    absences ((recordSighting .default (phoneSeenAt .tenDays) .arp).run clocked
      (.still phoneFound .tenDays)).1 = [864000 * 10 ^ 9] := by
  have hwindow : Settings.default.deduplicationWindow < Settings.default.notifyWhenNotSeenFor := by
    rw [StdDuration.lt_iff]
    decide
  have hknown : phoneFound.devices.select (normalizeMac (phoneSeenAt .tenDays).macAddress) =
      some (phoneSeenAt .epoch) := by decide +kernel
  have hfound := performAt_run (Operation.program .default)
    ⟨.epoch, .sighting (phoneSeenAt .epoch) .mdns⟩ .empty
  have hseen := performAt_run (Operation.program .default)
    ⟨.tenDays, .sighting (phoneSeenAt .tenDays) .arp⟩ phoneFound
  have hclock : Instant.epoch ≤ .tenDays := (Instant.le_iff _ _).mpr (by decide)
  have hbuilt : BuiltWhenRecorded ⟨.epoch, .sighting (phoneSeenAt .epoch) .mdns⟩ := rfl
  have hlast : ∀ before outcome after, lastSighting (phoneSeenAt .tenDays).macAddress
      [⟨before, ⟨.epoch, .sighting (phoneSeenAt .epoch) .mdns⟩, outcome, after⟩] =
        some .epoch := fun _ _ _ ↦ rfl
  obtain ⟨previous, hprevious, habsences⟩ := @return_announced .default hwindow _ [] _ _ _ _ _ _ _ _
    ((Sequential.start.extend hfound).extend hseen)
    (List.pairwise_cons.mpr ⟨List.forall_mem_singleton.mpr hclock, List.pairwise_singleton _ _⟩)
    (List.forall_mem_singleton.mpr hbuilt) hknown
  rw [hlast] at hprevious
  rw [← Option.some.inj hprevious] at habsences
  exact habsences

end Oott
