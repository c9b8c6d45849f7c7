import Oott.Database.Timestamps
import Oott.Events.Deduplication
import Oott.Retention
import Oott.Scanners.ActiveLoop

/-!
# What the configured durations do

Five durations of the settings go into the arithmetic of the backend: the retention window, the
deduplication window, the waits of the two active scanners, and the duration of an ARP scan. Each is
any `std::time::Duration`, and nothing checks it when the settings are read.

Three types hold times, and the widest is the first: a `std::time::Duration`, a `chrono::Duration`,
a `DateTime<Utc>`. A duration that passes the guarded conversion from the first to the second can
still lead out of the third, where the operator panics. The places differ in what they do with a
conversion that fails: the retention cleaner skips its turn, the loops of the scanners panic, and
`record_event` takes an empty window, so that it suppresses nothing any more.

`ConfiguredDurations.hold_iff` says how long each duration may be at a reading of the clock for its
place to do what it is for. Up to a quarter of a million years all of them may be, before the year
10000 (`ConfiguredDurations.fit_of_le`). `sleep` and `timeout` take any duration, and do no
arithmetic here.
-/

set_option autoImplicit false
set_option relaxedAutoImplicit false

namespace Oott

open Effects

/-! ### The deduplication window -/

/-- The row is one of the same sighting as the event, by what the backend compares, and is no older
than the window, by the times in the settings and in the row. -/
def DeviceEvent.Repeats (event : DeviceEvent) (window : StdDuration) (now : Instant)
    (row : DeviceEvent) : Prop :=
  NocaseEq row.macAddress (normalizeMac event.macAddress) ∧ row.scanner = event.scanner ∧
    row.eventType = event.eventType ∧ ¬ Expired window now row.createdOn

instance (event : DeviceEvent) (window : StdDuration) (now : Instant) :
    DecidablePred (event.Repeats window now) :=
  fun _ ↦ inferInstanceAs (Decidable (_ ∧ _ ∧ _ ∧ _))

/-- What `record_event` is for: it suppresses an event that repeats one in the window, and records
any other. -/
def recordedOnce (window : StdDuration) (event : DeviceEvent) (world : World) :
    Option Bool × World :=
  if ∃ row ∈ world.db.deviceEvents, event.Repeats window (world.clock 0) row then
    (some false, world.tick)
  else (some true, world.tick.withDb (world.db.insertEvent
    { event with macAddress := normalizeMac event.macAddress }))

section Deduplication

variable {settings : Settings} {now : Instant}

/-- A window whose start is in the calendar is used as it is. -/
theorem Settings.since_eq_some
    (hback : (settings.deduplicationWindow.nanos : Int) ≤ now.nanos - Instant.minNanos) :
    ∃ since : Instant, since.nanos = now.nanos - settings.deduplicationWindow.nanos ∧
      settings.since now = some since := by
  have hnow := now.inRange.2
  have hshort : (settings.deduplicationWindow.nanos : Int) ≤ TimeDelta.maxNanos := by
    unfold TimeDelta.maxNanos
    unfold Instant.maxNanos at hnow
    unfold Instant.minNanos at hback
    omega
  refine ⟨⟨now.nanos - settings.deduplicationWindow.nanos, by omega, by omega⟩, rfl, ?_⟩
  unfold Settings.since
  rw [Instant.sub_eq_some, Settings.effectiveWindow_eq hshort]

/-- The subtraction of `record_event` panics exactly where that of the retention cleaner would. -/
theorem Settings.since_eq_none_iff :
    settings.since now = none ↔ ¬ WindowInCalendar settings.deduplicationWindow now := by
  constructor
  · intro hnone hwindow
    rcases hwindow with hlong | hback
    · rw [Settings.since_of_long hlong] at hnone
      cases hnone
    · obtain ⟨since, -, hsince⟩ := Settings.since_eq_some hback
      cases hnone.symm.trans hsince
  · intro hwindow
    obtain ⟨hshort, hback⟩ := not_or.mp hwindow
    rw [Option.eq_none_iff_forall_ne_some]
    intro since hsince
    have hnanos := Instant.sub_eq_some.mp hsince
    have hrange := since.inRange.1
    rw [Settings.effectiveWindow_eq (not_lt.mp hshort)] at hnanos
    omega

/-- With the start of the window in the calendar, `record_event` does what it is for. -/
theorem run_recordEvent_eq_recordedOnce
    (hback : (settings.deduplicationWindow.nanos : Int) ≤ now.nanos - Instant.minNanos)
    {world : World} (hclock : world.clock 0 = now) (event : DeviceEvent) :
    (recordEvent settings event).run clocked world =
      recordedOnce settings.deduplicationWindow event world := by
  subst hclock
  obtain ⟨since, hnanos, hsince⟩ := Settings.since_eq_some hback
  have hmatches : ∀ row : DeviceEvent,
      row.Matches (normalizeMac event.macAddress) event.scanner event.eventType since ↔
        event.Repeats settings.deduplicationWindow (world.clock 0) row := by
    intro row
    unfold DeviceEvent.Matches DeviceEvent.Repeats Expired
    rw [Instant.le_iff, hnanos]
    refine and_congr_right fun _ ↦ and_congr_right fun _ ↦ and_congr_right fun _ ↦ ?_
    omega
  rw [run_recordEvent settings world event hsince, recordedOnce]
  simp only [countEvents_pos_iff, hmatches]

/-- With the start of the window out of the calendar it does not: it panics, or it records an event
that repeats one of the first instant of the calendar. -/
theorem exists_run_recordEvent_ne (hnow : Instant.minNanos < now.nanos)
    (hback : ¬ (settings.deduplicationWindow.nanos : Int) ≤ now.nanos - Instant.minNanos)
    (event : DeviceEvent) :
    ∃ world : World, world.clock 0 = now ∧ (recordEvent settings event).run clocked world ≠
      recordedOnce settings.deduplicationWindow event world := by
  let first : DeviceEvent :=
    { event with
      macAddress := normalizeMac event.macAddress
      createdOn := ⟨Instant.minNanos, by decide⟩ }
  let world : World := .still { Database.empty with deviceEvents := [first] } now
  have hrepeats : event.Repeats settings.deduplicationWindow now first := by
    refine ⟨NocaseEq.refl _, rfl, rfl, ?_⟩
    change ¬ (settings.deduplicationWindow.nanos : Int) < now.nanos - Instant.minNanos
    omega
  have hsuppressed : (recordedOnce settings.deduplicationWindow event world).1 = some false := by
    unfold recordedOnce
    rw [if_pos ⟨first, List.mem_singleton_self _, hrepeats⟩]
  refine ⟨world, rfl, fun hrun ↦ ?_⟩
  rw [← hrun] at hsuppressed
  by_cases hlong : TimeDelta.maxNanos < (settings.deduplicationWindow.nanos : Int)
  · -- The window is taken as an empty one, and the earlier row is not in it.
    have hsince : settings.since (world.clock 0) = some now := Settings.since_of_long hlong
    have hnone : ¬ 0 < world.db.countEvents (normalizeMac event.macAddress) event.scanner
        event.eventType now := by
      rw [countEvents_pos_iff]
      rintro ⟨row, hrow, -, -, -, hafter⟩
      rw [List.mem_singleton.mp hrow, Instant.le_iff] at hafter
      exact absurd hafter (not_le.mpr hnow)
    rw [run_recordEvent settings world event hsince, if_neg hnone] at hsuppressed
    cases hsuppressed
  · -- The window is a `chrono::Duration`, and the subtraction panics.
    have hsince : settings.since (world.clock 0) = none :=
      Settings.since_eq_none_iff.mpr (not_or.mpr ⟨hlong, hback⟩)
    rw [run_recordEvent_of_none settings world hsince] at hsuppressed
    cases hsuppressed

end Deduplication

/-! ### The waits between scans -/

/-- The next scan is the wait after the reading, whenever that is in the calendar. -/
theorem nextScanAt_eq_some {wait : StdDuration} {now next : Instant} :
    nextScanAt wait now = some next ↔ next.nanos = now.nanos + wait.nanos := by
  unfold nextScanAt
  rw [Option.bind_eq_bind, Option.bind_eq_some_iff]
  constructor
  · rintro ⟨delta, hdelta, hnext⟩
    rw [Instant.add_eq_some.mp hnext, TimeDelta.fromStd_eq_some.mp hdelta]
  · intro hnanos
    have hnow := now.inRange.1
    have hnext := next.inRange.2
    have hshort : (wait.nanos : Int) ≤ TimeDelta.maxNanos := by
      unfold TimeDelta.maxNanos
      unfold Instant.minNanos at hnow
      unfold Instant.maxNanos at hnext
      omega
    refine ⟨⟨wait.nanos, ?_, hshort⟩, TimeDelta.fromStd_eq_some.mpr rfl, ?_⟩
    · unfold TimeDelta.maxNanos
      omega
    · exact Instant.add_eq_some.mpr hnanos

/-- The loop sleeps after the reading, and its status says for how long. -/
def ScanLoop.SleepsUntil (loop after : ScanLoop) (nextScanAt : Int) : Prop :=
  ∃ next : Instant, next.nanos = nextScanAt ∧
    after = { loop with status := loop.status.setWaiting next, phase := .sleeping }

/-- The loop of a scanner goes to its sleep, with the next scan the wait after the reading, exactly
when that is in the calendar. -/
theorem scanStep_waited_iff {config : ScanSettings} {scanner : DeviceEventScanner}
    {afterFailure : ScanPhase} {now : Instant} (loop : ScanLoop) (hphase : loop.phase = .finished) :
    (∀ after, ScanStep config scanner afterFailure loop (.waited now) after →
      loop.SleepsUntil after (now.nanos + config.waitBetweenScans.nanos)) ↔
      now.nanos + config.waitBetweenScans.nanos ≤ Instant.maxNanos := by
  constructor
  · intro hsleeps
    obtain ⟨next, hnext, -⟩ := hsleeps _ (.waited now hphase)
    exact hnext ▸ next.inRange.2
  · intro hcalendar after hstep
    have hnow := now.inRange.1
    obtain ⟨next, hnanos⟩ : ∃ next : Instant,
        next.nanos = now.nanos + config.waitBetweenScans.nanos :=
      ⟨⟨now.nanos + config.waitBetweenScans.nanos, by omega, hcalendar⟩, rfl⟩
    refine ⟨next, hnanos, ?_⟩
    cases hstep with
    | waited _ _ => rw [nextScanAt_eq_some.mpr hnanos]

/-! ### The duration of an ARP scan -/

/-- `scan_duration * 2` in `finder::find`, `none` where it panics. -/
def receiverTimeout (scanDuration : StdDuration) : Option StdDuration := scanDuration.mul 2

/-- The receiver has twice the duration of a scan, exactly when that is a duration. -/
theorem receiverTimeout_iff (scanDuration : StdDuration) :
    (∃ timeout, receiverTimeout scanDuration = some timeout ∧
      timeout.nanos = 2 * scanDuration.nanos) ↔
      2 * scanDuration.nanos < StdDuration.limitNanos := by
  constructor
  · rintro ⟨timeout, -, hnanos⟩
    exact hnanos ▸ timeout.inRange
  · intro hrange
    refine ⟨⟨2 * scanDuration.nanos, hrange⟩, ?_, rfl⟩
    exact StdDuration.mul_eq_some.mpr (Nat.mul_comm 2 scanDuration.nanos)

/-! ### All of them -/

/-- The durations of the settings: `retention.window` and `device_events.deduplication_window`,
`arp_scanner.wait_between_scans` and `arp_scanner.scan_duration`, and
`snmp_scanner.wait_between_scans`. -/
structure ConfiguredDurations where
  settings : Settings
  arpWaitBetweenScans : StdDuration
  arpScanDuration : StdDuration
  snmpWaitBetweenScans : StdDuration

namespace ConfiguredDurations

/-- The defaults of the scanners are 30 minutes, 10 minutes and 10 minutes. -/
def default : ConfiguredDurations where
  settings := .default
  arpWaitBetweenScans := .fromSecs 1800
  arpScanDuration := .fromSecs 600
  snmpWaitBetweenScans := .fromSecs 600

/-- What the ARP scanner has of them. -/
def arp (durations : ConfiguredDurations) : ScanSettings :=
  ⟨durations.settings, durations.arpWaitBetweenScans⟩

/-- What the SNMP scanner has of them. -/
def snmp (durations : ConfiguredDurations) : ScanSettings :=
  ⟨durations.settings, durations.snmpWaitBetweenScans⟩

/-- At a reading of the clock, the arithmetic of each place panics nowhere and means what the
settings say. A turn of the retention cleaner deletes what is older than its window, `record_event`
suppresses what repeats an event of its window, each loop sleeps for its wait, and the receiver of
ARP replies has twice the duration of a scan. -/
structure Hold (durations : ConfiguredDurations) (now : Instant) : Prop where
  retention : ∀ (loop : RetentionLoop) (answers : PurgeAnswers),
    loop.turn durations.settings.retentionWindow now answers =
      loop.swept durations.settings.retentionWindow now answers
  deduplication : ∀ world : World, world.clock 0 = now → ∀ event : DeviceEvent,
    (recordEvent durations.settings event).run clocked world =
      recordedOnce durations.settings.deduplicationWindow event world
  arpWait : ∀ loop after : ScanLoop, loop.phase = .finished →
    arpScan durations.arp loop (.waited now) after →
      loop.SleepsUntil after (now.nanos + durations.arpWaitBetweenScans.nanos)
  snmpWait : ∀ loop after : ScanLoop, loop.phase = .finished →
    snmpScan durations.snmp loop (.waited now) after →
      loop.SleepsUntil after (now.nanos + durations.snmpWaitBetweenScans.nanos)
  arpScanDuration : ∃ timeout, receiverTimeout durations.arpScanDuration = some timeout ∧
    timeout.nanos = 2 * durations.arpScanDuration.nanos

/-- At a reading of the clock, the retention window is too long to be a `chrono::Duration` or starts
in the calendar, the deduplication window starts in the calendar, both waits end in it, and twice
the duration of a scan is a `std::time::Duration`. -/
structure Fit (durations : ConfiguredDurations) (now : Instant) : Prop where
  retention : WindowInCalendar durations.settings.retentionWindow now
  deduplication :
    (durations.settings.deduplicationWindow.nanos : Int) ≤ now.nanos - Instant.minNanos
  arpWait : now.nanos + durations.arpWaitBetweenScans.nanos ≤ Instant.maxNanos
  snmpWait : now.nanos + durations.snmpWaitBetweenScans.nanos ≤ Instant.maxNanos
  arpScanDuration : 2 * durations.arpScanDuration.nanos < StdDuration.limitNanos

section Fitting

variable {durations : ConfiguredDurations} {now : Instant}

/-- Durations that fit do what they are for. -/
theorem Fit.hold (hfit : durations.Fit now) : durations.Hold now where
  retention := fun loop answers ↦ loop.turn_eq_swept _ now answers hfit.retention
  deduplication := fun _ hclock ↦ run_recordEvent_eq_recordedOnce hfit.deduplication hclock
  arpWait := fun loop after hphase ↦ (scanStep_waited_iff loop hphase).mpr hfit.arpWait after
  snmpWait := fun loop after hphase ↦ (scanStep_waited_iff loop hphase).mpr hfit.snmpWait after
  arpScanDuration := (receiverTimeout_iff _).mpr hfit.arpScanDuration

/-- No other durations do, on a clock that is past the first instant of the calendar. -/
theorem Hold.fit (hhold : durations.Hold now) (hnow : Instant.minNanos < now.nanos) :
    durations.Fit now := by
  let finished : ScanLoop := { ScanLoop.initial with phase := .finished }
  refine ⟨?_, ?_, ?_, ?_, ?_⟩
  · let loop : RetentionLoop := ⟨⟨[], []⟩, .sweeping, false⟩
    exact (loop.turn_eq_swept_iff _ now ⟨.ok (), .ok ()⟩).mp (hhold.retention _ _)
  · by_contra hback
    obtain ⟨world, hclock, hne⟩ := exists_run_recordEvent_ne hnow hback
      (.new "" now .deviceSeen "" "" .arp)
    exact hne (hhold.deduplication world hclock _)
  · have hwaits := fun after ↦ hhold.arpWait finished after rfl
    exact (scanStep_waited_iff finished rfl).mp hwaits
  · have hwaits := fun after ↦ hhold.snmpWait finished after rfl
    exact (scanStep_waited_iff finished rfl).mp hwaits
  · exact (receiverTimeout_iff _).mp hhold.arpScanDuration

end Fitting

/-- All five. -/
def all (durations : ConfiguredDurations) : List StdDuration :=
  [durations.settings.retentionWindow, durations.settings.deduplicationWindow,
    durations.arpWaitBetweenScans, durations.snmpWaitBetweenScans, durations.arpScanDuration]

/-- 250000 years. -/
def quarterMillionYears : StdDuration := .fromSecs 7889400000000

/-- Durations of up to a quarter of a million years fit at every reading from the epoch to the year
9999. -/
theorem fit_of_le {durations : ConfiguredDurations} {now : Instant} (hepoch : .epoch ≤ now)
    (hyear : now < yearTenThousand)
    (hshort : ∀ duration ∈ durations.all, duration ≤ quarterMillionYears) : durations.Fit now := by
  simp only [all, List.forall_mem_cons, StdDuration.le_iff] at hshort
  obtain ⟨hretention, hdeduplication, harp, hsnmp, hscan, -⟩ := hshort
  have hquarter : quarterMillionYears.nanos = 7889400000000000000000 := by decide
  have hfirst : Instant.minNanos = -8334601228800000000000 := by decide
  have hlast : Instant.maxNanos = 8210266876799999999999 := by decide
  have hlimit : StdDuration.limitNanos = 18446744073709551616000000000 := by decide
  have hlow : 0 ≤ now.nanos := hepoch
  have hhigh : now.nanos < 253402300800000000000 := hyear
  refine ⟨.inr ?_, ?_, ?_, ?_, ?_⟩ <;> omega

/-- The defaults fit at all of these readings. -/
theorem fit_default {now : Instant} (hepoch : .epoch ≤ now) (hyear : now < yearTenThousand) :
    default.Fit now :=
  fit_of_le hepoch hyear (by decide)

/-- The configured durations do what they are for at a reading of the clock exactly when they fit
there, and a run of the retention cleaner panics nowhere exactly when its window does in each turn.
No reading of `Utc::now()` is as early as the first instant of the calendar: it is not before the
epoch. -/
theorem hold_iff (durations : ConfiguredDurations) (now : Instant)
    (hnow : Instant.minNanos < now.nanos) :
    (durations.Hold now ↔ durations.Fit now) ∧
      ∀ (start last : RetentionLoop) (history : List (Taken RetentionLoop RetentionLabel)),
        Run (RetentionStep durations.settings.retentionWindow) start history last →
        start.phase ≠ .panicked →
          ((∀ earlier loop, Visited history last earlier loop → loop.phase ≠ .panicked) ↔
            ∀ taken ∈ history, taken.label.InCalendar durations.settings.retentionWindow) :=
  ⟨⟨fun hhold ↦ hhold.fit hnow, Fit.hold⟩, fun _ _ _ hrun hstart ↦ retention_run_iff hrun hstart⟩

/-- The defaults do what they are for at noon on 1 June 2026. -/
theorem hold_default_june : default.Hold noonOfJune :=
  (hold_iff default noonOfJune (by decide)).1.mpr (fit_default (by decide) (by decide))

/-- A retention window and waits of 109500000 days, a deduplication window of 106751991168 days, and
a scan of 2 ^ 63 seconds. -/
def long : ConfiguredDurations where
  settings :=
    { Settings.default with
      retentionWindow := .fromSecs 9460800000000
      deduplicationWindow := .fromSecs 9223372036915200 }
  arpWaitBetweenScans := .fromSecs 9460800000000
  arpScanDuration := .fromSecs 9223372036854775808
  snmpWaitBetweenScans := .fromSecs 9460800000000

/-- A sighting by ARP. -/
def seenAt (createdOn : Instant) : DeviceEvent :=
  .new "aa:00:00:00:00:01" createdOn .deviceSeen "10.0.0.1" "" .arp

/-- The sighting half a minute before noon. -/
def seenBeforeNoon : DeviceEvent := seenAt ⟨1780315170 * 10 ^ 9, by decide⟩

/-- Noon, with that sighting recorded. -/
def noonWithSighting : World :=
  .still { Database.empty with deviceEvents := [seenBeforeNoon] } noonOfJune

/-- None of the long durations does. The turn of the retention cleaner panics; an event is recorded
again half a minute after it has been; the loops have no instant for their next scan; and the finder
has no timeout. -/
theorem not_hold_long :
    ¬ long.Hold noonOfJune ∧
      (RetentionLoop.turn long.settings.retentionWindow noonOfJune ⟨.ok (), .ok ()⟩
        ⟨⟨[seenBeforeNoon], []⟩, .sweeping, false⟩).phase = .panicked ∧
      (seenAt noonOfJune).Repeats long.settings.deduplicationWindow noonOfJune seenBeforeNoon ∧
      ((recordEvent long.settings (seenAt noonOfJune)).run clocked noonWithSighting).1 =
        some true ∧
      nextScanAt long.arpWaitBetweenScans noonOfJune = none ∧
      nextScanAt long.snmpWaitBetweenScans noonOfJune = none ∧
      receiverTimeout long.arpScanDuration = none := by
  have hpanics : (RetentionLoop.turn long.settings.retentionWindow noonOfJune ⟨.ok (), .ok ()⟩
      ⟨⟨[seenBeforeNoon], []⟩, .sweeping, false⟩).phase = .panicked := by decide +kernel
  refine ⟨fun hhold ↦ ?_, hpanics, ?_, ?_, ?_, ?_, ?_⟩
  · rw [hhold.retention] at hpanics
    cases hpanics
  · decide +kernel
  · decide +kernel
  · decide +kernel
  · decide +kernel
  · decide +kernel

end ConfiguredDurations

end Oott
