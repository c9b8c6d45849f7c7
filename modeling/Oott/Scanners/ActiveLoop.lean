import Oott.Effects.Runs
import Oott.Sightings.Scan
import Mathlib.Data.List.Dedup

/-!
# The loops of the active scanners

`scan` of `scanners/arp/scanner.rs` and of `scanners/snmp/scanner.rs`, and the status that both
keep, of `scanners/common/active_status.rs`. A loop marks its status as running, waits for the
finder, records the devices that it has found, marks the status as waiting and sleeps. The SNMP loop
logs a failed attempt and goes on; the ARP loop ends at one, with its status left at running
(`arp_failure_ends_loop`). Where no attempt of the ARP loop fails, and the window and the wait stay
in the calendar, the status of both loops is true of every state that they reach
(`scan_status_truthful`).

A panic of a scanner ends the process, since all scanners run in the task of `main`: the loop goes
to its end then. `notify` always returns, and touches no status.
-/

set_option autoImplicit false
set_option relaxedAutoImplicit false

namespace Oott

open Effects

/-! ### The status -/

/-- `ActiveStatus`. -/
structure ActiveStatus where
  isRunning : Bool := false
  scanStartedAt : Option Instant := none
  nextScanAt : Option Instant := none
  lastScanDevicesSeen : Option ℕ := none
  lastScanAt : Option Instant := none

namespace ActiveStatus

/-- `ActiveStatus::new`. -/
def new : ActiveStatus := {}

/-- `set_running`, at an instant. -/
def setRunning (status : ActiveStatus) (now : Instant) : ActiveStatus :=
  { status with isRunning := true, scanStartedAt := some now, nextScanAt := none }

/-- `set_waiting`. -/
def setWaiting (status : ActiveStatus) (nextScanAt : Instant) : ActiveStatus :=
  { status with isRunning := false, scanStartedAt := none, nextScanAt := some nextScanAt }

/-- The size of the `HashSet` of the MACs. -/
def distinctMacs (devices : List Device) : ℕ := (devices.map Device.macAddress).dedup.length

/-- `record_scan`, at an instant. -/
def recordScan (status : ActiveStatus) (devices : List Device) (now : Instant) : ActiveStatus :=
  { status with lastScanDevicesSeen := some (distinctMacs devices), lastScanAt := some now }

end ActiveStatus

/-- `Utc::now() + chrono::Duration::from_std(wait).unwrap()`, `none` where it panics. -/
def nextScanAt (wait : StdDuration) (now : Instant) : Option Instant :=
  TimeDelta.fromStd wait >>= now.add

/-! ### The loops -/

/-- Where a loop is: before its first attempt, in the finder, at the devices that it has found,
after an attempt, in its sleep, or at its end. -/
inductive ScanPhase
  | starting
  | finding
  | recording (devices : List Device)
  | finished
  | sleeping
  | ended

/-- A loop with its status, and whether a shutdown has been requested. -/
structure ScanLoop where
  status : ActiveStatus
  phase : ScanPhase
  shutdown : Bool

/-- The start of a loop. -/
def ScanLoop.initial : ScanLoop := ⟨.new, .starting, false⟩

/-- What can happen, with the readings of the clock. The sightings are recorded in a world that the
other users of the database have led to. -/
inductive ScanLabel
  | attempted (now : Instant)
  | found (devices : List Device) (now : Instant)
  | failed
  | recorded (world : World)
  | waited (now : Instant)
  | shutdownRequested
  | broke

/-- What a scanner has in its settings: the settings of the pipeline, and `wait_between_scans`. -/
structure ScanSettings where
  settings : Settings
  waitBetweenScans : StdDuration

/-- The steps of the loop of a scanner, which goes to a given phase after a failed attempt. -/
inductive ScanStep (config : ScanSettings) (scanner : DeviceEventScanner)
    (afterFailure : ScanPhase) : ScanLoop → ScanLabel → ScanLoop → Prop
  | attempted {loop : ScanLoop} (now : Instant)
      (hphase : loop.phase = .starting ∨ loop.phase = .sleeping) :
      ScanStep config scanner afterFailure loop (.attempted now)
        { loop with status := loop.status.setRunning now, phase := .finding }
  | found {loop : ScanLoop} (devices : List Device) (now : Instant)
      (hphase : loop.phase = .finding) :
      ScanStep config scanner afterFailure loop (.found devices now)
        { loop with status := loop.status.recordScan devices now, phase := .recording devices }
  | failed {loop : ScanLoop} (hphase : loop.phase = .finding) :
      ScanStep config scanner afterFailure loop .failed { loop with phase := afterFailure }
  | recorded {loop : ScanLoop} {devices : List Device} {world after : World}
      {outcome : Option (List DeviceChange)} (hphase : loop.phase = .recording devices)
      (hexec : Program.Exec Faulty (recordSightings config.settings scanner devices) world outcome
        after) :
      ScanStep config scanner afterFailure loop (.recorded world)
        { loop with phase := if outcome.isSome then .finished else .ended }
  | waited {loop : ScanLoop} (now : Instant) (hphase : loop.phase = .finished) :
      ScanStep config scanner afterFailure loop (.waited now)
        (match nextScanAt config.waitBetweenScans now with
          | some nextScanAt =>
            { loop with status := loop.status.setWaiting nextScanAt, phase := .sleeping }
          | none => { loop with phase := .ended })
  | shutdownRequested {loop : ScanLoop} :
      ScanStep config scanner afterFailure loop .shutdownRequested { loop with shutdown := true }
  | broke {loop : ScanLoop} (hshutdown : loop.shutdown = true)
      (hphase : loop.phase = .finding ∨ loop.phase = .sleeping) :
      ScanStep config scanner afterFailure loop .broke { loop with phase := .ended }

/-- `scanners::arp::scanner::scan`, when enabled: `finder::find(..) => result?`. -/
def arpScan (config : ScanSettings) : ScanLoop → ScanLabel → ScanLoop → Prop :=
  ScanStep config .arp .ended

/-- `scanners::snmp::scanner::scan`, when enabled and with a target: a failed poll is logged. -/
def snmpScan (config : ScanSettings) : ScanLoop → ScanLabel → ScanLoop → Prop :=
  ScanStep config .snmp .finished

/-! ### What the status says -/

/-- The devices of a successful attempt. -/
def ScanLabel.devices : ScanLabel → Option (List Device)
  | .found devices _ => some devices
  | _ => none

/-- The devices of the last successful attempt. -/
def lastFound (history : List (Taken ScanLoop ScanLabel)) : Option (List Device) :=
  (history.filterMap fun taken ↦ taken.label.devices).getLast?

/-- The status is true of the phase. The loop has not ended, and while it sleeps it is about to
make another attempt. -/
def ScanLoop.StatusTells (loop : ScanLoop) : Prop :=
  match loop.phase with
  | .starting => loop.status.isRunning = false
  | .finding | .recording _ | .finished =>
    loop.status.isRunning = true ∧ loop.status.scanStartedAt.isSome = true ∧
      loop.status.nextScanAt = none
  | .sleeping =>
    loop.status.isRunning = false ∧ loop.status.scanStartedAt = none ∧
      loop.status.nextScanAt.isSome = true
  | .ended => False

/-- Until a shutdown is requested, the status is true of the phase, and the devices seen are the
distinct MACs of the last successful attempt. -/
def ScanLoop.Truthful (history : List (Taken ScanLoop ScanLabel)) (loop : ScanLoop) : Prop :=
  loop.shutdown = false → loop.StatusTells ∧
    loop.status.lastScanDevicesSeen = (lastFound history).map ActiveStatus.distinctMacs

/-! ### Sightings that are recorded without a panic -/

section Returning

variable {settings : Settings} {scanner : DeviceEventScanner}

/-- A reading of the clock has the start of the window in the calendar. -/
def InWindow (settings : Settings) : (op : Call) → backend.Response op → Prop
  | .now, instant => settings.since instant ≠ none
  | .sql _, _ => True

theorem recordDeviceEvent_inWindow (device : Device) (eventType : DeviceEventType) :
    (recordDeviceEvent settings device eventType scanner).Returns (InWindow settings) := by
  rw [recordDeviceEvent_eq]
  intro instant _ since hsince
  refine (Program.returns_orAbort hsince).bind fun since ↦ ?_
  refine Program.Returns.bind ?_ fun duplicate ↦ ?_
  · intro count _
    cases count <;> trivial
  · match duplicate with
    | .ok true => trivial
    | .ok false => exact (Program.returns_perform _).bind fun _ ↦ trivial
    | .error _ => exact (Program.returns_perform _).bind fun _ ↦ trivial

theorem recordChanges_inWindow (device : Device) (changes : List DeviceChange) :
    (recordChanges settings device scanner changes).Returns (InWindow settings) := by
  induction changes with
  | nil => trivial
  | cons change rest ih =>
    exact (recordDeviceEvent_inWindow device _).bind fun recorded ↦ ih.bind fun _ ↦ trivial

theorem recordSighting_inWindow (device : Device) :
    (recordSighting settings device scanner).Returns (InWindow settings) := by
  rw [recordSighting_eq]
  intro read _
  have hnew : (recordNewSighting settings device scanner).Returns (InWindow settings) := by
    rw [recordNewSighting_eq]
    intro inserted _
    cases inserted with
    | error error => trivial
    | ok count =>
      refine Program.Returns.bind ?_ fun _ ↦ trivial
      exact (recordDeviceEvent_inWindow device _).bind fun _ ↦ trivial
  match read with
  | .ok none => exact hnew
  | .error _ => exact hnew
  | .ok (some recorded) =>
    change (recordKnownSighting settings recorded device scanner).Returns _
    rw [recordKnownSighting_eq]
    intro instant _ updated _
    cases updated with
    | error error => trivial
    | ok count =>
      refine (recordDeviceEvent_inWindow _ _).bind fun _ ↦ ?_
      exact (Program.returns_perform _).bind fun _ ↦ recordChanges_inWindow _ _

theorem recordSightings_inWindow (devices : List Device) :
    (recordSightings settings scanner devices).Returns (InWindow settings) := by
  induction devices with
  | nil => trivial
  | cons device rest ih =>
    exact (recordSighting_inWindow device).bind fun _ ↦ ih.bind fun _ ↦ trivial

/-- The sightings of a scan are recorded without a panic, also when calls fail, on a clock on which
the window stays in the calendar. -/
theorem recordSightings_outcome_ne_none {devices : List Device} {world after : World}
    {outcome : Option (List DeviceChange)} (hsince : ∀ n, settings.since (world.clock n) ≠ none)
    (hexec : Program.Exec Faulty (recordSightings settings scanner devices) world outcome after) :
    outcome ≠ none := by
  refine hexec.outcome_ne_none (fun world ↦ ∀ n, settings.since (world.clock n) ≠ none)
    (fun op world response middle hcall hworld ↦ ?_) (recordSightings_inWindow devices) hsince
  cases hcall with
  | fail statement _ error => exact ⟨trivial, hworld⟩
  | answer op _ =>
    cases op with
    | now => exact ⟨hworld 0, fun n ↦ hworld (n + 1)⟩
    | sql statement => exact ⟨trivial, hworld⟩

end Returning

/-! ### The loops tell the truth -/

/-- The start of the window and the next scan are in the calendar. -/
def InCalendar (config : ScanSettings) : ScanLabel → Prop
  | .recorded world => ∀ n, config.settings.since (world.clock n) ≠ none
  | .waited now => nextScanAt config.waitBetweenScans now ≠ none
  | _ => True

section Loops

variable {config : ScanSettings} {scanner : DeviceEventScanner} {afterFailure : ScanPhase}
  {history : List (Taken ScanLoop ScanLabel)} {loop after : ScanLoop} {label : ScanLabel}

theorem lastFound_append (history : List (Taken ScanLoop ScanLabel)) (loop : ScanLoop)
    (label : ScanLabel) :
    lastFound (history ++ [⟨loop, label⟩]) = label.devices.or (lastFound history) := by
  unfold lastFound
  rw [List.filterMap_append, List.getLast?_append]
  congr 1
  cases label <;> rfl

/-- Every step keeps the status true, as long as it stays in the calendar and a failed attempt does
not end the loop before the shutdown. -/
theorem ScanLoop.Truthful.step (htruthful : loop.Truthful history)
    (hstep : ScanStep config scanner afterFailure loop label after)
    (hcalendar : InCalendar config label)
    (hfailure : label = .failed → afterFailure = .finished ∨ loop.shutdown = true) :
    after.Truthful (history ++ [⟨loop, label⟩]) := by
  intro hshutdown
  cases hstep with
  | attempted now hphase =>
    obtain ⟨-, hseen⟩ := htruthful hshutdown
    refine ⟨⟨rfl, rfl, rfl⟩, ?_⟩
    rw [lastFound_append]
    exact hseen
  | found devices now hphase =>
    obtain ⟨htells, -⟩ := htruthful hshutdown
    unfold StatusTells at htells
    rw [hphase] at htells
    refine ⟨htells, ?_⟩
    rw [lastFound_append]
    rfl
  | failed hphase =>
    obtain ⟨htells, hseen⟩ := htruthful hshutdown
    unfold StatusTells at htells
    rw [hphase] at htells
    rcases hfailure rfl with rfl | hrequested
    · rw [lastFound_append]
      exact ⟨htells, hseen⟩
    · cases hshutdown.symm.trans hrequested
  | @recorded devices world _ outcome hphase hexec =>
    obtain ⟨htells, hseen⟩ := htruthful hshutdown
    unfold StatusTells at htells
    rw [hphase] at htells
    obtain ⟨changes, rfl⟩ := Option.ne_none_iff_exists'.mp
      (recordSightings_outcome_ne_none hcalendar hexec)
    rw [lastFound_append]
    exact ⟨htells, hseen⟩
  | waited now hphase =>
    obtain ⟨next, hnext⟩ := Option.ne_none_iff_exists'.mp hcalendar
    rw [hnext] at hshutdown ⊢
    obtain ⟨-, hseen⟩ := htruthful hshutdown
    rw [lastFound_append]
    exact ⟨⟨rfl, rfl, rfl⟩, hseen⟩
  | shutdownRequested => cases hshutdown
  | broke hrequested hphase => cases hshutdown.symm.trans hrequested

/-- A loop that sleeps makes another attempt, unless a shutdown is requested. -/
theorem attempts_of_sleeping (hphase : loop.phase = .sleeping) (hshutdown : loop.shutdown = false) :
    (∀ now, ∃ next, ScanStep config scanner afterFailure loop (.attempted now) next) ∧
      ∀ label next, ScanStep config scanner afterFailure loop label next →
        label = .shutdownRequested ∨ next.phase = .finding := by
  refine ⟨fun now ↦ ⟨_, .attempted now (.inr hphase)⟩, fun label next hstep ↦ ?_⟩
  cases hstep with
  | attempted now hattempted => exact .inr rfl
  | shutdownRequested => exact .inl rfl
  | broke hrequested hbroke => cases hshutdown.symm.trans hrequested
  | found devices now hother => cases hphase.symm.trans hother
  | failed hother => cases hphase.symm.trans hother
  | recorded hother hexec => cases hphase.symm.trans hother
  | waited now hother => cases hphase.symm.trans hother

/-- In every run that stays in the calendar, and in which no failed attempt ends the loop before the
shutdown, the status is true. -/
theorem truthful_of_run
    (hrun : Run (ScanStep config scanner afterFailure) .initial history loop)
    (hsteps : ∀ taken ∈ history, InCalendar config taken.label ∧
      (taken.label = .failed → afterFailure = .finished ∨ taken.before.shutdown = true)) :
    loop.Truthful history := by
  refine hrun.invariant (fun history loop ↦ (∀ taken ∈ history, InCalendar config taken.label ∧
    (taken.label = .failed → afterFailure = .finished ∨ taken.before.shutdown = true)) →
      loop.Truthful history) (fun _ _ ↦ ⟨rfl, rfl⟩) (fun history before label after ih hstep h ↦ ?_)
    hsteps
  obtain ⟨hearlier, hlast⟩ := List.forall_mem_append.mp h
  obtain ⟨hcalendar, hfailure⟩ := hlast _ (List.mem_singleton_self _)
  exact (ih hearlier).step hstep hcalendar hfailure

end Loops

/-! ### The ARP loop at a failed attempt -/

section Failure

variable {config : ScanSettings} {scanner : DeviceEventScanner} {afterFailure : ScanPhase}
  {history : List (Taken ScanLoop ScanLabel)} {loop after : ScanLoop} {label : ScanLabel}

/-- A loop in the finder shows that it runs. -/
theorem running_of_finding (hrun : Run (ScanStep config scanner .ended) .initial history loop)
    (hphase : loop.phase = .finding) :
    loop.status.isRunning = true ∧ loop.status.nextScanAt = none := by
  induction hrun with
  | start => cases hphase
  | step hbefore hstep ih =>
    cases hstep with
    | attempted now _ => exact ⟨rfl, rfl⟩
    | shutdownRequested => exact ih hphase
    | found devices now _ => cases hphase
    | failed _ => cases hphase
    | recorded _ _ =>
      dsimp only at hphase
      split_ifs at hphase
    | waited now _ => split at hphase <;> cases hphase
    | broke _ _ => cases hphase

/-- A loop that has ended makes no attempt. -/
theorem ended_step (hphase : loop.phase = .ended)
    (hstep : ScanStep config scanner afterFailure loop label after) :
    after.phase = .ended ∧ after.status = loop.status := by
  cases hstep with
  | shutdownRequested => exact ⟨hphase, rfl⟩
  | attempted now hother | broke _ hother =>
    rcases hother with hother | hother <;> cases hphase.symm.trans hother
  | found devices now hother | failed hother | recorded hother _ | waited now hother =>
    cases hphase.symm.trans hother

/-- A failed attempt ends the ARP loop, with the status left at running. -/
theorem ended_of_arp_failure (hrun : Run (arpScan config) .initial history loop)
    (hfailed : ∃ taken ∈ history, taken.label = .failed) :
    loop.phase = .ended ∧ loop.status.isRunning = true ∧ loop.status.nextScanAt = none := by
  induction hrun with
  | start =>
    obtain ⟨taken, htaken, -⟩ := hfailed
    cases htaken
  | @step history before after label hbefore hstep ih =>
    obtain ⟨taken, htaken, hlabel⟩ := hfailed
    rcases List.mem_append.mp htaken with hearlier | hnow
    · obtain ⟨hended, hstatus⟩ := ih ⟨taken, hearlier, hlabel⟩
      obtain ⟨hafter, hsame⟩ := ended_step hended hstep
      rw [hsame]
      exact ⟨hafter, hstatus⟩
    · rw [List.mem_singleton.mp hnow] at hlabel
      dsimp only at hlabel
      subst hlabel
      cases hstep with
      | failed hphase =>
        obtain ⟨hrunning, hnext⟩ := running_of_finding hbefore hphase
        exact ⟨rfl, hrunning, hnext⟩

end Failure

/-! ### Both loops -/

/-- The loops of both active scanners tell the truth. In every run of the ARP loop in which no
attempt fails before the shutdown, and in every run of the SNMP loop, with the window and the wait
in the calendar: until the shutdown, the status is true in every state, the devices seen are the
distinct MACs of the last successful attempt, and a loop that sleeps makes another attempt. In every
run of the ARP loop with a failed attempt, the loop has ended, with its status at running. -/
theorem scan_status_truthful (config : ScanSettings) :
    (∀ history last, Run (arpScan config) .initial history last →
      (∀ taken ∈ history, InCalendar config taken.label ∧
        (taken.label = .failed → taken.before.shutdown = true)) →
      last.Truthful history ∧ (last.phase = .sleeping → last.shutdown = false →
        (∀ now, ∃ next, arpScan config last (.attempted now) next) ∧
          ∀ label next, arpScan config last label next →
            label = .shutdownRequested ∨ next.phase = .finding)) ∧
    (∀ history last, Run (snmpScan config) .initial history last →
      (∀ taken ∈ history, InCalendar config taken.label) →
      last.Truthful history ∧ (last.phase = .sleeping → last.shutdown = false →
        (∀ now, ∃ next, snmpScan config last (.attempted now) next) ∧
          ∀ label next, snmpScan config last label next →
            label = .shutdownRequested ∨ next.phase = .finding)) ∧
    ∀ history last, Run (arpScan config) .initial history last →
      (∃ taken ∈ history, taken.label = .failed) →
      last.phase = .ended ∧ last.status.isRunning = true ∧ last.status.nextScanAt = none := by
  refine ⟨fun history last hrun hsteps ↦ ⟨truthful_of_run hrun fun taken htaken ↦ ?_,
    attempts_of_sleeping⟩, fun history last hrun hsteps ↦ ⟨truthful_of_run hrun fun taken htaken ↦
      ⟨hsteps taken htaken, fun _ ↦ .inl rfl⟩, attempts_of_sleeping⟩,
    fun _ _ ↦ ended_of_arp_failure⟩
  obtain ⟨hcalendar, hfailure⟩ := hsteps taken htaken
  exact ⟨hcalendar, fun hfailed ↦ .inr (hfailure hfailed)⟩

/-- A poll of an hour's wait. -/
def hourly : ScanSettings := ⟨.default, .fromSecs 3600⟩

/-- An SNMP loop whose first poll fails sleeps afterwards. -/
theorem scan_status_truthful_failedPoll : ∃ history last,
    Run (snmpScan hourly) .initial history last ∧ last.phase = .sleeping ∧
      last.Truthful history := by
  have hstart : Run (snmpScan hourly) .initial [] .initial := .start
  have hfailed := (hstart.step (.attempted .epoch (.inl rfl))).step (.failed rfl)
  have hslept := hfailed.step (.waited .epoch rfl)
  refine ⟨_, _, hslept, rfl, ((scan_status_truthful hourly).2.1 _ _ hslept ?_).1⟩
  simp only [List.forall_mem_append, List.forall_mem_singleton]
  exact ⟨⟨⟨List.forall_mem_nil _, trivial⟩, trivial⟩, show nextScanAt _ _ ≠ none by decide⟩

/-- An ARP loop whose first attempt fails has ended, and shows that it runs. -/
theorem arp_failure_ends_loop :
    ¬ ∀ config history last, Run (arpScan config) .initial history last →
      (∀ taken ∈ history, InCalendar config taken.label) → last.Truthful history := by
  intro htruthful
  have hstart : Run (arpScan hourly) .initial [] .initial := .start
  have hfailed := (hstart.step (.attempted .epoch (.inl rfl))).step (.failed rfl)
  refine (htruthful _ _ _ hfailed ?_ rfl).1
  simp only [List.forall_mem_append, List.forall_mem_singleton]
  exact ⟨⟨List.forall_mem_nil _, trivial⟩, trivial⟩

end Oott
