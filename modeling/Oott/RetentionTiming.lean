import Oott.Database.Timestamps
import Oott.Retention

/-!
# How long rows are kept

The loop of `retention::run` in time, from its start on any tables. Between two turns it sleeps for
`SWEEP_INTERVAL`; nothing is exactly on time, so a `delay` bounds how long a turn takes, how late a
sleep ends, and how long after its reading of the clock a row is inserted. The clock does not go
back. Anyone may insert rows with a recent time and delete rows.

Once the purges of a turn have succeeded, and until those of another one fail, no row is older than
the window by more than the interval and three delays; and a turn deletes no row within the window
(`rows_kept`). The invariant is `RetainedSince`: what the last turn has left is bounded by the time
that turn ended.
-/

set_option autoImplicit false
set_option relaxedAutoImplicit false

namespace Oott

open Effects

/-- `SWEEP_INTERVAL`, in nanoseconds. -/
def sweepInterval : Int := 24 * 60 * 60 * 10 ^ 9

/-- The loop with the clock and the time it has entered its phase, in nanoseconds. -/
structure TimedRetention where
  loop : RetentionLoop
  clock : Int
  since : Int

/-- What can happen. -/
inductive TimedRetentionLabel
  | elapsed (nanos : ℕ)
  | swept (now : Instant) (answers : PurgeAnswers)
  | slept
  | eventRecorded (event : DeviceEvent)
  | notificationRecorded (notification : Notification)
  | deleted (tables : RetentionTables)
  | shutdownRequested
  | broke

/-- The times of the rows of both tables. -/
def RetentionTables.times (tables : RetentionTables) : List Instant :=
  tables.deviceEvents.map DeviceEvent.createdOn ++ tables.notifications.map Notification.createdOn

namespace TimedRetention

/-- The loop at its start, on the tables that the database has. -/
def initial (tables : RetentionTables) (clock : Int) : TimedRetention :=
  ⟨⟨tables, .sweeping, false⟩, clock, clock⟩

/-- The state with other tables. -/
def withTables (state : TimedRetention) (tables : RetentionTables) : TimedRetention :=
  { state with loop := { state.loop with tables := tables } }

/-- A time that has been read from the clock no longer than a delay ago. -/
def Recent (delay : ℕ) (state : TimedRetention) (instant : Instant) : Prop :=
  state.clock - delay ≤ instant.nanos ∧ instant.nanos ≤ state.clock

end TimedRetention

/-- The steps of `retention::run` in time. The clock does not pass the time by which the loop has
left its phase. -/
inductive TimedRetentionStep (window : StdDuration) (delay : ℕ) :
    TimedRetention → TimedRetentionLabel → TimedRetention → Prop
  | elapsed {state : TimedRetention} (nanos : ℕ)
      (hsweeping : state.loop.phase = .sweeping → state.clock + nanos ≤ state.since + delay)
      (hsleeping : state.loop.phase = .sleeping →
        state.clock + nanos ≤ state.since + sweepInterval + delay) :
      TimedRetentionStep window delay state (.elapsed nanos)
        { state with clock := state.clock + nanos }
  | swept {state : TimedRetention} (now : Instant) (answers : PurgeAnswers)
      (hphase : state.loop.phase = .sweeping)
      (hnow : state.since ≤ now.nanos ∧ now.nanos ≤ state.clock) :
      TimedRetentionStep window delay state (.swept now answers)
        ⟨state.loop.turn window now answers, state.clock, state.clock⟩
  | slept {state : TimedRetention} (hphase : state.loop.phase = .sleeping)
      (hslept : state.since + sweepInterval ≤ state.clock) :
      TimedRetentionStep window delay state .slept
        ⟨{ state.loop with phase := .sweeping }, state.clock, state.clock⟩
  | eventRecorded {state : TimedRetention} (event : DeviceEvent)
      (hrecent : state.Recent delay event.createdOn) :
      TimedRetentionStep window delay state (.eventRecorded event)
        (state.withTables { state.loop.tables with
          deviceEvents := state.loop.tables.deviceEvents ++ [event] })
  | notificationRecorded {state : TimedRetention} (notification : Notification)
      (hrecent : state.Recent delay notification.createdOn) :
      TimedRetentionStep window delay state (.notificationRecorded notification)
        (state.withTables { state.loop.tables with
          notifications := state.loop.tables.notifications ++ [notification] })
  | deleted {state : TimedRetention} (tables : RetentionTables)
      (hevents : tables.deviceEvents.Sublist state.loop.tables.deviceEvents)
      (hnotifications : tables.notifications.Sublist state.loop.tables.notifications) :
      TimedRetentionStep window delay state (.deleted tables) (state.withTables tables)
  | shutdownRequested {state : TimedRetention} :
      TimedRetentionStep window delay state .shutdownRequested
        { state with loop := { state.loop with shutdown := true } }
  | broke {state : TimedRetention} (hshutdown : state.loop.shutdown = true)
      (hphase : state.loop.phase = .sleeping) :
      TimedRetentionStep window delay state .broke
        { state with loop := { state.loop with phase := .stopped } }

/-- What the purges of a turn have answered. -/
def turnAnswers (taken : Taken TimedRetention TimedRetentionLabel) : Option PurgeAnswers :=
  match taken.label with
  | .swept _ answers => some answers
  | _ => none

/-- The purges of the last turn have succeeded. -/
def LastTurnPurged (history : List (Taken TimedRetention TimedRetentionLabel)) : Prop :=
  lastOf turnAnswers history = some ⟨.ok (), .ok ()⟩

section Timing

variable {window : StdDuration} {delay : ℕ} {state after : TimedRetention}
  {label : TimedRetentionLabel}

/-- Without the clock, a step is one of `RetentionStep`, or time has passed. -/
theorem TimedRetentionStep.untimed (hstep : TimedRetentionStep window delay state label after) :
    after.loop = state.loop ∨ ∃ untimed, RetentionStep window state.loop untimed after.loop := by
  cases hstep with
  | elapsed => exact Or.inl rfl
  | swept now answers hphase => exact Or.inr ⟨_, .swept now answers hphase⟩
  | slept hphase => exact Or.inr ⟨_, .slept hphase⟩
  | eventRecorded => exact Or.inr ⟨_, .written _⟩
  | notificationRecorded => exact Or.inr ⟨_, .written _⟩
  | deleted tables => exact Or.inr ⟨_, .written tables⟩
  | shutdownRequested => exact Or.inr ⟨_, .shutdownRequested⟩
  | broke hshutdown hphase => exact Or.inr ⟨_, .broke hshutdown hphase⟩

/-! ### What the turns leave -/

/-- Where the loop is in its phase, and how old the rows can be once a turn has purged. -/
structure RetainedSince (window : StdDuration) (delay : ℕ) (hasPurged : Prop)
    (state : TimedRetention) : Prop where
  since_le : state.since ≤ state.clock
  sweeping : state.loop.phase = .sweeping → state.clock ≤ state.since + delay ∧
    (hasPurged → ∀ createdOn ∈ state.loop.tables.times,
      state.since - (sweepInterval + 2 * delay + window.nanos) ≤ createdOn.nanos)
  sleeping : state.loop.phase = .sleeping → state.clock ≤ state.since + sweepInterval + delay ∧
    (hasPurged → ∀ createdOn ∈ state.loop.tables.times,
      state.since - (delay + window.nanos) ≤ createdOn.nanos)

/-- What a purge leaves is in the table and has not expired. -/
theorem mem_purged {Row : Type} {createdOn : Row → Instant} {expired : Instant → Prop}
    [DecidablePred expired] {rows : List Row} {row : Row} :
    row ∈ purged createdOn expired rows (.ok ()) ↔ row ∈ rows ∧ ¬ expired (createdOn row) := by
  simp [purged]

/-- The times that a turn with two successful purges leaves are within the window. -/
theorem not_expired_of_mem_purge {tables : RetentionTables} {expired : Instant → Prop}
    [DecidablePred expired] {createdOn : Instant}
    (hcreated : createdOn ∈ (tables.purge expired ⟨.ok (), .ok ()⟩).times) :
    ¬ expired createdOn := by
  rcases List.mem_append.mp hcreated with hevent | hnotification
  · obtain ⟨row, hrow, rfl⟩ := List.mem_map.mp hevent
    exact (mem_purged.mp hrow).2
  · obtain ⟨row, hrow, rfl⟩ := List.mem_map.mp hnotification
    exact (mem_purged.mp hrow).2

variable {hasPurged : Prop}

/-- New tables whose rows are those of before or recent. -/
theorem RetainedSince.withTables (hretained : RetainedSince window delay hasPurged state)
    {tables : RetentionTables}
    (htables : ∀ createdOn ∈ tables.times,
      createdOn ∈ state.loop.tables.times ∨ state.Recent delay createdOn) :
    RetainedSince window delay hasPurged (state.withTables tables) := by
  have hsince := hretained.since_le
  have hinterval : 0 ≤ sweepInterval := by decide
  -- A recent row is as late as any bound that reaches back by the delay.
  have hlater {bound : Int} (hbound : bound ≤ state.clock - delay)
      (hrows : ∀ createdOn ∈ state.loop.tables.times, bound ≤ createdOn.nanos) :
      ∀ createdOn ∈ tables.times, bound ≤ createdOn.nanos := by
    intro createdOn hcreated
    rcases htables createdOn hcreated with hold | ⟨hlower, -⟩
    · exact hrows createdOn hold
    · exact hbound.trans hlower
  refine ⟨hsince, fun hphase ↦ ?_, fun hphase ↦ ?_⟩
  · obtain ⟨hclock, hrows⟩ := hretained.sweeping hphase
    refine ⟨hclock, fun hpurged ↦ hlater ?_ (hrows hpurged)⟩
    show state.since - _ ≤ _
    omega
  · obtain ⟨hclock, hrows⟩ := hretained.sleeping hphase
    refine ⟨hclock, fun hpurged ↦ hlater ?_ (hrows hpurged)⟩
    show state.since - _ ≤ _
    omega

/-- A turn bounds the rows by its own purges, whatever has been before. -/
theorem RetainedSince.turn (hretained : RetainedSince window delay hasPurged state) {now : Instant}
    {answers : PurgeAnswers} (hphase : state.loop.phase = .sweeping)
    (hnow : state.since ≤ now.nanos ∧ now.nanos ≤ state.clock) :
    RetainedSince window delay (answers = ⟨.ok (), .ok ()⟩)
      ⟨state.loop.turn window now answers, state.clock, state.clock⟩ := by
  obtain ⟨hclock, -⟩ := hretained.sweeping hphase
  by_cases hwindow : WindowInCalendar window now
  · rw [state.loop.turn_eq_swept window now _ hwindow]
    refine ⟨le_rfl, nofun, fun _ ↦ ⟨?_, fun hanswers createdOn hcreated ↦ ?_⟩⟩
    · have hinterval : 0 ≤ sweepInterval := by decide
      show state.clock ≤ state.clock + _ + _
      omega
    · subst hanswers
      have hage := not_expired_of_mem_purge hcreated
      unfold Expired at hage
      show state.clock - _ ≤ _
      omega
  · rw [state.loop.turn_of_not window now _ hwindow]
    exact ⟨le_rfl, nofun, nofun⟩

/-- A step that is not a turn keeps the bounds. -/
theorem TimedRetentionStep.retainedSince
    (hstep : TimedRetentionStep window delay state label after)
    (hretained : RetainedSince window delay hasPurged state) :
    RetainedSince window delay
      (((turnAnswers ⟨state, label⟩).map (· = ⟨.ok (), .ok ()⟩)).getD hasPurged) after := by
  have hinterval : 0 ≤ sweepInterval := by decide
  have hsince := hretained.since_le
  cases hstep with
  | elapsed nanos hsweeping hsleeping =>
    refine ⟨?_, fun hphase ↦ ⟨hsweeping hphase, (hretained.sweeping hphase).2⟩,
      fun hphase ↦ ⟨hsleeping hphase, (hretained.sleeping hphase).2⟩⟩
    show state.since ≤ state.clock + _
    omega
  | swept now answers hphase hnow => exact hretained.turn hphase hnow
  | slept hphase =>
    obtain ⟨hclock, hrows⟩ := hretained.sleeping hphase
    refine ⟨le_rfl, fun _ ↦ ⟨?_, fun hpurged createdOn hcreated ↦ ?_⟩, nofun⟩
    · show state.clock ≤ state.clock + _
      omega
    · have hrow := hrows hpurged createdOn hcreated
      show state.clock - _ ≤ _
      omega
  | eventRecorded event hrecent =>
    refine hretained.withTables fun createdOn hcreated ↦ ?_
    unfold RetentionTables.times at hcreated ⊢
    simp only [List.map_append, List.map_cons, List.map_nil, List.mem_append,
      List.mem_singleton] at hcreated ⊢
    rcases hcreated with (hevent | rfl) | hnotification
    · exact Or.inl (Or.inl hevent)
    · exact Or.inr hrecent
    · exact Or.inl (Or.inr hnotification)
  | notificationRecorded notification hrecent =>
    refine hretained.withTables fun createdOn hcreated ↦ ?_
    unfold RetentionTables.times at hcreated ⊢
    simp only [List.map_append, List.map_cons, List.map_nil, List.mem_append,
      List.mem_singleton] at hcreated ⊢
    rcases hcreated with hevent | hnotification | rfl
    · exact Or.inl (Or.inl hevent)
    · exact Or.inl (Or.inr hnotification)
    · exact Or.inr hrecent
  | deleted tables hevents hnotifications =>
    refine hretained.withTables fun createdOn hcreated ↦ Or.inl ?_
    rcases List.mem_append.mp hcreated with hevent | hnotification
    · exact List.mem_append_left _ ((hevents.map _).subset hevent)
    · exact List.mem_append_right _ ((hnotifications.map _).subset hnotification)
  | shutdownRequested => exact ⟨hsince, hretained.sweeping, hretained.sleeping⟩
  | broke => exact ⟨hsince, nofun, nofun⟩

theorem retainedSince_initial (hnone : ¬ hasPurged) (tables : RetentionTables) (clock : Int) :
    RetainedSince window delay hasPurged (.initial tables clock) := by
  refine ⟨le_rfl, fun _ ↦ ⟨?_, fun hpurged ↦ (hnone hpurged).elim⟩, nofun⟩
  show clock ≤ clock + _
  omega

theorem RetainedSince.of_run {tables : RetentionTables} {clock : Int}
    {history : List (Taken TimedRetention TimedRetentionLabel)}
    (hrun : Run (TimedRetentionStep window delay) (.initial tables clock) history state) :
    RetainedSince window delay (LastTurnPurged history) state := by
  refine hrun.invariant (fun history state ↦
    RetainedSince window delay (LastTurnPurged history) state)
    (retainedSince_initial nofun tables clock) ?_
  intro earlier before label after hretained hstep
  have hlater := hstep.retainedSince hretained
  unfold LastTurnPurged at hlater ⊢
  rw [lastOf_append]
  cases hanswers : turnAnswers ⟨before, label⟩ <;> simpa [hanswers] using hlater

/-- No row is older than the window by more than the interval and three delays. -/
theorem RetainedSince.age_le (hretained : RetainedSince window delay hasPurged state)
    (hpurged : hasPurged)
    (hphase : state.loop.phase = .sweeping ∨ state.loop.phase = .sleeping) :
    ∀ createdOn ∈ state.loop.tables.times,
      state.clock - createdOn.nanos ≤ window.nanos + sweepInterval + 3 * delay := by
  intro createdOn hcreated
  rcases hphase with hphase | hphase
  · obtain ⟨hclock, hrows⟩ := hretained.sweeping hphase
    have hrow := hrows hpurged createdOn hcreated
    omega
  · obtain ⟨hclock, hrows⟩ := hretained.sleeping hphase
    have hrow := hrows hpurged createdOn hcreated
    omega

/-- A turn deletes no row within the window. -/
theorem mem_turn_of_not_expired {now : Instant} {answers : PurgeAnswers} {loop : RetentionLoop} :
    (∀ event ∈ loop.tables.deviceEvents, ¬ Expired window now event.createdOn →
      event ∈ (loop.turn window now answers).tables.deviceEvents) ∧
    ∀ notification ∈ loop.tables.notifications, ¬ Expired window now notification.createdOn →
      notification ∈ (loop.turn window now answers).tables.notifications := by
  have hpurged {Row : Type} {createdOn : Row → Instant} {rows : List Row} {row : Row}
      (answer : Except DbError Unit) (hrow : row ∈ rows)
      (hage : ¬ Expired window now (createdOn row)) :
      row ∈ purged createdOn (Expired window now) rows answer := by
    cases answer with
    | error error => exact hrow
    | ok _ => exact mem_purged.mpr ⟨hrow, hage⟩
  by_cases hwindow : WindowInCalendar window now
  · rw [loop.turn_eq_swept window now answers hwindow]
    exact ⟨fun event hevent hage ↦ hpurged _ hevent hage,
      fun notification hnotification hage ↦ hpurged _ hnotification hage⟩
  · rw [loop.turn_of_not window now answers hwindow]
    exact ⟨fun event hevent _ ↦ hevent, fun notification hnotification _ ↦ hnotification⟩

/-- The purges of a turn compare texts. Where every row is of a year from 0 to 9999 and the cutoff
of none after it, they delete what the turn deletes. -/
theorem RetentionTables.purge_eq_purged {cutoff : Instant} (hcutoff : cutoff.year ≤ 9999)
    {tables : RetentionTables}
    (hevents : ∀ row ∈ tables.deviceEvents, row.createdOn.FourDigitYear)
    (hnotifications : ∀ row ∈ tables.notifications, row.createdOn.FourDigitYear) :
    tables.purge (· < cutoff) ⟨.ok (), .ok ()⟩ =
      ⟨Db.DeviceEvents.purged tables.deviceEvents cutoff,
        Db.Notifications.purged tables.notifications cutoff⟩ := by
  ext1
  · refine List.filter_congr fun row hrow ↦ decide_eq_decide.mpr (not_congr ?_)
    exact (createdBefore_iff (hevents row hrow) hcutoff).symm
  · refine List.filter_congr fun row hrow ↦ decide_eq_decide.mpr (not_congr ?_)
    exact (createdBefore_iff (hnotifications row hrow) hcutoff).symm

/-- What a turn does. It deletes no row within the window, and from the events what `sweep` deletes,
with which it panics; where the years have four digits, it deletes what the two statements do. -/
structure TurnPurges (window : StdDuration) (now : Instant) (answers : PurgeAnswers)
    (before after : RetentionLoop) : Prop where
  events_kept : ∀ event ∈ before.tables.deviceEvents, ¬ Expired window now event.createdOn →
    event ∈ after.tables.deviceEvents
  notifications_kept : ∀ notification ∈ before.tables.notifications,
    ¬ Expired window now notification.createdOn → notification ∈ after.tables.notifications
  sweeps : answers.deviceEvents = .ok () → ∀ (settings : Settings) (world : World),
    settings.retentionWindow = window → world.clock 0 = now →
    before.tables.deviceEvents = world.db.deviceEvents →
      ((sweep settings).run clocked world).2.db.deviceEvents = after.tables.deviceEvents ∧
        (((sweep settings).run clocked world).1 = none ↔ after.phase = .panicked)
  statements : answers = ⟨.ok (), .ok ()⟩ → ∀ (d : TimeDelta) (cutoff : Instant),
    TimeDelta.fromStd window = some d → now.sub d = some cutoff → cutoff.year ≤ 9999 →
    (∀ row ∈ before.tables.deviceEvents, row.createdOn.FourDigitYear) →
    (∀ row ∈ before.tables.notifications, row.createdOn.FourDigitYear) →
      after.tables = ⟨Db.DeviceEvents.purged before.tables.deviceEvents cutoff,
        Db.Notifications.purged before.tables.notifications cutoff⟩

theorem RetentionLoop.turnPurges (loop : RetentionLoop) (now : Instant) (answers : PurgeAnswers) :
    TurnPurges window now answers loop (loop.turn window now answers) := by
  obtain ⟨hevents, hnotifications⟩ := @mem_turn_of_not_expired window now answers loop
  refine ⟨hevents, hnotifications, ?_, ?_⟩
  · rintro hanswer settings world rfl rfl htables
    exact run_sweep settings world htables answers hanswer
  · rintro rfl d cutoff hstd hcutoff hyear hevents hnotifications
    rw [← RetentionTables.purge_eq_purged hyear hevents hnotifications]
    simp only [RetentionLoop.turn, hstd, hcutoff]

/-- Without the clock, a run is one of `RetentionStep`. -/
theorem exists_untimed_run {tables : RetentionTables} {clock : Int}
    {history : List (Taken TimedRetention TimedRetentionLabel)}
    (hrun : Run (TimedRetentionStep window delay) (.initial tables clock) history state) :
    ∃ untimed, Run (RetentionStep window) ⟨tables, .sweeping, false⟩ untimed state.loop := by
  refine hrun.invariant (fun _ state ↦
    ∃ untimed, Run (RetentionStep window) ⟨tables, .sweeping, false⟩ untimed state.loop)
    ⟨[], .start⟩ ?_
  rintro earlier before label after ⟨untimed, huntimed⟩ hstep
  rcases hstep.untimed with hsame | ⟨label, hnext⟩
  · exact ⟨untimed, hsame ▸ huntimed⟩
  · exact ⟨_, huntimed.step hnext⟩

end Timing

/-- Rows are kept for the window, and for at most an interval longer. Every run of the loop in time,
from any tables and with recent rows inserted and any rows deleted, on a clock that does not go
back, is a run of `RetentionStep` when the clock is left out. Whatever the purges answer, a turn
deletes no row that is within the window at its reading of the clock, and does what its statements
do. When the purges of the last turn have succeeded, as long as the loop has neither stopped nor
panicked, no row of either table is older than the window, the interval between two turns and three
delays. -/
theorem rows_kept {window : StdDuration} {delay : ℕ} {tables : RetentionTables} {clock : Int}
    {last : TimedRetention} {history : List (Taken TimedRetention TimedRetentionLabel)}
    (hrun : Run (TimedRetentionStep window delay) (.initial tables clock) history last) :
    (∃ untimed, Run (RetentionStep window) ⟨tables, .sweeping, false⟩ untimed last.loop) ∧
    (∀ taken ∈ history, ∀ now answers, taken.label = .swept now answers →
      TurnPurges window now answers taken.before.loop
        (taken.before.loop.turn window now answers)) ∧
    (LastTurnPurged history → last.loop.phase = .sweeping ∨ last.loop.phase = .sleeping →
      ∀ createdOn ∈ last.loop.tables.times,
        last.clock - createdOn.nanos ≤ window.nanos + sweepInterval + 3 * delay) :=
  ⟨exists_untimed_run hrun, fun taken _ now answers _ ↦ taken.before.loop.turnPurges now answers,
    (RetainedSince.of_run hrun).age_le⟩

/-- An event at an instant. -/
def eventAt (instant : Instant) : DeviceEvent :=
  .new "aa:00:00:00:00:01" instant .newDevice "10.0.0.1" "Acme" .arp

/-- The database has an event of two hours ago, which a first turn deletes for a window of an hour.
An event a second later is within the bound a day after it, when the next turn is about to begin. -/
theorem rows_kept_oldEvent : ∃ history last,
    Run (TimedRetentionStep (.fromSecs 3600) (10 ^ 9))
      (.initial ⟨[eventAt .epoch], []⟩ (7200 * 10 ^ 9)) history last ∧
      last.loop.tables = ⟨[eventAt ⟨7201 * 10 ^ 9, by decide⟩], []⟩ ∧
      (∃ untimed, Run (RetentionStep (.fromSecs 3600)) ⟨⟨[eventAt .epoch], []⟩, .sweeping, false⟩
        untimed last.loop) ∧
      ∀ createdOn ∈ last.loop.tables.times, last.clock - createdOn.nanos ≤
        (StdDuration.fromSecs 3600).nanos + sweepInterval + 3 * (10 ^ 9 : ℕ) := by
  have hstart : Run (TimedRetentionStep (.fromSecs 3600) (10 ^ 9))
      (.initial ⟨[eventAt .epoch], []⟩ (7200 * 10 ^ 9)) [] _ := .start
  have hswept := hstart.step (.swept ⟨7200 * 10 ^ 9, by decide⟩ ⟨.ok (), .ok ()⟩ rfl
    ⟨le_rfl, le_rfl⟩)
  have hlater := hswept.step (.elapsed (10 ^ 9) nofun fun _ ↦ by decide)
  have hrecorded := hlater.step (.eventRecorded (eventAt ⟨7201 * 10 ^ 9, by decide⟩)
    ⟨by decide, by decide⟩)
  have hslept := hrecorded.step (.elapsed 86400000000000 nofun fun _ ↦ by decide)
  obtain ⟨huntimed, -, hages⟩ := rows_kept hslept
  exact ⟨_, _, hslept, rfl, huntimed, hages rfl (Or.inr rfl)⟩

end Oott
