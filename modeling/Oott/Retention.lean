import Oott.Database.Calls
import Oott.Effects.Runs
import Oott.Model.Notifications

/-!
# The retention sweep

`retention.rs`: once a day the events older than the retention window are deleted. A window that is
too long to be a `chrono::Duration` deletes nothing, and one that reaches out of the calendar
panics. `sweep` is the part of a turn that other users of the database can see, where the
`notifications` table is left out.

The loop of `retention::run` is a step relation over both tables (`RetentionStep`), whose turns do
to the events what `sweep` does (`run_sweep`). Where the window reaches no further back than the
calendar does, a turn deletes exactly the rows that are older than it
(`RetentionLoop.turn_eq_swept_iff`), and a run of the loop panics nowhere exactly when this is so in
each of its turns (`retention_run_iff`).
-/

set_option autoImplicit false
set_option relaxedAutoImplicit false

namespace Oott

open Effects

/-- One sweep of `retention::run` over `device_events`. -/
def sweep (settings : Settings) : Program backend Unit := do
  match TimeDelta.fromStd settings.retentionWindow with
  | some window =>
    let cutoff ← Program.orAbort ((← now).sub window)
    let _ ← Db.DeviceEvents.purgeOlderThan cutoff
    return ()
  | none => return ()

/-- A sweep deletes events and leaves the `devices` table alone, whatever fails. -/
theorem exec_sweep {settings : Settings} {world after : World} {outcome : Option Unit}
    (hexec : Program.Exec Faulty (sweep settings) world outcome after) :
    after.db = world.db ∨ ∃ cutoff, after.db = world.db.deleteEventsBefore cutoff := by
  unfold sweep at hexec
  split at hexec
  · next window _ =>
    obtain ⟨instant, afterClock, hclock, hexec⟩ := Program.exec_perform_bind_iff.mp hexec
    have hdb : afterClock.db = world.db := by
      cases hclock
      rfl
    rcases Program.exec_bind_inv hexec with ⟨cutoff, middle, hcutoff, hexec⟩ | ⟨hcutoff, -⟩
    · rw [(Program.exec_orAbort_iff.mp hcutoff).2] at hexec
      obtain ⟨response, afterPurge, hpurge, hexec⟩ := Program.exec_call_iff.mp hexec
      rw [(Program.exec_ret_iff.mp hexec).2, ← hdb]
      cases hpurge with
      | fail statement error => exact Or.inl rfl
      | answer => exact Or.inr ⟨cutoff, rfl⟩
    · rw [(Program.exec_orAbort_iff.mp hcutoff).2]
      exact Or.inl hdb
  · exact Or.inl (by rw [(Program.exec_ret_iff.mp hexec).2])

/-! ### The loop -/

/-- The tables that the retention cleaner deletes from. -/
@[ext] structure RetentionTables where
  deviceEvents : List DeviceEvent
  notifications : List Notification

/-- What the two calls of `purge_older_than` have answered. A purge that fails is logged, and leaves
its table alone. -/
structure PurgeAnswers where
  deviceEvents : Except DbError Unit
  notifications : Except DbError Unit

/-- Where the loop is: at the beginning of a turn, in its sleep, after its last turn, or nowhere,
since it has panicked. -/
inductive RetentionPhase
  | sweeping
  | sleeping
  | stopped
  | panicked
deriving DecidableEq

/-- The loop with the tables, and whether a shutdown has been requested. -/
structure RetentionLoop where
  tables : RetentionTables
  phase : RetentionPhase
  shutdown : Bool

/-- The table after a purge of what has expired. -/
def purged {Row : Type} (createdOn : Row → Instant) (expired : Instant → Prop)
    [DecidablePred expired] (rows : List Row) : Except DbError Unit → List Row
  | .ok _ => rows.filter fun row ↦ ¬ expired (createdOn row)
  | .error _ => rows

/-- The tables after both purges. -/
def RetentionTables.purge (tables : RetentionTables) (expired : Instant → Prop)
    [DecidablePred expired] (answers : PurgeAnswers) : RetentionTables where
  deviceEvents := purged DeviceEvent.createdOn expired tables.deviceEvents answers.deviceEvents
  notifications :=
    purged Notification.createdOn expired tables.notifications answers.notifications

/-- One turn of `retention::run`, up to its sleep. -/
def RetentionLoop.turn (window : StdDuration) (now : Instant) (answers : PurgeAnswers)
    (loop : RetentionLoop) : RetentionLoop :=
  match TimeDelta.fromStd window with
  | some d =>
    match now.sub d with
    | some cutoff =>
      { loop with tables := loop.tables.purge (· < cutoff) answers, phase := .sleeping }
    | none => { loop with phase := .panicked }
  | none => { loop with phase := .sleeping }

/-- What can happen. The rest of the backend writes to the tables at any time. -/
inductive RetentionLabel
  | swept (now : Instant) (answers : PurgeAnswers)
  | slept
  | written (tables : RetentionTables)
  | shutdownRequested
  | broke

/-- The steps of `retention::run`. -/
inductive RetentionStep (window : StdDuration) :
    RetentionLoop → RetentionLabel → RetentionLoop → Prop
  | swept {loop : RetentionLoop} (now : Instant) (answers : PurgeAnswers)
      (hphase : loop.phase = .sweeping) :
      RetentionStep window loop (.swept now answers) (loop.turn window now answers)
  | slept {loop : RetentionLoop} (hphase : loop.phase = .sleeping) :
      RetentionStep window loop .slept { loop with phase := .sweeping }
  | written {loop : RetentionLoop} (tables : RetentionTables) :
      RetentionStep window loop (.written tables) { loop with tables := tables }
  | shutdownRequested {loop : RetentionLoop} :
      RetentionStep window loop .shutdownRequested { loop with shutdown := true }
  | broke {loop : RetentionLoop} (hshutdown : loop.shutdown = true)
      (hphase : loop.phase = .sleeping) :
      RetentionStep window loop .broke { loop with phase := .stopped }

/-! ### What a turn deletes -/

/-- The row is older than the window, by the times in the settings and in the row. -/
def Expired (window : StdDuration) (now createdOn : Instant) : Prop :=
  (window.nanos : Int) < now.nanos - createdOn.nanos

instance (window : StdDuration) (now : Instant) : DecidablePred (Expired window now) :=
  fun _ ↦ inferInstanceAs (Decidable (_ < _))

/-- The window is too long to be a `chrono::Duration`, or its start is in the calendar. -/
def WindowInCalendar (window : StdDuration) (now : Instant) : Prop :=
  TimeDelta.maxNanos < window.nanos ∨ (window.nanos : Int) ≤ now.nanos - Instant.minNanos

instance (window : StdDuration) (now : Instant) : Decidable (WindowInCalendar window now) :=
  inferInstanceAs (Decidable (_ ∨ _))

/-- Nothing is older than a window that is too long to be a `chrono::Duration`. -/
theorem not_expired_of_long {window : StdDuration} (hlong : TimeDelta.maxNanos < window.nanos)
    (now createdOn : Instant) : ¬ Expired window now createdOn := by
  have hnow := now.inRange.2
  have hcreated := createdOn.inRange.1
  unfold Expired
  unfold TimeDelta.maxNanos at hlong
  unfold Instant.maxNanos at hnow
  unfold Instant.minNanos at hcreated
  omega

section Purge

variable {expired other : Instant → Prop} [DecidablePred expired] [DecidablePred other]

theorem purged_congr {Row : Type} (createdOn : Row → Instant)
    (hsame : ∀ instant, expired instant ↔ other instant) (rows : List Row)
    (answer : Except DbError Unit) :
    purged createdOn expired rows answer = purged createdOn other rows answer := by
  cases answer with
  | error error => rfl
  | ok _ => exact List.filter_congr fun row _ ↦ decide_eq_decide.mpr (not_congr (hsame _))

theorem purged_eq_self {Row : Type} (createdOn : Row → Instant)
    (hnone : ∀ instant, ¬ expired instant) (rows : List Row) (answer : Except DbError Unit) :
    purged createdOn expired rows answer = rows := by
  cases answer with
  | error error => rfl
  | ok _ => exact List.filter_eq_self.mpr fun row _ ↦ decide_eq_true (hnone _)

theorem RetentionTables.purge_congr (hsame : ∀ instant, expired instant ↔ other instant)
    (tables : RetentionTables) (answers : PurgeAnswers) :
    tables.purge expired answers = tables.purge other answers :=
  RetentionTables.ext (purged_congr _ hsame _ _) (purged_congr _ hsame _ _)

theorem RetentionTables.purge_eq_self (hnone : ∀ instant, ¬ expired instant)
    (tables : RetentionTables) (answers : PurgeAnswers) : tables.purge expired answers = tables :=
  RetentionTables.ext (purged_eq_self _ hnone _ _) (purged_eq_self _ hnone _ _)

end Purge

section Turn

variable (window : StdDuration) (now : Instant) (answers : PurgeAnswers) (loop : RetentionLoop)

/-- What a turn is for: the rows that are older than the window go, each table as far as its purge
succeeds, and the loop sleeps. -/
def RetentionLoop.swept : RetentionLoop :=
  { loop with tables := loop.tables.purge (Expired window now) answers, phase := .sleeping }

/-- A turn whose window stays in the calendar deletes exactly what is older than the window. -/
theorem RetentionLoop.turn_eq_swept (hwindow : WindowInCalendar window now) :
    loop.turn window now answers = loop.swept window now answers := by
  unfold turn swept
  rcases hwindow with hlong | hback
  · rw [TimeDelta.fromStd_eq_none.mpr hlong,
      RetentionTables.purge_eq_self (not_expired_of_long hlong now)]
  · cases hstd : TimeDelta.fromStd window with
    | none =>
      have hlong := TimeDelta.fromStd_eq_none.mp hstd
      rw [RetentionTables.purge_eq_self (not_expired_of_long hlong now)]
    | some d =>
      have hd := TimeDelta.fromStd_eq_some.mp hstd
      have hnow := now.inRange.2
      obtain ⟨cutoff, hcutoff⟩ : ∃ cutoff : Instant, cutoff.nanos = now.nanos - d.nanos :=
        ⟨⟨now.nanos - d.nanos, by omega, by omega⟩, rfl⟩
      have hexpired : ∀ createdOn, createdOn < cutoff ↔ Expired window now createdOn := by
        intro createdOn
        rw [Instant.lt_iff, hcutoff, hd]
        unfold Expired
        omega
      simp only [Instant.sub_eq_some.mpr hcutoff]
      rw [RetentionTables.purge_congr hexpired]

/-- A turn whose window leaves the calendar panics. -/
theorem RetentionLoop.turn_of_not (hwindow : ¬ WindowInCalendar window now) :
    loop.turn window now answers = { loop with phase := .panicked } := by
  unfold WindowInCalendar at hwindow
  obtain ⟨hshort, hback⟩ := not_or.mp hwindow
  unfold turn
  cases hstd : TimeDelta.fromStd window with
  | none => exact absurd (TimeDelta.fromStd_eq_none.mp hstd) hshort
  | some d =>
    cases hcutoff : now.sub d with
    | none => simp only [hcutoff]
    | some cutoff =>
      have hnanos := Instant.sub_eq_some.mp hcutoff
      have hrange := cutoff.inRange.1
      rw [TimeDelta.fromStd_eq_some.mp hstd] at hnanos
      omega

/-- A turn does what it is for exactly when its window stays in the calendar. -/
theorem RetentionLoop.turn_eq_swept_iff :
    loop.turn window now answers = loop.swept window now answers ↔ WindowInCalendar window now := by
  refine ⟨fun heq ↦ ?_, loop.turn_eq_swept window now answers⟩
  by_contra hwindow
  rw [loop.turn_of_not window now answers hwindow] at heq
  cases congrArg RetentionLoop.phase heq

end Turn

/-- A sweep whose window is a `chrono::Duration` reads the clock for its cutoff. -/
theorem run_sweep_of_fromStd {settings : Settings} {world : World} {window : TimeDelta}
    (hstd : TimeDelta.fromStd settings.retentionWindow = some window) :
    (sweep settings).run clocked world =
      (Program.orAbort ((world.clock 0).sub window) >>= fun cutoff ↦
        Db.DeviceEvents.purgeOlderThan cutoff >>= fun _ ↦ return ()).run clocked world.tick := by
  unfold sweep
  rw [hstd]
  rfl

/-- A turn deletes from the events what `sweep` deletes, and panics where `sweep` does. -/
theorem run_sweep (settings : Settings) (world : World) {loop : RetentionLoop}
    (hevents : loop.tables.deviceEvents = world.db.deviceEvents) (answers : PurgeAnswers)
    (hanswer : answers.deviceEvents = .ok ()) :
    ((sweep settings).run clocked world).2.db.deviceEvents =
        (loop.turn settings.retentionWindow (world.clock 0) answers).tables.deviceEvents ∧
      (((sweep settings).run clocked world).1 = none ↔
        (loop.turn settings.retentionWindow (world.clock 0) answers).phase = .panicked) := by
  unfold RetentionLoop.turn
  cases hstd : TimeDelta.fromStd settings.retentionWindow with
  | none =>
    unfold sweep
    rw [hstd]
    exact ⟨hevents.symm, iff_of_false nofun nofun⟩
  | some window =>
    rw [run_sweep_of_fromStd hstd]
    cases hcutoff : (world.clock 0).sub window with
    | none =>
      simp only [hcutoff]
      exact ⟨hevents.symm, iff_of_true rfl trivial⟩
    | some cutoff =>
      simp only [hcutoff, Program.orAbort_some, Program.ret_bind]
      refine ⟨?_, iff_of_false nofun nofun⟩
      rw [RetentionTables.purge, hanswer, hevents]
      rfl

/-! ### Runs of the loop -/

/-- A turn has its window in the calendar. -/
def RetentionLabel.InCalendar (window : StdDuration) : RetentionLabel → Prop
  | .swept now _ => WindowInCalendar window now
  | _ => True

/-- A step of a loop that has not panicked panics exactly when it is a turn whose window leaves the
calendar. -/
theorem RetentionStep.panicked_iff {window : StdDuration} {loop after : RetentionLoop}
    {label : RetentionLabel} (hstep : RetentionStep window loop label after)
    (hloop : loop.phase ≠ .panicked) :
    after.phase ≠ .panicked ↔ label.InCalendar window := by
  cases hstep with
  | swept now answers hphase =>
    by_cases hwindow : WindowInCalendar window now
    · rw [loop.turn_eq_swept window now answers hwindow]
      exact iff_of_true nofun hwindow
    · rw [loop.turn_of_not window now answers hwindow]
      exact iff_of_false (fun hne ↦ hne rfl) hwindow
  | slept hphase => exact iff_of_true nofun trivial
  | written tables => exact iff_of_true hloop trivial
  | shutdownRequested => exact iff_of_true hloop trivial
  | broke hshutdown hphase => exact iff_of_true nofun trivial

/-- A run of the loop panics nowhere exactly when every turn of it has its window in the
calendar. -/
theorem retention_run_iff {window : StdDuration} {start last : RetentionLoop}
    {history : List (Taken RetentionLoop RetentionLabel)}
    (hrun : Run (RetentionStep window) start history last) (hstart : start.phase ≠ .panicked) :
    (∀ earlier loop, Visited history last earlier loop → loop.phase ≠ .panicked) ↔
      ∀ taken ∈ history, taken.label.InCalendar window :=
  hrun.forall_visited_iff hstart fun _ _ _ _ _ hloop hstep ↦ hstep.panicked_iff hloop

end Oott
