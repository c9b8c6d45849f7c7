import Oott.Database.Statements
import Oott.Model.Notifications
import Oott.Utils.Timestamps

/-!
# Timestamps that SQLite compares

The columns `created_on` and `last_seen` hold texts of nine decimals, and the statements compare
them, as texts, with a cutoff that is rendered with nine decimals or with as many as it needs. On
rows of the years 0 to 9999 and a cutoff that is not beyond them the comparisons are those of the
instants (`comparisons_chronological`): so the statements of `Statement` may compare instants, and a
purge deletes exactly the rows that are older than its cutoff. A cutoff may lie any number of years
in the past. Beyond the year 9999 a text starts with a plus sign, which sorts before every digit.
-/

set_option autoImplicit false
set_option relaxedAutoImplicit false

namespace Oott

/-- `created_on < ?` in the two functions `purge_older_than`. -/
def CreatedBefore (createdOn cutoff : Instant) : Prop :=
  toRfc3339Opts createdOn .nanos < toRfc3339 cutoff

/-- `created_on >= ?` in `recent_duplicate_exists`. -/
def CreatedSince (createdOn since : Instant) : Prop :=
  ¬ toRfc3339Opts createdOn .nanos < toRfc3339Opts since .nanos

/-- `created_on >= ?` in `device_events::list`. -/
def CreatedFrom (createdOn createdFrom : Instant) : Prop :=
  ¬ toRfc3339Opts createdOn .nanos < toRfc3339 createdFrom

/-- `last_seen >= ?` in `get_summary`. -/
def LastSeenSince (lastSeen cutoff : Instant) : Prop :=
  ¬ toRfc3339Opts lastSeen .nanos < toRfc3339 cutoff

instance (createdOn cutoff : Instant) : Decidable (CreatedBefore createdOn cutoff) :=
  inferInstanceAs (Decidable (_ < _))

instance (createdOn since : Instant) : Decidable (CreatedSince createdOn since) :=
  inferInstanceAs (Decidable (¬ _ < _))

instance (lastSeen cutoff : Instant) : Decidable (LastSeenSince lastSeen cutoff) :=
  inferInstanceAs (Decidable (¬ _ < _))

/-- The rows that `db::device_events::purge_older_than` leaves. -/
def Db.DeviceEvents.purged (rows : List DeviceEvent) (cutoff : Instant) : List DeviceEvent :=
  rows.filter fun row ↦ ¬ CreatedBefore row.createdOn cutoff

/-- The rows that `db::notifications::purge_older_than` leaves. -/
def Db.Notifications.purged (rows : List Notification) (cutoff : Instant) : List Notification :=
  rows.filter fun row ↦ ¬ CreatedBefore row.createdOn cutoff

/-- The rows that `recent_duplicate_exists` counts. -/
def Db.DeviceEvents.recentDuplicates (rows : List DeviceEvent) (macAddress : String)
    (scanner : DeviceEventScanner) (eventType : DeviceEventType) (since : Instant) :
    List DeviceEvent :=
  rows.filter fun row ↦ NocaseEq row.macAddress macAddress ∧ row.scanner = scanner ∧
    row.eventType = eventType ∧ CreatedSince row.createdOn since

/-- `DeviceSummary`. -/
structure DeviceSummary where
  totalRegistered : ℕ
  seenLastDayRegistered : ℕ
  seenLastDayUnregistered : ℕ
  seenLastWeekRegistered : ℕ
  seenLastWeekUnregistered : ℕ
deriving DecidableEq

/-- `SELECT COUNT(*) FROM devices WHERE last_seen >= ? AND is_registered = ?`. -/
def countSeenSince (rows : List Device) (cutoff : Instant) (isRegistered : Bool) : ℕ :=
  rows.countP fun row ↦ LastSeenSince row.lastSeen cutoff ∧ row.isRegistered = isRegistered

/-- `Duration::days(1)`. -/
def TimeDelta.oneDay : TimeDelta := ⟨86400 * 10 ^ 9, by decide⟩

/-- `Duration::weeks(1)`. -/
def TimeDelta.oneWeek : TimeDelta := ⟨604800 * 10 ^ 9, by decide⟩

/-- `get_summary`, by the two readings of the clock; `none` where the subtraction panics. -/
def Db.Devices.getSummary (rows : List Device) (dayClock weekClock : Instant) :
    Option DeviceSummary := do
  let oneDayAgo ← dayClock.sub .oneDay
  let oneWeekAgo ← weekClock.sub .oneWeek
  return {
    totalRegistered := rows.countP Device.isRegistered
    seenLastDayRegistered := countSeenSince rows oneDayAgo true
    seenLastDayUnregistered := countSeenSince rows oneDayAgo false
    seenLastWeekRegistered := countSeenSince rows oneWeekAgo true
    seenLastWeekUnregistered := countSeenSince rows oneWeekAgo false }

/-! ### The comparisons are those of instants -/

section Comparisons

variable {stored cutoff : Instant} (hstored : stored.FourDigitYear) (hcutoff : cutoff.year ≤ 9999)

include hstored hcutoff

theorem createdBefore_iff : CreatedBefore stored cutoff ↔ stored < cutoff :=
  stored_lt_iff hstored hcutoff

theorem createdSince_iff : CreatedSince stored cutoff ↔ cutoff ≤ stored :=
  (not_congr (stored_lt_iff hstored hcutoff)).trans not_lt

theorem createdFrom_iff : CreatedFrom stored cutoff ↔ cutoff ≤ stored :=
  (not_congr (stored_lt_iff hstored hcutoff)).trans not_lt

theorem lastSeenSince_iff : LastSeenSince stored cutoff ↔ cutoff ≤ stored :=
  (not_congr (stored_lt_iff hstored hcutoff)).trans not_lt

end Comparisons

/-- The duplicates that the statement counts are those of `Database.countEvents`. -/
theorem length_recentDuplicates {db : Database} {since : Instant}
    (hrows : ∀ row ∈ db.deviceEvents, row.createdOn.FourDigitYear) (hsince : since.year ≤ 9999)
    (macAddress : String) (scanner : DeviceEventScanner) (eventType : DeviceEventType) :
    (Db.DeviceEvents.recentDuplicates db.deviceEvents macAddress scanner eventType since).length =
      db.countEvents macAddress scanner eventType since := by
  unfold Db.DeviceEvents.recentDuplicates Database.countEvents
  rw [← List.countP_eq_length_filter]
  refine List.countP_congr fun row hrow ↦ ?_
  rw [decide_eq_true_iff, decide_eq_true_iff, createdSince_iff (hrows row hrow) hsince]
  exact Iff.rfl

/-- How many devices have been seen at an instant or after it. -/
def seenFrom (rows : List Device) (cutoff : Instant) (isRegistered : Bool) : ℕ :=
  rows.countP fun row ↦ cutoff ≤ row.lastSeen ∧ row.isRegistered = isRegistered

/-- The counts of the summary are those of the instants. -/
theorem countSeenSince_eq {rows : List Device} {cutoff : Instant}
    (hrows : ∀ row ∈ rows, row.lastSeen.FourDigitYear) (hcutoff : cutoff.year ≤ 9999)
    (isRegistered : Bool) :
    countSeenSince rows cutoff isRegistered = seenFrom rows cutoff isRegistered := by
  refine List.countP_congr fun row hrow ↦ ?_
  rw [decide_eq_true_iff, decide_eq_true_iff, lastSeenSince_iff (hrows row hrow) hcutoff]

theorem getSummary_eq {rows : List Device} {dayClock weekClock oneDayAgo oneWeekAgo : Instant}
    (hrows : ∀ row ∈ rows, row.lastSeen.FourDigitYear)
    (hday : dayClock.sub .oneDay = some oneDayAgo)
    (hweek : weekClock.sub .oneWeek = some oneWeekAgo)
    (hdayYear : oneDayAgo.year ≤ 9999) (hweekYear : oneWeekAgo.year ≤ 9999) :
    Db.Devices.getSummary rows dayClock weekClock =
      some ⟨rows.countP Device.isRegistered, seenFrom rows oneDayAgo true,
        seenFrom rows oneDayAgo false, seenFrom rows oneWeekAgo true,
        seenFrom rows oneWeekAgo false⟩ := by
  unfold Db.Devices.getSummary
  rw [hday, hweek]
  simp only [Option.bind_eq_bind, Option.bind_some, countSeenSince_eq hrows hdayYear,
    countSeenSince_eq hrows hweekYear]
  rfl

/-- Text comparison of timestamps is chronological. For a stored timestamp of the years 0 to 9999
and a cutoff of any year up to 9999, however far in the past, the four comparisons give the answer
of the instants. So a purge leaves exactly the rows that are not older than its cutoff, the
duplicates of an event are those of the instants, and so are the counts of the summary. -/
theorem comparisons_chronological (cutoff : Instant) (hcutoff : cutoff.year ≤ 9999) :
    (∀ stored : Instant, stored.FourDigitYear →
      (CreatedBefore stored cutoff ↔ stored < cutoff) ∧
      (CreatedSince stored cutoff ↔ cutoff ≤ stored) ∧
      (CreatedFrom stored cutoff ↔ cutoff ≤ stored) ∧
      (LastSeenSince stored cutoff ↔ cutoff ≤ stored)) ∧
    (∀ db : Database, (∀ row ∈ db.deviceEvents, row.createdOn.FourDigitYear) →
      Db.DeviceEvents.purged db.deviceEvents cutoff =
        (db.deleteEventsBefore cutoff).deviceEvents) ∧
    (∀ rows : List Notification, (∀ row ∈ rows, row.createdOn.FourDigitYear) →
      Db.Notifications.purged rows cutoff = rows.filter fun row ↦ ¬ row.createdOn < cutoff) ∧
    (∀ db : Database, (∀ row ∈ db.deviceEvents, row.createdOn.FourDigitYear) →
      ∀ macAddress scanner eventType,
        (Db.DeviceEvents.recentDuplicates db.deviceEvents macAddress scanner eventType
          cutoff).length = db.countEvents macAddress scanner eventType cutoff) ∧
    ∀ rows : List Device, (∀ row ∈ rows, row.lastSeen.FourDigitYear) →
      ∀ dayClock weekClock oneWeekAgo : Instant, dayClock.sub .oneDay = some cutoff →
        weekClock.sub .oneWeek = some oneWeekAgo → oneWeekAgo.year ≤ 9999 →
          Db.Devices.getSummary rows dayClock weekClock =
            some ⟨rows.countP Device.isRegistered, seenFrom rows cutoff true,
              seenFrom rows cutoff false, seenFrom rows oneWeekAgo true,
              seenFrom rows oneWeekAgo false⟩ := by
  refine ⟨fun stored hstored ↦ ⟨createdBefore_iff hstored hcutoff,
    createdSince_iff hstored hcutoff, createdFrom_iff hstored hcutoff,
    lastSeenSince_iff hstored hcutoff⟩, fun db hrows ↦ ?_, fun rows hrows ↦ ?_,
    fun db hrows ↦ length_recentDuplicates hrows hcutoff,
    fun rows hrows _ _ _ hday hweek ↦ getSummary_eq hrows hday hweek hcutoff⟩
  · refine List.filter_congr fun row hrow ↦ ?_
    exact decide_eq_decide.mpr (not_congr (createdBefore_iff (hrows row hrow) hcutoff))
  · refine List.filter_congr fun row hrow ↦ ?_
    exact decide_eq_decide.mpr (not_congr (createdBefore_iff (hrows row hrow) hcutoff))

/-- Noon on 1 June 2026. -/
def noonOfJune : Instant := ⟨1780315200 * 10 ^ 9, by decide⟩

/-- The first instant of the year 10000. -/
def yearTenThousand : Instant := ⟨253402300800 * 10 ^ 9, by decide⟩

/-- Neither year can be beyond 9999: a row of 2026 is older than the year 10000, but its text does
not sort before that of the year, so that a purge with that cutoff keeps the row; and a row of the
year 10000 is purged as older than 2026. -/
theorem not_createdBefore_yearTenThousand :
    (¬ ∀ stored cutoff : Instant, stored.FourDigitYear →
      (CreatedBefore stored cutoff ↔ stored < cutoff)) ∧
    ¬ ∀ stored cutoff : Instant, cutoff.year ≤ 9999 →
      (CreatedBefore stored cutoff ↔ stored < cutoff) := by
  constructor
  · intro hall
    have hiff := hall noonOfJune yearTenThousand (by decide)
    exact absurd (hiff.mpr (by decide)) (by decide)
  · intro hall
    have hiff := hall yearTenThousand noonOfJune (by decide)
    exact absurd (hiff.mp (by decide)) (by decide)

/-- A row of 2026 against the start of a window that lies in 2026 too. -/
theorem comparisons_chronological_june :
    CreatedBefore .epoch noonOfJune ∧ CreatedFrom noonOfJune noonOfJune :=
  have hall := (comparisons_chronological noonOfJune (by decide)).1
  ⟨(hall .epoch (by decide)).1.mpr (by decide), (hall noonOfJune (by decide)).2.2.1.mpr le_rfl⟩

end Oott
