import Mathlib.Algebra.Order.Group.Unbundled.Int
import Mathlib.Tactic.Common

/-!
# The proleptic Gregorian calendar

Days are counted from 1 January 1970. A year is taken to start in March, so that the leap day is its
last day: `marchStart` counts the days before a year, and the months of a year follow one another
with the lengths of `(153 * month + 2) / 5`. `ofEpochDay` and `toEpochDay` are inverse on the days
of the calendar (`toEpochDay_ofEpochDay`), and the dates are in the order of their days
(`ofEpochDay_precedes`).
-/

set_option autoImplicit false
set_option relaxedAutoImplicit false

namespace Gregorian

/-- A date: the year, the month from 1 and the day of the month from 1. -/
@[ext] structure Date where
  year : Int
  month : ℕ
  day : ℕ
deriving DecidableEq

/-- The order of dates. -/
def Date.Precedes (first second : Date) : Prop :=
  first.year < second.year ∨ first.year = second.year ∧
    (first.month < second.month ∨ first.month = second.month ∧ first.day < second.day)

/-- The days from 1 March of the year 0 to 1 March of the year. -/
def marchStart (year : Int) : Int := 365 * year + year / 4 - year / 100 + year / 400

/-- The year, counted from March, of a day counted from 1 March of the year 0. -/
def marchYear (day : Int) : Int :=
  let estimate := 400 * day / 146097
  if marchStart (estimate + 1) ≤ day then estimate + 1
  else if day < marchStart estimate then estimate - 1
  else estimate

/-- The days of a year before a month, where March is the month 0. -/
def monthStart (month : ℕ) : ℕ := (153 * month + 2) / 5

/-- The month of a day of the year, where March is the month 0. -/
def marchMonth (dayOfYear : ℕ) : ℕ := (5 * dayOfYear + 2) / 153

/-- The date of a day. -/
def ofEpochDay (epochDay : Int) : Date :=
  let day := epochDay + 719468
  let year := marchYear day
  let dayOfYear := (day - marchStart year).toNat
  let month := marchMonth dayOfYear
  let dayOfMonth := dayOfYear - monthStart month + 1
  if month < 10 then ⟨year, month + 3, dayOfMonth⟩ else ⟨year + 1, month - 9, dayOfMonth⟩

/-- The day of a date. -/
def toEpochDay (date : Date) : Int :=
  let year := if date.month < 3 then date.year - 1 else date.year
  let month := if date.month < 3 then date.month + 9 else date.month - 3
  marchStart year + monthStart month + date.day - 1 - 719468

theorem marchStart_le (year : Int) : marchStart (year + 1) ≤ marchStart year + 366 := by
  unfold marchStart
  omega

theorem marchStart_mono {first second : Int} (h : first ≤ second) :
    marchStart first ≤ marchStart second := by
  unfold marchStart
  omega

/-- A day lies in its year. -/
theorem marchYear_spec (day : Int) :
    marchStart (marchYear day) ≤ day ∧ day < marchStart (marchYear day + 1) := by
  unfold marchYear
  generalize hestimate : 400 * day / 146097 = estimate
  have hlower : marchStart (estimate - 1) ≤ day := by
    unfold marchStart
    omega
  have hupper : day < marchStart (estimate + 2) := by
    unfold marchStart
    omega
  dsimp only
  split_ifs with hnext hbefore
  · exact ⟨hnext, by rwa [add_assoc]⟩
  · exact ⟨hlower, by rwa [sub_add_cancel]⟩
  · exact ⟨not_lt.mp hbefore, not_le.mp hnext⟩

/-- The days of a year that starts in March, and their month and day. -/
theorem marchMonth_spec {dayOfYear : ℕ} (h : dayOfYear < 366) :
    marchMonth dayOfYear < 12 ∧ monthStart (marchMonth dayOfYear) ≤ dayOfYear ∧
      dayOfYear < monthStart (marchMonth dayOfYear) + 31 := by
  unfold marchMonth monthStart
  omega

theorem marchMonth_mono {first second : ℕ} (h : first ≤ second) :
    marchMonth first ≤ marchMonth second := by
  unfold marchMonth
  omega

/-- The date of a day, by its year from March and its day of that year. -/
theorem exists_dayOfYear (epochDay : Int) :
    ∃ (year : Int) (dayOfYear : ℕ), epochDay + 719468 = marchStart year + dayOfYear ∧
      epochDay + 719468 < marchStart (year + 1) ∧ dayOfYear < 366 ∧ ofEpochDay epochDay =
        if marchMonth dayOfYear < 10 then
          ⟨year, marchMonth dayOfYear + 3, dayOfYear - monthStart (marchMonth dayOfYear) + 1⟩
        else
          ⟨year + 1, marchMonth dayOfYear - 9,
            dayOfYear - monthStart (marchMonth dayOfYear) + 1⟩ := by
  obtain ⟨hlower, hupper⟩ := marchYear_spec (epochDay + 719468)
  have hlength := marchStart_le (marchYear (epochDay + 719468))
  refine ⟨marchYear (epochDay + 719468),
    (epochDay + 719468 - marchStart (marchYear (epochDay + 719468))).toNat, ?_, hupper, ?_, rfl⟩
  · omega
  · omega

/-- The month and the day of a date are in their ranges. -/
theorem ofEpochDay_inRange (epochDay : Int) :
    1 ≤ (ofEpochDay epochDay).month ∧ (ofEpochDay epochDay).month ≤ 12 ∧
      1 ≤ (ofEpochDay epochDay).day ∧ (ofEpochDay epochDay).day ≤ 31 := by
  obtain ⟨year, dayOfYear, -, -, hdayOfYear, hdate⟩ := exists_dayOfYear epochDay
  obtain ⟨hmonth, hstart, hend⟩ := marchMonth_spec hdayOfYear
  rw [hdate]
  split_ifs with hmarch
  · dsimp only
    omega
  · dsimp only
    omega

example : ofEpochDay 20605 = ⟨2026, 6, 1⟩ ∧ ofEpochDay 19782 = ⟨2024, 2, 29⟩ ∧
    ofEpochDay (-719529) = ⟨-1, 12, 31⟩ := by decide

/-- The day of the date of a day is the day. -/
@[simp] theorem toEpochDay_ofEpochDay (epochDay : Int) :
    toEpochDay (ofEpochDay epochDay) = epochDay := by
  obtain ⟨year, dayOfYear, hday, -, hdayOfYear, hdate⟩ := exists_dayOfYear epochDay
  obtain ⟨hmonth, hstart, hend⟩ := marchMonth_spec hdayOfYear
  rw [hdate]
  unfold toEpochDay
  split_ifs with hmarch hearly hearly
  · dsimp only at hearly
    omega
  · dsimp only
    rw [Nat.add_sub_cancel]
    omega
  · dsimp only
    rw [add_sub_cancel_right, Nat.sub_add_cancel (not_lt.mp hmarch |>.trans' (by decide))]
    omega
  · dsimp only at hearly
    omega

/-- The dates are in the order of their days. -/
theorem ofEpochDay_precedes {first second : Int} (h : first < second) :
    (ofEpochDay first).Precedes (ofEpochDay second) := by
  obtain ⟨year, dayOfYear, hday, -, hdayOfYear, hdate⟩ := exists_dayOfYear first
  obtain ⟨year', dayOfYear', hday', hnext', hdayOfYear', hdate'⟩ := exists_dayOfYear second
  obtain ⟨hmonth, hstart, -⟩ := marchMonth_spec hdayOfYear
  obtain ⟨hmonth', hstart', -⟩ := marchMonth_spec hdayOfYear'
  have hyear : year ≤ year' := by
    by_contra hlater
    have := marchStart_mono (Int.add_one_le_iff.mpr (not_le.mp hlater))
    omega
  rw [hdate, hdate']
  unfold Date.Precedes
  rcases hyear.lt_or_eq with hbefore | rfl
  · -- a later year: at most its January and February share a calendar year with the first
    split_ifs with hmarch hmarch' hmarch'
    · exact Or.inl hbefore
    · exact Or.inl (hbefore.trans (Int.lt_succ _))
    · dsimp only
      omega
    · exact Or.inl (Int.add_lt_add_right hbefore 1)
  · have hdays : dayOfYear < dayOfYear' := by omega
    have hmonths := marchMonth_mono hdays.le
    rcases hmonths.lt_or_eq with hearlier | hsame
    · split_ifs <;> dsimp only <;> omega
    · rw [← hsame]
      rw [← hsame] at hstart'
      split_ifs <;> dsimp only <;> omega

end Gregorian
