import Oott.Calendar.Gregorian
import Oott.Model.Time
import Oott.Text.FixedWidth

/-!
# Timestamps as text

`DateTime::to_rfc3339` and `to_rfc3339_opts` on a `DateTime<Utc>`: the date and the time of day with
two digits for each field, the fraction of the second, and the offset `+00:00`. A year from 0 to
9999 has four digits; any other has a sign and at least four. `to_rfc3339` writes no fraction, or
one of 3, 6 or 9 digits, whichever loses nothing; rows are stored with 9 digits always.

`stored_lt_iff` and `lt_stored_iff` compare a stored text with any rendering of a
second instant: SQLite compares texts byte by byte, which on UTF-8 is the order of `String`.
-/

set_option autoImplicit false
set_option relaxedAutoImplicit false

namespace Oott

open FixedWidth

/-- `SecondsFormat`, as far as the backend uses it: nine digits, or as many as are needed. -/
inductive SecondsFormat
  | nanos
  | autoSi
deriving DecidableEq

namespace Instant

/-- The whole seconds since the epoch. -/
def seconds (instant : Instant) : Int := instant.nanos / 10 ^ 9

/-- The nanoseconds within the second. -/
def subsecNanos (instant : Instant) : ℕ := (instant.nanos % 10 ^ 9).toNat

/-- The date. -/
def date (instant : Instant) : Gregorian.Date := Gregorian.ofEpochDay (instant.seconds / 86400)

example : date ⟨minNanos, by decide⟩ = ⟨-262143, 1, 1⟩ ∧
    date ⟨maxNanos, by decide⟩ = ⟨262142, 12, 31⟩ := by decide

/-- The year. -/
def year (instant : Instant) : Int := instant.date.year

/-- The second of the day. -/
def secondOfDay (instant : Instant) : ℕ := (instant.seconds % 86400).toNat

/-- The fields after the year: month, day, hour, minute and second. -/
def laterFields (instant : Instant) : List ℕ :=
  [instant.date.month, instant.date.day, instant.secondOfDay / 3600,
    instant.secondOfDay / 60 % 60, instant.secondOfDay % 60]

/-- The instant lies in the years that have four digits. -/
def FourDigitYear (instant : Instant) : Prop := 0 ≤ instant.year ∧ instant.year ≤ 9999

instance (instant : Instant) : Decidable instant.FourDigitYear :=
  inferInstanceAs (Decidable (_ ∧ _))

end Instant

/-- The text of a year. -/
def yearText (year : Int) : List Char :=
  if 0 ≤ year ∧ year ≤ 9999 then digits 4 year.toNat
  else (if year < 0 then '-' else '+') :: (Nat.toDigits 10 year.natAbs).leftpad 4 '0'

/-- The widths and separators of the fields after the year. -/
def laterFormat : List (ℕ × List Char) := [(2, ['-']), (2, ['T']), (2, [':']), (2, [':']), (2, [])]

/-- The text of the fraction of a second. -/
def fractionText : SecondsFormat → ℕ → List Char
  | .nanos, nanos => '.' :: digits 9 nanos
  | .autoSi, nanos =>
    if nanos = 0 then []
    else if nanos % 1000000 = 0 then '.' :: digits 3 (nanos / 1000000)
    else if nanos % 1000 = 0 then '.' :: digits 6 (nanos / 1000)
    else '.' :: digits 9 nanos

/-- The text of the offset of UTC. -/
def offsetText : List Char := ['+', '0', '0', ':', '0', '0']

/-- `to_rfc3339_opts` without `Z`. -/
def toRfc3339Opts (instant : Instant) (format : SecondsFormat) : String :=
  String.ofList (yearText instant.year ++ ['-'] ++ render laterFormat instant.laterFields ++
    fractionText format instant.subsecNanos ++ offsetText)

/-- `to_rfc3339`. -/
def toRfc3339 (instant : Instant) : String := toRfc3339Opts instant .autoSi

example : toRfc3339 ⟨1780315200 * 10 ^ 9, by decide⟩ = "2026-06-01T12:00:00+00:00" ∧
    toRfc3339Opts ⟨-1, by decide⟩ .autoSi = "1969-12-31T23:59:59.999999999+00:00" ∧
    toRfc3339Opts ⟨1500 * 10 ^ 6, by decide⟩ .autoSi = "1970-01-01T00:00:01.500+00:00" := by decide

/-! ### The order of the texts -/

namespace Instant

variable {first second : Instant}

theorem subsecNanos_lt (instant : Instant) : instant.subsecNanos < 10 ^ 9 := by
  unfold subsecNanos
  omega

/-- Instants are in the order of their seconds, and within one second of their nanoseconds. -/
theorem lt_iff_seconds :
    first < second ↔ first.seconds < second.seconds ∨
      first.seconds = second.seconds ∧ first.subsecNanos < second.subsecNanos := by
  rw [lt_iff]
  unfold seconds subsecNanos
  omega

theorem eq_iff_seconds :
    first = second ↔ first.seconds = second.seconds ∧ first.subsecNanos = second.subsecNanos := by
  rw [Instant.ext_iff]
  unfold seconds subsecNanos
  omega

/-- The fields after the year, and the date, are those of the second. -/
theorem date_congr (h : first.seconds = second.seconds) : first.date = second.date := by
  unfold date
  rw [h]

theorem laterFields_congr (h : first.seconds = second.seconds) :
    first.laterFields = second.laterFields := by
  unfold laterFields secondOfDay
  rw [date_congr h, h]

/-- A later year is a later instant. -/
theorem lt_of_year_lt (h : first.year < second.year) : first.seconds < second.seconds := by
  by_contra hle
  rcases (Int.ediv_le_ediv (by decide : (0 : Int) < 86400) (not_lt.mp hle)).lt_or_eq with
    hday | hday
  · have hprecedes := Gregorian.ofEpochDay_precedes hday
    unfold Gregorian.Date.Precedes at hprecedes
    unfold year date at h
    omega
  · unfold year date at h
    rw [hday] at h
    exact lt_irrefl _ h

/-- The fields of an earlier second come first. -/
theorem fields_lt (hfirst : first.FourDigitYear) (h : first.seconds < second.seconds) :
    first.year.toNat :: first.laterFields < second.year.toNat :: second.laterFields := by
  obtain ⟨hyear, -⟩ := hfirst
  unfold year at hyear ⊢
  simp only [laterFields, List.cons_lt_cons_iff]
  rcases (Int.ediv_le_ediv (by decide : (0 : Int) < 86400) h.le).lt_or_eq with hday | hday
  · have hprecedes := Gregorian.ofEpochDay_precedes hday
    unfold Gregorian.Date.Precedes at hprecedes
    unfold date at hyear ⊢
    omega
  · have hdate : first.date = second.date := by
      unfold date
      rw [hday]
    rw [hdate]
    unfold secondOfDay
    omega

theorem fits (instant : Instant) : Fits laterFormat instant.laterFields := by
  obtain ⟨-, hmonth, -, hday⟩ := Gregorian.ofEpochDay_inRange (instant.seconds / 86400)
  unfold laterFormat laterFields Fits secondOfDay date
  refine .cons ?_ (.cons ?_ (.cons ?_ (.cons ?_ (.cons ?_ .nil)))) <;> dsimp only <;> omega

end Instant

/-- The fraction is written with fewer than nine digits. -/
def IsShort (format : SecondsFormat) (nanos : ℕ) : Prop := format = .autoSi ∧ nanos % 1000 = 0

instance (format : SecondsFormat) (nanos : ℕ) : Decidable (IsShort format nanos) :=
  inferInstanceAs (Decidable (_ ∧ _))

/-- A fraction is left out, or is a number of which the last digits are zeros and are left out. -/
theorem fractionText_cases (format : SecondsFormat) {nanos : ℕ} (h : nanos < 10 ^ 9) :
    (fractionText format nanos = [] ∧ nanos = 0 ∧ IsShort format nanos) ∨
      ∃ width rest k, width + rest = 9 ∧ k < 10 ^ width ∧ k * 10 ^ rest = nanos ∧
        fractionText format nanos = '.' :: digits width k ∧ (0 < rest ↔ IsShort format nanos) := by
  unfold IsShort
  cases format with
  | nanos =>
    exact Or.inr ⟨9, 0, nanos, rfl, h, Nat.mul_one nanos, rfl, by simp⟩
  | autoSi =>
    simp only [fractionText]
    split_ifs with hzero hmillis hmicros
    · exact Or.inl ⟨rfl, hzero, trivial, by rw [hzero]⟩
    · refine Or.inr ⟨3, 6, nanos / 1000000, rfl, by omega, by omega, rfl, ?_⟩
      exact iff_of_true (by decide) ⟨trivial, by omega⟩
    · refine Or.inr ⟨6, 3, nanos / 1000, rfl, by omega, by omega, rfl, ?_⟩
      exact iff_of_true (by decide) ⟨trivial, hmicros⟩
    · refine Or.inr ⟨9, 0, nanos, rfl, h, Nat.mul_one nanos, rfl, ?_⟩
      exact iff_of_false (by decide) fun hshort ↦ hmicros hshort.2

section Fractions

variable {format : SecondsFormat} {stored nanos : ℕ}

/-- The nine digits of a stored fraction against any rendering of another. -/
theorem stored_lt_fraction_iff (hstored : stored < 10 ^ 9) (hnanos : nanos < 10 ^ 9) :
    fractionText .nanos stored ++ offsetText < fractionText format nanos ++ offsetText ↔
      stored < nanos := by
  rcases fractionText_cases format hnanos with ⟨hnone, rfl, -⟩ |
    ⟨width, rest, k, hwidth, hk, rfl, htext, -⟩
  · rw [hnone]
    exact iff_of_false (by simp [fractionText, offsetText, List.cons_lt_cons_iff])
      (Nat.not_lt_zero stored)
  · rw [htext]
    show '.' :: (digits 9 stored ++ _) < '.' :: (digits width k ++ _) ↔ _
    rw [← hwidth] at hstored ⊢
    rw [List.cons_lt_cons_self]
    exact digits_mark_lt_iff hstored hk (by decide) _

/-- Any rendering of a fraction against the nine digits of a stored one. -/
theorem fraction_lt_stored_iff (hstored : stored < 10 ^ 9) (hnanos : nanos < 10 ^ 9) :
    fractionText format nanos ++ offsetText < fractionText .nanos stored ++ offsetText ↔
      nanos < stored ∨ nanos = stored ∧ IsShort format nanos := by
  rcases fractionText_cases format hnanos with ⟨hnone, rfl, hshort⟩ |
    ⟨width, rest, k, hwidth, hk, rfl, htext, hshort⟩
  · rw [hnone]
    refine iff_of_true (by simp [fractionText, offsetText, List.cons_lt_cons_iff]) ?_
    rcases Nat.eq_zero_or_pos stored with hzero | hpos
    · exact Or.inr ⟨hzero.symm, hshort⟩
    · exact Or.inl hpos
  · rw [htext, ← hshort]
    show '.' :: (digits width k ++ _) < '.' :: (digits 9 stored ++ _) ↔ _
    rw [← hwidth] at hstored ⊢
    rw [List.cons_lt_cons_self]
    exact digits_mark_gt_iff hstored hk (by decide) _

end Fractions

/-- The text of an instant of a four-digit year: its fields at fixed widths, and the fraction. -/
theorem toList_toRfc3339Opts {instant : Instant} (hyear : instant.FourDigitYear)
    (format : SecondsFormat) :
    (toRfc3339Opts instant format).toList =
      render ((4, ['-']) :: laterFormat) (instant.year.toNat :: instant.laterFields) ++
        (fractionText format instant.subsecNanos ++ offsetText) := by
  have hdigits : yearText instant.year = digits 4 instant.year.toNat := if_pos hyear
  unfold toRfc3339Opts
  rw [hdigits, String.toList_ofList, ← List.append_assoc]
  rfl

theorem fits_fields {instant : Instant} (hyear : instant.FourDigitYear) :
    Fits ((4, ['-']) :: laterFormat) (instant.year.toNat :: instant.laterFields) := by
  refine .cons ?_ instant.fits
  obtain ⟨hlower, hupper⟩ := hyear
  show instant.year.toNat < 10 ^ 4
  omega

section Texts

variable {first second : Instant} {format format' : SecondsFormat}

/-- An earlier second has an earlier text, whatever the fractions. -/
theorem text_lt_of_seconds_lt (hfirst : first.FourDigitYear) (hsecond : second.FourDigitYear)
    (h : first.seconds < second.seconds) :
    toRfc3339Opts first format < toRfc3339Opts second format' := by
  rw [String.lt_iff, toList_toRfc3339Opts hfirst, toList_toRfc3339Opts hsecond]
  exact render_lt (fits_fields hfirst) (fits_fields hsecond) (Instant.fields_lt hfirst h) _ _

/-- Within one second the fractions decide. -/
theorem text_lt_iff_of_seconds_eq (hfirst : first.FourDigitYear) (hsecond : second.FourDigitYear)
    (h : first.seconds = second.seconds) :
    toRfc3339Opts first format < toRfc3339Opts second format' ↔
      fractionText format first.subsecNanos ++ offsetText <
        fractionText format' second.subsecNanos ++ offsetText := by
  have hyear : first.year = second.year := congrArg Gregorian.Date.year (Instant.date_congr h)
  rw [String.lt_iff, toList_toRfc3339Opts hfirst, toList_toRfc3339Opts hsecond, hyear,
    Instant.laterFields_congr h, append_lt_append_iff]

/-- A year before 0 is written with a minus sign, which sorts before every digit. -/
theorem text_lt_of_year_neg (hfirst : first.year < 0) (hsecond : second.FourDigitYear) :
    toRfc3339Opts first format < toRfc3339Opts second format' := by
  rw [String.lt_iff, toList_toRfc3339Opts hsecond]
  unfold toRfc3339Opts yearText
  rw [if_neg fun hyear ↦ absurd hyear.1 (not_le.mpr hfirst), if_pos hfirst, String.toList_ofList]
  simp only [render, List.append_assoc, List.cons_append]
  exact mark_lt_digits (by decide) 3 _ _ _

/-- A stored text is less than any rendering of an instant exactly when it is of an earlier one. -/
theorem stored_lt_iff (hfirst : first.FourDigitYear) (hsecond : second.year ≤ 9999) :
    toRfc3339Opts first .nanos < toRfc3339Opts second format ↔ first < second := by
  by_cases hnegative : second.year < 0
  · have hbefore := Instant.lt_of_year_lt (hnegative.trans_le hfirst.1)
    refine iff_of_false (String.lt_asymm (text_lt_of_year_neg hnegative hfirst)) ?_
    exact lt_asymm (Instant.lt_iff_seconds.mpr (Or.inl hbefore))
  have hyear : second.FourDigitYear := ⟨not_lt.mp hnegative, hsecond⟩
  rw [Instant.lt_iff_seconds]
  rcases lt_trichotomy first.seconds second.seconds with hlt | heq | hgt
  · exact iff_of_true (text_lt_of_seconds_lt hfirst hyear hlt) (Or.inl hlt)
  · rw [text_lt_iff_of_seconds_eq hfirst hyear heq,
      stored_lt_fraction_iff first.subsecNanos_lt second.subsecNanos_lt]
    exact ⟨fun h ↦ Or.inr ⟨heq, h⟩, fun h ↦ (h.resolve_left heq.not_lt).2⟩
  · refine iff_of_false (String.lt_asymm (text_lt_of_seconds_lt hyear hfirst hgt)) ?_
    exact fun h ↦ h.elim (lt_asymm hgt) fun hsame ↦ hgt.ne hsame.1.symm

/-- A rendering of an instant is less than a stored text exactly when it is of an earlier instant,
or of the same one but shorter. -/
theorem lt_stored_iff (hfirst : first.year ≤ 9999) (hsecond : second.FourDigitYear) :
    toRfc3339Opts first format < toRfc3339Opts second .nanos ↔
      first < second ∨ first = second ∧ IsShort format first.subsecNanos := by
  by_cases hnegative : first.year < 0
  · have hbefore := Instant.lt_of_year_lt (hnegative.trans_le hsecond.1)
    exact iff_of_true (text_lt_of_year_neg hnegative hsecond)
      (Or.inl (Instant.lt_iff_seconds.mpr (Or.inl hbefore)))
  have hyear : first.FourDigitYear := ⟨not_lt.mp hnegative, hfirst⟩
  rcases lt_trichotomy first.seconds second.seconds with hlt | heq | hgt
  · exact iff_of_true (text_lt_of_seconds_lt hyear hsecond hlt)
      (Or.inl (Instant.lt_iff_seconds.mpr (Or.inl hlt)))
  · rw [text_lt_iff_of_seconds_eq hyear hsecond heq,
      fraction_lt_stored_iff second.subsecNanos_lt first.subsecNanos_lt, Instant.lt_iff_seconds,
      Instant.eq_iff_seconds]
    simp [heq]
  · refine iff_of_false (String.lt_asymm (text_lt_of_seconds_lt hsecond hyear hgt)) ?_
    rintro (hlt | ⟨rfl, -⟩)
    · exact lt_asymm hlt (Instant.lt_iff_seconds.mpr (Or.inl hgt))
    · exact lt_irrefl _ hgt

/-- An earlier instant has an earlier text, with however many digits the two are written. -/
theorem text_lt_of_lt (hfirst : first.FourDigitYear) (hsecond : second.FourDigitYear)
    (h : first < second) : toRfc3339Opts first format < toRfc3339Opts second format' := by
  have hlater : toRfc3339Opts first .nanos < toRfc3339Opts second format' :=
    (stored_lt_iff hfirst hsecond.2).mpr h
  by_cases hshort : IsShort format first.subsecNanos
  · have hsame := (lt_stored_iff hfirst.2 hfirst).mpr (Or.inr ⟨rfl, hshort⟩)
    exact String.lt_trans hsame hlater
  · have hlong : fractionText format first.subsecNanos = fractionText .nanos first.subsecNanos := by
      cases format with
      | nanos => rfl
      | autoSi =>
        have hmicros : ¬ first.subsecNanos % 1000 = 0 := fun hzero ↦ hshort ⟨rfl, hzero⟩
        simp only [fractionText]
        rw [if_neg (by omega), if_neg (by omega), if_neg hmicros]
    have htext : toRfc3339Opts first format = toRfc3339Opts first .nanos := by
      unfold toRfc3339Opts
      rw [hlong]
    rw [htext]
    exact hlater

/-- Texts of `to_rfc3339` are in the order of their instants. -/
theorem toRfc3339_lt_iff (hfirst : first.FourDigitYear) (hsecond : second.FourDigitYear) :
    toRfc3339 first < toRfc3339 second ↔ first < second := by
  refine ⟨fun htext ↦ ?_, text_lt_of_lt hfirst hsecond⟩
  by_contra hnot
  rcases (not_lt.mp hnot).lt_or_eq with hlater | rfl
  · exact String.lt_asymm htext (text_lt_of_lt hsecond hfirst hlater)
  · exact String.lt_irrefl _ htext

end Texts

end Oott
