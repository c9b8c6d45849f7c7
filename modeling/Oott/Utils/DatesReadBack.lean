import Oott.Utils.Dates
import Oott.Utils.Text

/-!
# Timestamps that are read back

`DateTime::parse_from_rfc3339` reads a timestamp of the years 0 to 9999 as it was written, by
`to_rfc3339_opts` with any number of digits or by `toIso8601String` of the app, which writes
milliseconds always and microseconds when there are any.
-/

set_option autoImplicit false
set_option relaxedAutoImplicit false

namespace Oott

open FixedWidth

/-! ### Reading digits -/

theorem digitValue_digitChar {n : ℕ} (hn : n < 10) : digitValue (Nat.digitChar n) = some n := by
  have hall : ∀ n < 10, digitValue (Nat.digitChar n) = some n := by decide
  exact hall n hn

/-- A scan of two widths is the scan of one after that of the other. -/
theorem scanNumber_add (width width' value : ℕ) (text : List Char) :
    scanNumber (width + width') value text =
      (scanNumber width value text).bind fun first ↦ scanNumber width' first.1 first.2 := by
  induction width generalizing value text with
  | zero => rw [Nat.zero_add]; rfl
  | succ width ih =>
    rw [Nat.succ_add]
    cases text with
    | nil => rfl
    | cons c rest =>
      simp only [scanNumber, Option.bind_eq_bind, Option.bind_assoc, ih]

/-- The digits of a number are read as the number. -/
theorem scanNumber_digits {width n : ℕ} (hn : n < 10 ^ width) (value : ℕ) (rest : List Char) :
    scanNumber width value (digits width n ++ rest) = some (value * 10 ^ width + n, rest) := by
  induction width generalizing n rest with
  | zero =>
    rw [Nat.pow_zero, Nat.lt_one_iff] at hn
    simp [hn, digits, scanNumber]
  | succ width ih =>
    have hfront : n / 10 < 10 ^ width := by
      rw [Nat.pow_succ] at hn
      omega
    rw [digits, List.append_assoc, scanNumber_add, ih hfront]
    simp only [Option.bind_some, List.singleton_append, scanNumber, Option.bind_eq_bind,
      digitValue_digitChar (Nat.mod_lt n (by decide))]
    rw [Nat.pow_succ]
    congr 2
    have hsplit : (value * 10 ^ width + n / 10) * 10 = value * (10 ^ width * 10) + n / 10 * 10 := by
      rw [Nat.add_mul, Nat.mul_assoc]
    omega

/-- The first digit comes first. -/
theorem digits_succ (width n : ℕ) :
    digits (width + 1) n = Nat.digitChar (n / 10 ^ width % 10) :: digits width n := by
  rw [Nat.add_comm, digits_add]
  rfl

theorem scanDigits_of_head (scale : ℕ) {rest : List Char}
    (hrest : ∀ c ∈ rest.head?, digitValue c = none) : scanDigits scale rest = (0, rest) := by
  cases rest with
  | nil => rfl
  | cons c rest => simp only [scanDigits, hrest c rfl]

/-- The digits of a fraction are read at their scale, as long as it is not beyond the smallest one,
and what comes after them at what is left of it. -/
theorem scanDigits_append {width scale : ℕ} (n : ℕ) (hscale : width ≤ scale + 1)
    (text : List Char) :
    scanDigits (10 ^ scale) (digits width n ++ text) =
      (n % 10 ^ width * 10 ^ (scale + 1 - width) + (scanDigits (10 ^ scale / 10 ^ width) text).1,
        (scanDigits (10 ^ scale / 10 ^ width) text).2) := by
  induction width generalizing scale with
  | zero =>
    rw [digits, List.nil_append, Nat.pow_zero, Nat.mod_one, Nat.zero_mul, Nat.zero_add,
      Nat.div_one]
  | succ width ih =>
    have hdigit : digitValue (Nat.digitChar (n / 10 ^ width % 10)) = some (n / 10 ^ width % 10) :=
      digitValue_digitChar (Nat.mod_lt _ (by decide))
    have hmod : n % 10 ^ (width + 1) = n % 10 ^ width + 10 ^ width * (n / 10 ^ width % 10) :=
      Nat.mod_pow_succ
    rw [digits_succ, List.cons_append]
    simp only [scanDigits, hdigit]
    cases scale with
    | zero =>
      have hzero : width = 0 := by omega
      subst hzero
      simp [digits]
    | succ scale =>
      have hdiv : 10 ^ (scale + 1) / 10 = 10 ^ scale := by
        rw [Nat.pow_succ, Nat.mul_div_cancel _ (by decide)]
      have hleft : 10 ^ (scale + 1) / 10 ^ (width + 1) = 10 ^ scale / 10 ^ width := by
        rw [Nat.pow_succ, Nat.pow_succ, Nat.mul_div_mul_right _ _ (by decide)]
      have hexp : scale + 1 + 1 - (width + 1) = scale + 1 - width := by omega
      have hpow : 10 ^ width * 10 ^ (scale + 1 - width) = 10 ^ (scale + 1) := by
        rw [← Nat.pow_add]
        congr 1
        omega
      rw [hdiv, ih (by omega), hleft, hexp, hmod, Nat.add_mul, Nat.mul_right_comm, hpow]
      congr 1
      rw [Nat.mul_comm (10 ^ (scale + 1))]
      omega

theorem scanDigits_digits {width scale : ℕ} (n : ℕ) (hscale : width ≤ scale + 1)
    {rest : List Char} (hrest : ∀ c ∈ rest.head?, digitValue c = none) :
    scanDigits (10 ^ scale) (digits width n ++ rest) =
      (n % 10 ^ width * 10 ^ (scale + 1 - width), rest) := by
  rw [scanDigits_append n hscale, scanDigits_of_head _ hrest, Nat.add_zero]

/-- No digit counts after the smallest scale. -/
theorem scanDigits_zero {width n : ℕ} {rest : List Char}
    (hrest : ∀ c ∈ rest.head?, digitValue c = none) :
    scanDigits 0 (digits width n ++ rest) = (0, rest) := by
  induction width with
  | zero => exact scanDigits_of_head 0 hrest
  | succ width ih =>
    rw [digits_succ, List.cons_append]
    simp only [scanDigits, digitValue_digitChar (Nat.mod_lt (n / 10 ^ width) (by decide)),
      Nat.mul_zero, Nat.zero_div, ih]

/-- A fraction of one to nine digits. -/
theorem scanFraction_digits {width n : ℕ} (hn : n < 10 ^ (width + 1)) (hwidth : width + 1 ≤ 9)
    {rest : List Char} (hrest : ∀ c ∈ rest.head?, digitValue c = none) :
    scanFraction ('.' :: (digits (width + 1) n ++ rest)) =
      some (n * 10 ^ (9 - (width + 1)), rest) := by
  have hread := @scanDigits_digits _ 8 n hwidth _ hrest
  rw [Nat.mod_eq_of_lt hn] at hread
  rw [digits_succ, List.cons_append] at hread ⊢
  simp only [scanFraction, digitValue_digitChar (Nat.mod_lt (n / 10 ^ width) (by decide)),
    Option.map_some]
  exact congrArg some hread

/-- A fraction is read as it was written, with however many digits. -/
theorem scanFraction_fractionText (format : SecondsFormat) {nanos : ℕ} (hnanos : nanos < 10 ^ 9)
    {c : Char} (hdigit : digitValue c = none) (hmark : c ≠ '.') (rest : List Char) :
    scanFraction (fractionText format nanos ++ c :: rest) = some (nanos, c :: rest) := by
  have hrest : ∀ d ∈ (c :: rest).head?, digitValue d = none := by
    rintro d hd
    cases hd
    exact hdigit
  have hnine : scanFraction ('.' :: (digits 9 nanos ++ c :: rest)) = some (nanos, c :: rest) := by
    rw [scanFraction_digits hnanos (Nat.le_refl 9) hrest, Nat.pow_zero, Nat.mul_one]
  cases format with
  | nanos => exact hnine
  | autoSi =>
    simp only [fractionText]
    split_ifs with hzero hmillis hmicros
    · rw [hzero, List.nil_append]
      unfold scanFraction
      split
      · next heq => exact absurd (List.cons.inj heq).1 hmark
      · next heq => exact absurd (List.cons.inj heq).1 hmark
      · rfl
    · rw [List.cons_append, scanFraction_digits (by omega) (by omega) hrest]
      congr 2
      omega
    · rw [List.cons_append, scanFraction_digits (by omega) (by omega) hrest]
      congr 2
      omega
    · exact hnine

/-! ### Reading a timestamp -/

section Timestamps

variable {instant : Instant} {fraction offset : List Char} {nanos : ℕ}

/-- The fields after the year have two digits. -/
theorem Instant.laterFields_lt (instant : Instant) :
    instant.date.month < 10 ^ 2 ∧ instant.date.day < 10 ^ 2 ∧
      instant.secondOfDay / 3600 < 10 ^ 2 ∧ instant.secondOfDay / 60 % 60 < 10 ^ 2 ∧
      instant.secondOfDay % 60 < 10 ^ 2 := by
  obtain ⟨-, hmonth, -, hday⟩ := Gregorian.ofEpochDay_inRange (instant.seconds / 86400)
  have hsecond : instant.secondOfDay < 86400 := by
    unfold Instant.secondOfDay
    omega
  refine ⟨?_, ?_, by omega, by omega, by omega⟩
  · show (Gregorian.ofEpochDay _).month < _
    omega
  · show (Gregorian.ofEpochDay _).day < _
    omega

/-- The fields of a date and a time at their fixed widths, and what comes after them. -/
theorem scanRfc3339_render (hyear : instant.FourDigitYear)
    (hfraction : scanFraction (fraction ++ offset) = some (nanos, offset))
    (hoffset : scanOffset offset = some (0, [])) :
    scanRfc3339 (render ((4, ['-']) :: laterFormat) (instant.year.toNat :: instant.laterFields) ++
        (fraction ++ offset)) =
      some (⟨some instant.year, some instant.date.month, some instant.date.day,
        some (instant.secondOfDay / 3600), some (instant.secondOfDay / 60 % 60),
        some (instant.secondOfDay % 60), some nanos, some 0⟩, []) := by
  have hfour : instant.year.toNat < 10 ^ 4 := by
    obtain ⟨-, hupper⟩ := hyear
    omega
  have hyears : (instant.year.toNat : Int) = instant.year := Int.toNat_of_nonneg hyear.1
  obtain ⟨hmonth, hday, hhour, hminute, hseconds⟩ := instant.laterFields_lt
  have hdash (rest : List Char) : scanChar ['-'] ('-' :: rest) = some rest := rfl
  have hmark (rest : List Char) : scanChar ['T', 't', ' '] ('T' :: rest) = some rest := rfl
  have hcolon (rest : List Char) : scanChar [':'] (':' :: rest) = some rest := rfl
  simp only [Instant.laterFields, laterFormat, render, List.append_nil, List.append_assoc,
    List.cons_append, List.nil_append, scanRfc3339, Option.bind_eq_bind, Option.bind_some,
    scanNumber_digits hfour, scanNumber_digits hmonth, scanNumber_digits hday,
    scanNumber_digits hhour, scanNumber_digits hminute, scanNumber_digits hseconds, hdash, hmark,
    hcolon, hfraction, hoffset, Nat.zero_mul, Nat.zero_add, hyears]
  rfl

/-- The fields of an instant determine it. -/
theorem toDatetime_fields (instant : Instant) :
    Parsed.toDatetime ⟨some instant.year, some instant.date.month, some instant.date.day,
      some (instant.secondOfDay / 3600), some (instant.secondOfDay / 60 % 60),
      some (instant.secondOfDay % 60), some instant.subsecNanos, some 0⟩ = some instant := by
  have hday : Gregorian.toEpochDay ⟨instant.year, instant.date.month, instant.date.day⟩ =
      instant.seconds / 86400 := Gregorian.toEpochDay_ofEpochDay _
  have hdate : Gregorian.ofEpochDay (instant.seconds / 86400) =
      ⟨instant.year, instant.date.month, instant.date.day⟩ := rfl
  have hsecond : (instant.secondOfDay : Int) = instant.seconds % 86400 := by
    unfold Instant.secondOfDay
    omega
  have hnanos : (instant.seconds / 86400 * 86400 + (instant.secondOfDay / 3600 : ℕ) * 3600 +
      (instant.secondOfDay / 60 % 60 : ℕ) * 60 + (instant.secondOfDay % 60 : ℕ) - 0) * 10 ^ 9 +
        instant.subsecNanos = instant.nanos := by
    unfold Instant.subsecNanos
    unfold Instant.seconds at hsecond ⊢
    omega
  simp only [Parsed.toDatetime, Option.bind_eq_bind, Option.bind_some, Option.getD_some, hday,
    hdate, hnanos, true_and]
  rw [dif_pos ⟨by omega, by omega, by omega, instant.inRange⟩]

/-- A text of a date and a time with a fraction of the instant, in UTC. -/
theorem parseFromRfc3339_of_toList (hyear : instant.FourDigitYear) {text : String}
    (htext : text.toList = render ((4, ['-']) :: laterFormat)
      (instant.year.toNat :: instant.laterFields) ++ (fraction ++ offset))
    (hfraction : scanFraction (fraction ++ offset) = some (instant.subsecNanos, offset))
    (hoffset : scanOffset offset = some (0, [])) : parseFromRfc3339 text = some instant := by
  unfold parseFromRfc3339
  rw [htext, scanRfc3339_render hyear hfraction hoffset]
  exact toDatetime_fields instant

/-- What `to_rfc3339_opts` writes is read back, with any number of digits. -/
theorem parseFromRfc3339_toRfc3339Opts (hyear : instant.FourDigitYear) (format : SecondsFormat) :
    parseFromRfc3339 (toRfc3339Opts instant format) = some instant :=
  parseFromRfc3339_of_toList hyear (toList_toRfc3339Opts hyear format)
    (scanFraction_fractionText format instant.subsecNanos_lt (by decide) (by decide) _) (by decide)

end Timestamps

/-- A timestamp that this version or an older one has written. -/
def WrittenAt (instant : Instant) (timestamp : String) : Prop :=
  instant.FourDigitYear ∧ ∃ format, timestamp = toRfc3339Opts instant format

/-! ### The timestamps of the app -/

/-- `DateTime` of Dart, in UTC: an instant of a whole microsecond. -/
structure DateTime where
  instant : Instant
  micros : instant.nanos % 1000 = 0

namespace DateTime

/-- `millisecond`. -/
def millisecond (date : DateTime) : ℕ := date.instant.subsecNanos / 1000000

/-- `microsecond`. -/
def microsecond (date : DateTime) : ℕ := date.instant.subsecNanos / 1000 % 1000

/-- The text of a year, by `_fourDigits` or `_sixDigits`. -/
def yearText (year : Int) : List Char :=
  if -9999 ≤ year ∧ year ≤ 9999 then
    (if year < 0 then ['-'] else []) ++ digits 4 year.natAbs
  else (if year < 0 then '-' else '+') :: (Nat.toDigits 10 year.natAbs).leftpad 6 '0'

/-- The fraction of a second, by `_threeDigits`. -/
def fractionText (date : DateTime) : List Char :=
  '.' :: (digits 3 date.millisecond ++
    if date.microsecond = 0 then [] else digits 3 date.microsecond)

/-- `toIso8601String`. -/
def toIso8601String (date : DateTime) : String :=
  String.ofList (yearText date.instant.year ++ ['-'] ++
    render laterFormat date.instant.laterFields ++ date.fractionText ++ ['Z'])

example : toIso8601String ⟨⟨1780315200 * 10 ^ 9 + 250000000, by decide⟩, by decide⟩ =
    "2026-06-01T12:00:00.250Z" := by decide

variable {date : DateTime}

theorem toList_toIso8601String (hyear : date.instant.FourDigitYear) :
    date.toIso8601String.toList =
      render ((4, ['-']) :: laterFormat) (date.instant.year.toNat :: date.instant.laterFields) ++
        (date.fractionText ++ ['Z']) := by
  obtain ⟨hlower, hupper⟩ := hyear
  have hdigits : yearText date.instant.year = digits 4 date.instant.year.toNat := by
    unfold yearText
    rw [if_pos ⟨by omega, hupper⟩, if_neg (not_lt.mpr hlower), List.nil_append]
    congr 1
    omega
  unfold toIso8601String
  rw [hdigits, String.toList_ofList, ← List.append_assoc]
  rfl

/-- The three or six digits of the fraction are read as the nanoseconds. -/
theorem scanFraction_fractionText (date : DateTime) :
    scanFraction (date.fractionText ++ ['Z']) = some (date.instant.subsecNanos, ['Z']) := by
  have hlt := date.instant.subsecNanos_lt
  have hwhole : date.instant.subsecNanos % 1000 = 0 := by
    have hmicros := date.micros
    unfold Instant.subsecNanos
    omega
  have hrest : ∀ c ∈ ['Z'].head?, digitValue c = none := by
    rintro c ⟨⟩
    rfl
  unfold fractionText millisecond microsecond
  split_ifs with hzero
  · rw [List.append_nil, List.cons_append, scanFraction_digits (by omega) (by omega) hrest]
    congr 2
    omega
  · have hsix : digits 3 (date.instant.subsecNanos / 1000000) ++
        digits 3 (date.instant.subsecNanos / 1000 % 1000) =
        digits 6 (date.instant.subsecNanos / 1000) := by
      have hdiv : date.instant.subsecNanos / 1000000 =
          date.instant.subsecNanos / 1000 / 10 ^ 3 := by omega
      have hmod : digits 3 (date.instant.subsecNanos / 1000 % 1000) =
          digits 3 (date.instant.subsecNanos / 1000) := digits_mod 3 _
      rw [hdiv, hmod]
      exact (digits_add 3 3 _).symm
    rw [hsix, List.cons_append, scanFraction_digits (by omega) (by omega) hrest]
    congr 2
    omega

/-- The text has no small letters, and ends with a `Z`. -/
theorem parameterText_toIso8601String (hyear : date.instant.FourDigitYear) :
    parameterText date.toIso8601String = date.toIso8601String := by
  have hdigit {c : Char} (hc : '0' ≤ c ∧ c ≤ '9') : c.toUpper = c := by
    have hlt : c.toNat ≤ 57 := hc.2
    rw [← Char.toNat_inj, toNat_toUpper]
    split_ifs <;> omega
  have hrendered {c : Char} (fields : List ℕ)
      (hc : c ∈ render ((4, ['-']) :: laterFormat) fields) : c.toUpper = c := by
    rcases mem_render hc with hdigits | ⟨field, hfield, hseparator⟩
    · exact hdigit hdigits
    · have hall : ((4, ['-']) :: laterFormat).all fun field ↦
          field.2.all fun c ↦ c.toUpper = c := by decide
      exact of_decide_eq_true (List.all_eq_true.mp (List.all_eq_true.mp hall field hfield) c
        hseparator)
  have hfraction {c : Char} (hc : c ∈ date.fractionText) : c.toUpper = c := by
    unfold fractionText at hc
    simp only [List.mem_cons, List.mem_append] at hc
    rcases hc with rfl | hmillis | hmicros
    · decide
    · exact hdigit (isDigit_of_mem_digits hmillis)
    · split_ifs at hmicros
      · cases hmicros
      · exact hdigit (isDigit_of_mem_digits hmicros)
  have hupper : toAsciiUppercase date.toIso8601String = date.toIso8601String := by
    unfold toAsciiUppercase
    rw [List.map_congr_left (g := id), List.map_id, String.ofList_toList]
    intro c hc
    rw [toList_toIso8601String hyear] at hc
    rcases List.mem_append.mp hc with hfields | hlater
    · exact hrendered _ hfields
    · rcases List.mem_append.mp hlater with hfraction' | hmark
      · exact hfraction hfraction'
      · rw [List.mem_singleton.mp hmark]
        decide
  have hlast : date.toIso8601String.toList.getLast? = some 'Z' := by
    rw [toList_toIso8601String hyear, ← List.append_assoc, List.getLast?_concat]
  unfold parameterText
  rw [hupper]
  exact if_pos hlast

/-- The backend reads the timestamp that the app has written. -/
theorem parseParameterDate_toIso8601String (hyear : date.instant.FourDigitYear)
    {params : String → Option String} {name : String}
    (hvalue : params name = some date.toIso8601String) :
    parseParameterDate params name = some date.instant := by
  rw [parseParameterDate_of_some hvalue, parameterText_toIso8601String hyear]
  exact parseFromRfc3339_of_toList hyear (toList_toIso8601String hyear)
    (scanFraction_fractionText date) (by decide)

end DateTime

end Oott
