import Oott.Utils.DatesReadBack

/-!
# Timestamps that the app reads

`DateTime.parse` of Dart: the pattern `_parseFormat` with its optional parts, and the time that the
groups stand for, where a month, a day or a minute beyond its range goes on into the next year,
month or hour. A timestamp without a zone is one of the local time zone. What `to_rfc3339_opts` has
written is read as its instant, without the nanoseconds that a `DateTime` does not have
(`parse_toRfc3339Opts`).
-/

set_option autoImplicit false
set_option relaxedAutoImplicit false

namespace Oott

open FixedWidth

/-- A `DateTime` that has been parsed: the microseconds since 1970 in UTC, or on the clock of the
local time zone. -/
structure ParsedDateTime where
  microseconds : Int
  isUtc : Bool
deriving DecidableEq

namespace DateTime

/-! ### The pattern -/

/-- The groups of the time. -/
structure TimeGroups where
  hour : ℕ := 0
  minute : ℕ := 0
  second : ℕ := 0
  microsecond : ℕ := 0
deriving DecidableEq

/-- The groups of the pattern; the zone in minutes. -/
structure Groups where
  year : ℕ
  month : ℕ
  day : ℕ
  time : TimeGroups
  zone : Option Int
deriving DecidableEq

/-- `-?(\d\d)` or `:?(\d\d)`. -/
def scanPair (separator : Char) : List Char → Option (ℕ × List Char)
  | [] => none
  | c :: rest => if c = separator then scanNumber 2 0 rest else scanNumber 2 0 (c :: rest)

/-- `[.,](\d+)`, by `parseMilliAndMicroseconds`: the first six digits count. -/
def scanMicroseconds : List Char → Option (ℕ × List Char)
  | mark :: c :: rest =>
    if (mark = '.' ∨ mark = ',') ∧ (digitValue c).isSome then some (scanDigits 100000 (c :: rest))
    else none
  | _ => none

/-- `(\d\d)(?::?(\d\d)(?::?(\d\d)(?:[.,](\d+))?)?)?`. -/
def scanTime (text : List Char) : Option (TimeGroups × List Char) := do
  let (hour, rest) ← scanNumber 2 0 text
  match scanPair ':' rest with
  | none => return ({ hour }, rest)
  | some (minute, rest) =>
    match scanPair ':' rest with
    | none => return ({ hour, minute }, rest)
    | some (second, rest) =>
      let (microsecond, rest) := (scanMicroseconds rest).getD (0, rest)
      return ({ hour, minute, second, microsecond }, rest)

/-- ` ?`. -/
def dropSpace : List Char → List Char
  | [] => []
  | c :: rest => if c = ' ' then rest else c :: rest

/-- `( ?[zZ]| ?([-+])(\d\d)(?::?(\d\d))?)?`. -/
def scanZone (text : List Char) : Option Int × List Char :=
  match dropSpace text with
  | [] => (none, text)
  | c :: rest =>
    if c = 'z' ∨ c = 'Z' then (some 0, rest)
    else if c = '+' ∨ c = '-' then
      match scanNumber 2 0 rest with
      | none => (none, text)
      | some (hours, rest) =>
        let (minutes, rest) := (scanPair ':' rest).getD (0, rest)
        (some ((if c = '-' then -1 else 1) * (60 * hours + minutes)), rest)
    else (none, text)

/-- `(?:[ T]…)?$`, with the time and the zone. -/
def scanTimeAndZone : List Char → Option (TimeGroups × Option Int)
  | [] => some ({}, none)
  | c :: rest => do
    if c = ' ' ∨ c = 'T' then
      let (time, rest) ← scanTime rest
      let (zone, rest) := scanZone rest
      if rest.isEmpty then return (time, zone) else none
    else none

/-- The pattern without the sign, for a year of a given number of digits. -/
def matchYear (text : List Char) (width : ℕ) : Option Groups := do
  let (year, rest) ← scanNumber width 0 text
  let (month, rest) ← scanPair '-' rest
  let (day, rest) ← scanPair '-' rest
  let (time, zone) ← scanTimeAndZone rest
  return ⟨year, month, day, time, zone⟩

/-! ### The time -/

/-- `_brokenDownDateToValue`, with the range of a `DateTime`. -/
def ofGroups (year : Int) (groups : Groups) : Option ParsedDateTime :=
  let month : Int := groups.month - 1
  let day := Gregorian.toEpochDay ⟨year + month / 12, (month % 12).toNat + 1, 1⟩ + (groups.day - 1)
  let minute := (day * 24 + groups.time.hour) * 60 + groups.time.minute - groups.zone.getD 0
  let microseconds := (minute * 60 + groups.time.second) * 10 ^ 6 + groups.time.microsecond
  if -8640000000000000000 ≤ microseconds ∧ microseconds ≤ 8640000000000000000 then
    some ⟨microseconds, groups.zone.isSome⟩
  else none

/-- `[+-]?`: whether the sign is a minus, and what comes after it. -/
def dropSign : List Char → Bool × List Char
  | [] => (false, [])
  | c :: rest => if c = '-' then (true, rest) else (false, if c = '+' then rest else c :: rest)

/-- `parse`. A year of more digits is tried first. -/
def parse (text : String) : Option ParsedDateTime := do
  let (negative, unsigned) := dropSign text.toList
  let groups ← [6, 5, 4].findSome? (matchYear unsigned)
  ofGroups (if negative then -groups.year else groups.year) groups

example : parse "2026-06-01T12:00:00.250+02:00" = some ⟨1780308000250000, true⟩ ∧
    parse "20260601 1200" = some ⟨1780315200000000, false⟩ ∧
    parse "2026-13-01T00:00:00.123456789Z" = parse "2027-01-01 00:00:00,123456Z" ∧
    parse "2026-06" = none := by decide

/-! ### What the backend has written -/

section Written

variable {instant : Instant} {width n : ℕ} {separator : Char}

/-- A year of fewer digits than are tried. -/
theorem scanNumber_eq_none (hn : n < 10 ^ width) {more : ℕ} {c : Char} (hc : digitValue c = none)
    (rest : List Char) :
    scanNumber (width + (more + 1)) 0 (digits width n ++ c :: rest) = none := by
  rw [scanNumber_add, scanNumber_digits hn, Option.bind_some]
  simp [scanNumber, hc]

/-- A digit is no sign. -/
theorem dropSign_digits (n : ℕ) (rest : List Char) :
    dropSign (digits (width + 1) n ++ rest) = (false, digits (width + 1) n ++ rest) := by
  have hdigit : '0' ≤ Nat.digitChar (n / 10 ^ width % 10) := by
    refine (@isDigit_of_mem_digits (width + 1) n _ ?_).1
    rw [digits_succ]
    exact List.mem_cons_self
  have hsign {c : Char} (hc : ¬ '0' ≤ c) : Nat.digitChar (n / 10 ^ width % 10) ≠ c := fun heq ↦
    hc (heq ▸ hdigit)
  rw [digits_succ, List.cons_append]
  simp only [dropSign, if_neg (hsign (show ¬ '0' ≤ '-' by decide)),
    if_neg (hsign (show ¬ '0' ≤ '+' by decide))]

theorem scanPair_digits (hn : n < 10 ^ 2) (rest : List Char) :
    scanPair separator (separator :: (digits 2 n ++ rest)) = some (n, rest) := by
  simp only [scanPair, if_true, scanNumber_digits hn, Nat.zero_mul, Nat.zero_add]

theorem scanMicroseconds_digits (rest : List Char) :
    scanMicroseconds ('.' :: (digits (width + 1) n ++ rest)) =
      some (scanDigits (10 ^ 5) (digits (width + 1) n ++ rest)) := by
  rw [digits_succ, List.cons_append]
  simp [scanMicroseconds, digitValue_digitChar (Nat.mod_lt (n / 10 ^ width) (by decide))]

/-- A fraction of a second is read without the nanoseconds, also when it is left out. -/
theorem scanMicroseconds_fractionText (format : SecondsFormat) {nanos : ℕ}
    (hnanos : nanos < 10 ^ 9) :
    (scanMicroseconds (Oott.fractionText format nanos ++ offsetText)).getD
        (0, Oott.fractionText format nanos ++ offsetText) = (nanos / 1000, offsetText) := by
  have hrest : ∀ c ∈ offsetText.head?, digitValue c = none := by
    rintro c ⟨⟩
    rfl
  have hshort {width n : ℕ} (hwidth : width + 1 ≤ 6) :
      scanMicroseconds ('.' :: (digits (width + 1) n ++ offsetText)) =
        some (n % 10 ^ (width + 1) * 10 ^ (6 - (width + 1)), offsetText) := by
    rw [scanMicroseconds_digits, scanDigits_digits n hwidth hrest]
  have hnine : scanMicroseconds ('.' :: digits 9 nanos ++ offsetText) =
      some (nanos / 1000, offsetText) := by
    have hsplit : digits 9 nanos = digits 6 (nanos / 10 ^ 3) ++ digits 3 nanos := digits_add 6 3 _
    have hmicros : nanos / 10 ^ 3 < 10 ^ 6 := by omega
    rw [List.cons_append, scanMicroseconds_digits, hsplit, List.append_assoc,
      scanDigits_append _ (Nat.le_refl 6), Nat.mod_eq_of_lt hmicros, Nat.sub_self, Nat.pow_zero,
      Nat.mul_one]
    have hzero : 10 ^ 5 / 10 ^ 6 = 0 := by decide
    rw [hzero, scanDigits_zero hrest, Nat.add_zero]
    rfl
  cases format with
  | nanos =>
    simp only [Oott.fractionText]
    rw [hnine, Option.getD_some]
  | autoSi =>
    simp only [Oott.fractionText]
    split_ifs with hwhole hmillis hmicros
    · rw [hwhole]
      rfl
    · rw [List.cons_append, hshort (by decide), Option.getD_some]
      congr 1
      omega
    · rw [List.cons_append, hshort (by decide), Option.getD_some]
      congr 1
      omega
    · rw [hnine, Option.getD_some]

/-- The pattern on what the backend has written, with the groups of its instant. -/
theorem matchYear_rendered (hyear : instant.FourDigitYear) (format : SecondsFormat) :
    matchYear (toRfc3339Opts instant format).toList 4 =
      some ⟨instant.year.toNat, instant.date.month, instant.date.day,
        ⟨instant.secondOfDay / 3600, instant.secondOfDay / 60 % 60, instant.secondOfDay % 60,
          instant.subsecNanos / 1000⟩, some 0⟩ := by
  have hfour : instant.year.toNat < 10 ^ 4 := by
    obtain ⟨-, hupper⟩ := hyear
    omega
  obtain ⟨hmonth, hday, hhour, hminute, hsecond⟩ := instant.laterFields_lt
  have hfraction := scanMicroseconds_fractionText format instant.subsecNanos_lt
  rw [toList_toRfc3339Opts hyear]
  simp only [Instant.laterFields, laterFormat, render, List.append_nil, List.append_assoc,
    List.cons_append, List.nil_append, matchYear, Option.bind_eq_bind, Option.bind_some,
    scanNumber_digits hfour, scanPair_digits hmonth, scanPair_digits hday, scanTimeAndZone,
    scanTime, scanNumber_digits hhour, scanPair_digits hminute, scanPair_digits hsecond, hfraction,
    Nat.zero_mul, Nat.zero_add]
  have hzone : scanZone offsetText = (some 0, []) := by decide
  rw [if_pos (Or.inr trivial)]
  simp only [Option.pure_def, Option.bind_some, hzone, List.isEmpty_nil, if_true]

/-- The time of the groups of an instant. -/
theorem ofGroups_fields (hyear : instant.FourDigitYear) :
    ofGroups (instant.year.toNat : ℕ) ⟨instant.year.toNat, instant.date.month, instant.date.day,
        ⟨instant.secondOfDay / 3600, instant.secondOfDay / 60 % 60, instant.secondOfDay % 60,
          instant.subsecNanos / 1000⟩, some 0⟩ =
      some ⟨instant.nanos / 1000, true⟩ := by
  have hyears : (instant.year.toNat : Int) = instant.year := Int.toNat_of_nonneg hyear.1
  obtain ⟨hmonth, hmonth', hday, -⟩ := Gregorian.ofEpochDay_inRange (instant.seconds / 86400)
  change 1 ≤ instant.date.month at hmonth
  change instant.date.month ≤ 12 at hmonth'
  have hmonths : ((instant.date.month : Int) - 1) / 12 = 0 := by omega
  have hmonthOfYear : (((instant.date.month : Int) - 1) % 12).toNat + 1 = instant.date.month := by
    omega
  have hepochDay : Gregorian.toEpochDay ⟨instant.year, instant.date.month, instant.date.day⟩ =
      instant.seconds / 86400 := Gregorian.toEpochDay_ofEpochDay _
  have hfirst : Gregorian.toEpochDay ⟨instant.year, instant.date.month, 1⟩ +
      (instant.date.day - 1 : Int) = instant.seconds / 86400 := by
    rw [← hepochDay]
    unfold Gregorian.toEpochDay
    dsimp only
    omega
  have hsecond : (instant.secondOfDay : Int) = instant.seconds % 86400 := by
    unfold Instant.secondOfDay
    omega
  have hmicroseconds : (((instant.seconds / 86400 * 24 + (instant.secondOfDay / 3600 : ℕ)) * 60 +
      (instant.secondOfDay / 60 % 60 : ℕ) - 0) * 60 + (instant.secondOfDay % 60 : ℕ)) * 10 ^ 6 +
        (instant.subsecNanos / 1000 : ℕ) = instant.nanos / 1000 := by
    unfold Instant.subsecNanos
    unfold Instant.seconds at hsecond ⊢
    omega
  have hrange : -8640000000000000000 ≤ instant.nanos / 1000 ∧
      instant.nanos / 1000 ≤ 8640000000000000000 := by
    have hinstant := instant.inRange
    unfold Instant.minNanos Instant.maxNanos at hinstant
    omega
  unfold ofGroups
  simp only [hyears, hmonths, hmonthOfYear, Int.add_zero, hfirst, Option.getD_some, hmicroseconds,
    hrange, and_self, if_true, Option.isSome_some]

/-- The app reads every timestamp that the backend writes, as its instant without the
nanoseconds. -/
theorem parse_toRfc3339Opts (hyear : instant.FourDigitYear) (format : SecondsFormat) :
    parse (toRfc3339Opts instant format) = some ⟨instant.nanos / 1000, true⟩ := by
  have hfour : instant.year.toNat < 10 ^ 4 := by
    obtain ⟨-, hupper⟩ := hyear
    omega
  obtain ⟨rest, htext⟩ : ∃ rest, (toRfc3339Opts instant format).toList =
      digits 4 instant.year.toNat ++ '-' :: rest := by
    rw [toList_toRfc3339Opts hyear]
    simp only [Instant.laterFields, laterFormat, render, List.append_assoc, List.cons_append,
      List.nil_append]
    exact ⟨_, rfl⟩
  have hwide (more : ℕ) : matchYear (toRfc3339Opts instant format).toList (4 + (more + 1)) =
      none := by
    unfold matchYear
    rw [htext, scanNumber_eq_none hfour rfl]
    rfl
  have hunsigned : dropSign (toRfc3339Opts instant format).toList =
      (false, (toRfc3339Opts instant format).toList) := by
    rw [htext]
    exact dropSign_digits _ _
  unfold parse
  rw [hunsigned]
  simp only [List.findSome?_cons, hwide 1, hwide 0, matchYear_rendered hyear, Option.bind_eq_bind,
    Option.bind_some, Bool.false_eq_true, if_false]
  exact ofGroups_fields hyear

end Written

end DateTime

end Oott
