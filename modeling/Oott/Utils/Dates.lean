import Oott.Utils.Timestamps

/-!
# Timestamps that the API emits and accepts

`utils/date_serializer.rs` and `parse_parameter_date` of `web_server/utils.rs`, with the two parsers
of `chrono` that they use. `DateTime::parse_from_str` needs an offset, which its format here does
not have; `DateTime::parse_from_rfc3339` needs the text to end with its offset, and
`parse_parameter_date` puts a `Z` after the offset that the serializer has written. So neither
decoder accepts any timestamp that the API emits (`serialized_rejected`).
-/

set_option autoImplicit false
set_option relaxedAutoImplicit false

namespace Oott

/-! ### Scanning -/

/-- The value of a decimal digit. -/
def digitValue (c : Char) : Option ℕ :=
  if '0' ≤ c ∧ c ≤ '9' then some (c.toNat - '0'.toNat) else none

/-- `scan::number` with both widths equal: exactly `width` digits. -/
def scanNumber : ℕ → ℕ → List Char → Option (ℕ × List Char)
  | 0, value, rest => some (value, rest)
  | _ + 1, _, [] => none
  | width + 1, value, c :: rest => do
    let digit ← digitValue c
    scanNumber width (value * 10 + digit) rest

/-- `scan::char`: one of the given characters. -/
def scanChar (expected : List Char) : List Char → Option (List Char)
  | [] => none
  | c :: rest => if c ∈ expected then some rest else none

/-- The digits of a fraction: the first nine count, at the scale of nanoseconds. -/
def scanDigits : ℕ → List Char → ℕ × List Char
  | _, [] => (0, [])
  | scale, c :: rest =>
    match digitValue c with
    | none => (0, c :: rest)
    | some digit =>
      let (value, rest) := scanDigits (scale / 10) rest
      (digit * scale + value, rest)

/-- `scan::nanosecond`, after a full stop if there is one. -/
def scanFraction : List Char → Option (ℕ × List Char)
  | '.' :: c :: rest => (digitValue c).map fun _ ↦ scanDigits 100000000 (c :: rest)
  | '.' :: [] => none
  | rest => some (0, rest)

/-- The hours and minutes of an offset, in seconds. -/
def scanHoursMinutes (text : List Char) : Option (Int × List Char) := do
  let (hours, rest) ← scanNumber 2 0 text
  let rest ← scanChar [':'] rest
  let (minutes, rest) ← scanNumber 2 0 rest
  if hours < 24 ∧ minutes < 60 then some (hours * 3600 + minutes * 60, rest) else none

/-- `scan::timezone_offset` of RFC 3339, in seconds. -/
def scanOffset : List Char → Option (Int × List Char)
  | [] => none
  | c :: rest =>
    if c = 'Z' ∨ c = 'z' then some (0, rest)
    else if c = '+' then scanHoursMinutes rest
    else if c = '-' ∨ c = '−' then
      (scanHoursMinutes rest).map fun (seconds, rest) ↦ (-seconds, rest)
    else none

/-! ### The fields of a timestamp -/

/-- `chrono::format::Parsed`: the fields that have been read. -/
structure Parsed where
  year : Option Int := none
  month : Option ℕ := none
  day : Option ℕ := none
  hour : Option ℕ := none
  minute : Option ℕ := none
  second : Option ℕ := none
  nanosecond : Option ℕ := none
  offset : Option Int := none

/-- `Parsed::to_datetime`: the instant, when the fields determine one. A leap second is the one
after the 59th. -/
def Parsed.toDatetime (parsed : Parsed) : Option Instant := do
  let offset ← parsed.offset
  let date : Gregorian.Date := ⟨← parsed.year, ← parsed.month, ← parsed.day⟩
  let hour ← parsed.hour
  let minute ← parsed.minute
  let second := parsed.second.getD 0
  let nanos : Int := (Gregorian.toEpochDay date * 86400 + hour * 3600 + minute * 60 + second -
    offset) * 10 ^ 9 + parsed.nanosecond.getD 0
  if h : Gregorian.ofEpochDay (Gregorian.toEpochDay date) = date ∧ hour < 24 ∧ minute < 60 ∧
      second ≤ 60 ∧ Instant.minNanos ≤ nanos ∧ nanos ≤ Instant.maxNanos then
    some ⟨nanos, h.2.2.2.2⟩
  else none

/-- The scan of `DateTime::parse_from_rfc3339`. -/
def scanRfc3339 (text : List Char) : Option (Parsed × List Char) := do
  let (year, rest) ← scanNumber 4 0 text
  let rest ← scanChar ['-'] rest
  let (month, rest) ← scanNumber 2 0 rest
  let rest ← scanChar ['-'] rest
  let (day, rest) ← scanNumber 2 0 rest
  let rest ← scanChar ['T', 't', ' '] rest
  let (hour, rest) ← scanNumber 2 0 rest
  let rest ← scanChar [':'] rest
  let (minute, rest) ← scanNumber 2 0 rest
  let rest ← scanChar [':'] rest
  let (second, rest) ← scanNumber 2 0 rest
  let (nanosecond, rest) ← scanFraction rest
  let (offset, rest) ← scanOffset rest
  return (⟨some year, some month, some day, some hour, some minute, some second, some nanosecond,
    some offset⟩, rest)

/-- `DateTime::parse_from_rfc3339`, which takes the whole text or none of it. -/
def parseFromRfc3339 (text : String) : Option Instant := do
  let (parsed, rest) ← scanRfc3339 text.toList
  if rest.isEmpty then parsed.toDatetime else none

/-- The rest of a number of at most `width` more digits. -/
def scanMore : ℕ → ℕ → List Char → ℕ × List Char
  | 0, value, rest => (value, rest)
  | _ + 1, value, [] => (value, [])
  | width + 1, value, c :: rest =>
    match digitValue c with
    | some digit => scanMore width (value * 10 + digit) rest
    | none => (value, c :: rest)

/-- `scan::number` of one to `width` digits. -/
def scanUpTo (width : ℕ) : List Char → Option (ℕ × List Char)
  | [] => none
  | c :: rest => (digitValue c).map fun digit ↦ scanMore (width - 1) digit rest

/-- A number of one to `width` digits, after white space. -/
def scanField (width : ℕ) (text : List Char) : Option (ℕ × List Char) :=
  scanUpTo width (text.dropWhile Char.isWhitespace)

/-- A year: four digits at most, or a sign and any number of digits. -/
def scanYear (text : List Char) : Option (Int × List Char) :=
  match text.dropWhile Char.isWhitespace with
  | '-' :: rest => (scanUpTo rest.length rest).map fun (year, rest) ↦ (-year, rest)
  | '+' :: rest => (scanUpTo rest.length rest).map fun (year, rest) ↦ (year, rest)
  | rest => (scanUpTo 4 rest).map fun (year, rest) ↦ (year, rest)

/-- An item of a format of `parse_from_str`. -/
inductive FormatItem
  | literal (c : Char)
  | space
  | year
  | month
  | day
  | hour
  | minute
  | second
  | offset
deriving DecidableEq

/-- What an item reads. -/
def Parsed.scanItem (parsed : Parsed) (text : List Char) :
    FormatItem → Option (Parsed × List Char)
  | .literal c => (scanChar [c] text).map fun rest ↦ (parsed, rest)
  | .space => some (parsed, text.dropWhile Char.isWhitespace)
  | .year => (scanYear text).map fun (year, rest) ↦ ({ parsed with year := some year }, rest)
  | .month => (scanField 2 text).map fun (month, rest) ↦ ({ parsed with month := some month }, rest)
  | .day => (scanField 2 text).map fun (day, rest) ↦ ({ parsed with day := some day }, rest)
  | .hour => (scanField 2 text).map fun (hour, rest) ↦ ({ parsed with hour := some hour }, rest)
  | .minute =>
    (scanField 2 text).map fun (minute, rest) ↦ ({ parsed with minute := some minute }, rest)
  | .second =>
    (scanField 2 text).map fun (second, rest) ↦ ({ parsed with second := some second }, rest)
  | .offset =>
    (scanOffset text).map fun (offset, rest) ↦ ({ parsed with offset := some offset }, rest)

/-- What a format reads of a whole text. -/
def Parsed.scan (parsed : Parsed) : List FormatItem → List Char → Option Parsed
  | [], text => if text.isEmpty then some parsed else none
  | item :: items, text => do
    let (parsed, rest) ← parsed.scanItem text item
    parsed.scan items rest

/-- `DateTime::parse_from_str`. -/
def parseFromStr (text : String) (format : List FormatItem) : Option Instant := do
  let parsed ← Parsed.scan {} format text.toList
  parsed.toDatetime

/-! ### The serializer and the two decoders -/

/-- `date_serializer::serialize`. -/
def serialize (instant : Instant) : String := toRfc3339 instant

/-- The format `%Y-%m-%d %H:%M:%S`. -/
def dateTimeItems : List FormatItem :=
  [.year, .literal '-', .month, .literal '-', .day, .space, .hour, .literal ':', .minute,
    .literal ':', .second]

/-- `date_serializer::deserialize`. -/
def deserialize (datetime : String) : Option Instant := parseFromStr datetime dateTimeItems

/-- `str::to_ascii_uppercase`. -/
def toAsciiUppercase (text : String) : String := String.ofList (text.toList.map Char.toUpper)

/-- The text that `parse_parameter_date` parses for a value. -/
def parameterText (value : String) : String :=
  let value := toAsciiUppercase value
  if value.toList.getLast? = some 'Z' then value else value.push 'Z'

/-- `parse_parameter_date`. -/
def parseParameterDate (params : String → Option String) (name : String) : Option Instant := do
  let value ← params name
  parseFromRfc3339 (parameterText value)

example : parseFromRfc3339 "2026-06-01T14:00:00.250+02:00" =
    some ⟨1780315200 * 10 ^ 9 + 250000000, by decide⟩ := by decide

example : parseParameterDate (fun _ ↦ some "2026-06-01t12:00:00") "last_seen_from" =
    some ⟨1780315200 * 10 ^ 9, by decide⟩ := by decide

/-! ### A format without an offset -/

/-- Only the item of the offset reads an offset. -/
theorem Parsed.offset_of_scanItem {parsed result : Parsed} {text rest : List Char}
    {item : FormatItem} (hitem : item ≠ .offset)
    (hscan : parsed.scanItem text item = some (result, rest)) : result.offset = parsed.offset := by
  cases item with
  | offset => exact absurd rfl hitem
  | space =>
    cases hscan
    rfl
  | literal =>
    obtain ⟨other, -, hpair⟩ := Option.map_eq_some_iff.mp hscan
    cases hpair
    rfl
  | year | month | day | hour | minute | second =>
    obtain ⟨value, -, hpair⟩ := Option.map_eq_some_iff.mp hscan
    cases hpair
    rfl

theorem Parsed.offset_of_scan {format : List FormatItem} (hformat : .offset ∉ format)
    {parsed result : Parsed} {text : List Char} (hscan : parsed.scan format text = some result) :
    result.offset = parsed.offset := by
  induction format generalizing parsed text with
  | nil =>
    unfold Parsed.scan at hscan
    split_ifs at hscan
    cases hscan
    rfl
  | cons item format ih =>
    obtain ⟨hitem, hformat⟩ := not_or.mp (mt List.mem_cons.mpr hformat)
    obtain ⟨⟨middle, rest⟩, hfirst, hlater⟩ := Option.bind_eq_some_iff.mp hscan
    exact (ih hformat hlater).trans (offset_of_scanItem (Ne.symm hitem) hfirst)

/-- A format without an offset reads no instant at all. -/
theorem parseFromStr_eq_none {format : List FormatItem} (hformat : .offset ∉ format)
    (text : String) : parseFromStr text format = none := by
  refine Option.eq_none_iff_forall_ne_some.mpr fun instant hparse ↦ ?_
  obtain ⟨parsed, hscan, hinstant⟩ := Option.bind_eq_some_iff.mp hparse
  have hoffset : parsed.offset = none := Parsed.offset_of_scan hformat hscan
  unfold Parsed.toDatetime at hinstant
  rw [hoffset] at hinstant
  cases hinstant

/-! ### The end of a text of RFC 3339 -/

/-- A scan has read some characters, none of them a plus sign. -/
def Reads (text rest : List Char) : Prop := ∃ front, text = front ++ rest ∧ '+' ∉ front

theorem Reads.trans {text middle rest : List Char} (hfirst : Reads text middle)
    (hsecond : Reads middle rest) : Reads text rest := by
  obtain ⟨front, rfl, hfront⟩ := hfirst
  obtain ⟨back, rfl, hback⟩ := hsecond
  refine ⟨front ++ back, (List.append_assoc _ _ _).symm, fun hmem ↦ ?_⟩
  exact (List.mem_append.mp hmem).elim hfront hback

theorem Reads.single {c : Char} (hc : c ≠ '+') (rest : List Char) : Reads (c :: rest) rest :=
  ⟨[c], rfl, fun hmem ↦ hc (List.mem_singleton.mp hmem).symm⟩

theorem ne_plus_of_digitValue {c : Char} {digit : ℕ} (hdigit : digitValue c = some digit) :
    c ≠ '+' := by
  rintro rfl
  cases hdigit

theorem reads_scanNumber {width value : ℕ} {text : List Char} {result : ℕ × List Char}
    (hscan : scanNumber width value text = some result) : Reads text result.2 := by
  induction width generalizing value text with
  | zero =>
    cases hscan
    exact ⟨[], rfl, List.not_mem_nil⟩
  | succ width ih =>
    cases text with
    | nil => cases hscan
    | cons c rest =>
      obtain ⟨digit, hdigit, hrest⟩ := Option.bind_eq_some_iff.mp hscan
      exact (Reads.single (ne_plus_of_digitValue hdigit) rest).trans (ih hrest)

theorem reads_scanChar {expected text rest : List Char} (hplus : '+' ∉ expected)
    (hscan : scanChar expected text = some rest) : Reads text rest := by
  cases text with
  | nil => cases hscan
  | cons c tail =>
    simp only [scanChar] at hscan
    split_ifs at hscan with hmem
    cases hscan
    refine Reads.single ?_ _
    rintro rfl
    exact hplus hmem

theorem reads_scanDigits (scale : ℕ) (text : List Char) : Reads text (scanDigits scale text).2 := by
  induction text generalizing scale with
  | nil => exact ⟨[], rfl, List.not_mem_nil⟩
  | cons c rest ih =>
    unfold scanDigits
    cases hdigit : digitValue c with
    | none => exact ⟨[], rfl, List.not_mem_nil⟩
    | some digit =>
      exact (Reads.single (ne_plus_of_digitValue hdigit) rest).trans (ih _)

theorem reads_scanFraction {text : List Char} {result : ℕ × List Char}
    (hscan : scanFraction text = some result) : Reads text result.2 := by
  unfold scanFraction at hscan
  split at hscan
  · obtain ⟨digit, -, hresult⟩ := Option.map_eq_some_iff.mp hscan
    rw [← hresult]
    exact (Reads.single (by decide) _).trans (reads_scanDigits _ _)
  · cases hscan
  · cases hscan
    exact ⟨[], rfl, List.not_mem_nil⟩

theorem length_scanNumber {width value : ℕ} {text : List Char} {result : ℕ × List Char}
    (hscan : scanNumber width value text = some result) :
    ∃ front, text = front ++ result.2 ∧ front.length = width := by
  induction width generalizing value text with
  | zero =>
    cases hscan
    exact ⟨[], rfl, rfl⟩
  | succ width ih =>
    cases text with
    | nil => cases hscan
    | cons c rest =>
      obtain ⟨digit, -, hrest⟩ := Option.bind_eq_some_iff.mp hscan
      obtain ⟨front, hfront, hlength⟩ := ih hrest
      exact ⟨c :: front, congrArg (c :: ·) hfront, congrArg (· + 1) hlength⟩

theorem cons_of_scanChar {expected text rest : List Char}
    (hscan : scanChar expected text = some rest) : ∃ c, text = c :: rest := by
  cases text with
  | nil => cases hscan
  | cons c tail =>
    simp only [scanChar] at hscan
    split_ifs at hscan
    cases hscan
    exact ⟨c, rfl⟩

theorem length_scanHoursMinutes {text : List Char} {result : Int × List Char}
    (hscan : scanHoursMinutes text = some result) :
    ∃ front, text = front ++ result.2 ∧ front.length = 5 := by
  obtain ⟨⟨hours, rest⟩, hhours, hafter⟩ := Option.bind_eq_some_iff.mp hscan
  obtain ⟨rest', hcolon, hlater⟩ := Option.bind_eq_some_iff.mp hafter
  obtain ⟨⟨minutes, last⟩, hminutes, hlast⟩ := Option.bind_eq_some_iff.mp hlater
  dsimp only at hlast
  split_ifs at hlast
  cases hlast
  obtain ⟨front, hfront, hlength⟩ := length_scanNumber hhours
  obtain ⟨colon, hrest⟩ := cons_of_scanChar hcolon
  obtain ⟨back, hback, hlength'⟩ := length_scanNumber hminutes
  refine ⟨front ++ colon :: back, ?_, ?_⟩
  · rw [hfront, hrest, hback, List.append_assoc]
    rfl
  · rw [List.length_append, List.length_cons, hlength, hlength']

/-- An offset is one character or six. -/
theorem length_scanOffset {text : List Char} {result : Int × List Char}
    (hscan : scanOffset text = some result) :
    ∃ offset, text = offset ++ result.2 ∧ (offset.length = 1 ∨ offset.length = 6) := by
  cases text with
  | nil => cases hscan
  | cons c tail =>
    simp only [scanOffset] at hscan
    split_ifs at hscan
    · cases hscan
      exact ⟨[c], rfl, Or.inl rfl⟩
    · obtain ⟨front, hfront, hlength⟩ := length_scanHoursMinutes hscan
      exact ⟨c :: front, congrArg (c :: ·) hfront, Or.inr (congrArg (· + 1) hlength)⟩
    · obtain ⟨unsigned, hunsigned, rfl⟩ := Option.map_eq_some_iff.mp hscan
      obtain ⟨front, hfront, hlength⟩ := length_scanHoursMinutes hunsigned
      exact ⟨c :: front, congrArg (c :: ·) hfront, Or.inr (congrArg (· + 1) hlength)⟩

/-- A text of RFC 3339 is a date and a time without a plus sign, and an offset. -/
theorem shape_of_parseFromRfc3339 {text : String} {instant : Instant}
    (hparse : parseFromRfc3339 text = some instant) :
    ∃ body offset, text.toList = body ++ offset ∧ '+' ∉ body ∧
      (offset.length = 1 ∨ offset.length = 6) := by
  obtain ⟨⟨parsed, rest⟩, hscan, hend⟩ := Option.bind_eq_some_iff.mp hparse
  dsimp only at hend
  split_ifs at hend with hempty
  unfold scanRfc3339 at hscan
  obtain ⟨⟨year, r1⟩, hyear, hscan⟩ := Option.bind_eq_some_iff.mp hscan
  obtain ⟨r2, hdash, hscan⟩ := Option.bind_eq_some_iff.mp hscan
  obtain ⟨⟨month, r3⟩, hmonth, hscan⟩ := Option.bind_eq_some_iff.mp hscan
  obtain ⟨r4, hdash', hscan⟩ := Option.bind_eq_some_iff.mp hscan
  obtain ⟨⟨day, r5⟩, hday, hscan⟩ := Option.bind_eq_some_iff.mp hscan
  obtain ⟨r6, hmark, hscan⟩ := Option.bind_eq_some_iff.mp hscan
  obtain ⟨⟨hour, r7⟩, hhour, hscan⟩ := Option.bind_eq_some_iff.mp hscan
  obtain ⟨r8, hcolon, hscan⟩ := Option.bind_eq_some_iff.mp hscan
  obtain ⟨⟨minute, r9⟩, hminute, hscan⟩ := Option.bind_eq_some_iff.mp hscan
  obtain ⟨r10, hcolon', hscan⟩ := Option.bind_eq_some_iff.mp hscan
  obtain ⟨⟨second, r11⟩, hsecond, hscan⟩ := Option.bind_eq_some_iff.mp hscan
  obtain ⟨⟨nanosecond, r12⟩, hnanosecond, hscan⟩ := Option.bind_eq_some_iff.mp hscan
  obtain ⟨⟨seconds, r13⟩, hoffset, hscan⟩ := Option.bind_eq_some_iff.mp hscan
  obtain ⟨offset, hr12, hlength⟩ := length_scanOffset hoffset
  cases hscan
  rw [List.isEmpty_iff.mp hempty, List.append_nil] at hr12
  obtain ⟨body, htext, hbody⟩ := (reads_scanNumber hyear).trans <|
    (reads_scanChar (by decide) hdash).trans <| (reads_scanNumber hmonth).trans <|
    (reads_scanChar (by decide) hdash').trans <| (reads_scanNumber hday).trans <|
    (reads_scanChar (by decide) hmark).trans <| (reads_scanNumber hhour).trans <|
    (reads_scanChar (by decide) hcolon).trans <| (reads_scanNumber hminute).trans <|
    (reads_scanChar (by decide) hcolon').trans <| (reads_scanNumber hsecond).trans <|
    reads_scanFraction hnanosecond
  exact ⟨body, offset, htext.trans (congrArg (body ++ ·) hr12), hbody, hlength⟩

/-- What `parse_parameter_date` parses for a text that ends with an offset. -/
theorem parameterText_of_offset {value : String} {front : List Char}
    (hvalue : value.toList = front ++ offsetText) :
    ∃ front, (parameterText value).toList = front ++ offsetText ++ ['Z'] := by
  have hupper : (toAsciiUppercase value).toList = front.map Char.toUpper ++ offsetText := by
    unfold toAsciiUppercase
    rw [String.toList_ofList, hvalue, List.map_append]
    exact congrArg (front.map Char.toUpper ++ ·) (by decide)
  have hlast : (toAsciiUppercase value).toList.getLast? ≠ some 'Z' := by
    rw [hupper, List.getLast?_append]
    simp [offsetText]
  have hpush : parameterText value = (toAsciiUppercase value).push 'Z' := if_neg hlast
  exact ⟨front.map Char.toUpper, by rw [hpush, String.toList_push, hupper]⟩

theorem toList_serialize (instant : Instant) :
    ∃ front, (serialize instant).toList = front ++ offsetText := by
  unfold serialize toRfc3339 toRfc3339Opts
  rw [String.toList_ofList]
  exact ⟨_, rfl⟩

theorem parseParameterDate_of_some {params : String → Option String} {name value : String}
    (hvalue : params name = some value) :
    parseParameterDate params name = parseFromRfc3339 (parameterText value) := by
  simp only [parseParameterDate, hvalue, Option.bind_eq_bind, Option.bind_some]

/-- Neither decoder accepts what the serializer writes, whatever the instant. -/
theorem serialized_rejected (instant : Instant) (name : String) :
    deserialize (serialize instant) = none ∧
      parseParameterDate (fun _ ↦ some (serialize instant)) name = none := by
  refine ⟨parseFromStr_eq_none (by decide) _, ?_⟩
  rw [@parseParameterDate_of_some (fun _ ↦ some (serialize instant)) name _ rfl]
  obtain ⟨front, hvalue⟩ := toList_serialize instant
  obtain ⟨front, hfront⟩ := parameterText_of_offset hvalue
  refine Option.eq_none_iff_forall_ne_some.mpr fun parsed hparse ↦ ?_
  obtain ⟨body, offset, htext, hbody, hlength⟩ := shape_of_parseFromRfc3339 hparse
  -- the offset is too short to reach back to the plus sign
  rw [hfront, List.append_assoc] at htext
  have hseven : (offsetText ++ ['Z']).length = 7 := rfl
  have hlengths := congrArg List.length htext
  rw [List.length_append, hseven, List.length_append] at hlengths
  have hbefore : front.length < body.length := by omega
  have hplus : (body ++ offset)[front.length]? = some '+' := by
    rw [← htext, List.getElem?_append_right (Nat.le_refl _), Nat.sub_self]
    rfl
  rw [List.getElem?_append_left hbefore] at hplus
  exact hbody (List.mem_of_getElem? hplus)

/-- The first instant of 1970 is not read back as it was written. -/
theorem epoch_not_read_back :
    ¬ ∀ instant : Instant, instant.FourDigitYear → deserialize (serialize instant) = some instant ∧
      parseParameterDate (fun _ ↦ some (serialize instant)) "last_seen_from" = some instant := by
  intro hall
  have hread : deserialize (serialize .epoch) = some .epoch := (hall .epoch (by decide)).1
  unfold deserialize at hread
  rw [parseFromStr_eq_none (by decide)] at hread
  exact Option.some_ne_none _ hread.symm

end Oott
