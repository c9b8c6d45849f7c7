import Oott.Database.Listing

/-!
# The migration of the timestamps

`database_migrations/06-rfc3339_datetimes/up.sql`. The backend once wrote the timestamps of its rows
with a space between the date and the time, while it compared them with RFC 3339 texts, which have a
`T` there. The migration replaces the space in the texts that look like a date and a time.

A row of the old form becomes the RFC 3339 text of its instant and a row of the new form stays, so
that a purge deletes the rows of earlier instants only; before it, every row of the cutoff's own day
went as well (`migration_restores_order`).
-/

set_option autoImplicit false
set_option relaxedAutoImplicit false

namespace Oott

open FixedWidth

/-! ### The statement -/

/-- The pattern of the migration. -/
def dateTimePattern : List Char :=
  ['_', '_', '_', '_', '-', '_', '_', '-', '_', '_', ' ', '%']

/-- `REPLACE(text, ' ', 'T')`, character by character. -/
def replaceSpace (c : Char) : Char := if c = ' ' then 'T' else c

/-- `UPDATE ... SET created_on = REPLACE(created_on, ' ', 'T') WHERE created_on LIKE '____-__-__ %'`
on one value. -/
def migrateDateTime (text : String) : String :=
  if SqlValue.likeWildcards.accepts dateTimePattern text.toList then
    String.ofList (text.toList.map replaceSpace)
  else text

/-- The statement on the rows of a table. -/
def migrateDateTimes {Row : Type} (rows : List (Row × String)) : List (Row × String) :=
  rows.map fun row ↦ (row.1, migrateDateTime row.2)

/-- What `DELETE ... WHERE created_on < ?1` leaves. -/
def purgedBefore {Row : Type} (cutoff : Instant) (rows : List (Row × String)) :
    List (Row × String) :=
  rows.filter fun row ↦ ¬ row.2 < toRfc3339 cutoff

/-- The widths and separators of the fields after the year, with a space before the time. -/
def spacedFormat : List (ℕ × List Char) :=
  [(2, ['-']), (2, [' ']), (2, [':']), (2, [':']), (2, [])]

/-- `%F %T%.f%:z`, as the rows were written once. -/
def toSpaced (instant : Instant) : String :=
  String.ofList (yearText instant.year ++ ['-'] ++ render spacedFormat instant.laterFields ++
    fractionText .autoSi instant.subsecNanos ++ offsetText)

example : migrateDateTime "2026-06-01 12:00:00.5+00:00" = "2026-06-01T12:00:00.5+00:00" ∧
    migrateDateTime "2026-06-01T12:00:00+00:00" = "2026-06-01T12:00:00+00:00" ∧
    migrateDateTime "1 June 2026" = "1 June 2026" := by decide +kernel

/-! ### The texts -/

section Texts

variable {instant first second : Instant} {format : SecondsFormat} {mark : Char}

/-- The pattern accepts a text with a date and a mark that is folded to a space. -/
theorem accepts_dateTimePattern {year month day rest : List Char} (hyear : year.length = 4)
    (hmonth : month.length = 2) (hday : day.length = 2) :
    SqlValue.likeWildcards.accepts dateTimePattern
      (year ++ '-' :: (month ++ '-' :: (day ++ mark :: rest))) ↔ mark.toLower = ' ' := by
  have hany : SqlValue.likeWildcards.accepts ['%'] rest :=
    Like.accepts_many.mpr ⟨rest, [], (List.append_nil rest).symm, rfl⟩
  have hcons (c d : Char) (pattern text : List Char) (hmany : c ≠ '%') :
      SqlValue.likeWildcards.accepts (c :: pattern) (d :: text) ↔
        (c = '_' ∨ c.toLower = d.toLower) ∧ SqlValue.likeWildcards.accepts pattern text :=
    @Like.accepts_cons _ _ SqlValue.likeWildcards _ _ _ _ hmany
  have hspace : ' '.toLower = ' ' := by decide
  match year, hyear, month, hmonth, day, hday with
  | [_, _, _, _], _, [_, _], _, [_, _], _ =>
    simp [dateTimePattern, hcons, hany, hspace, eq_comm]

/-- What comes after the date, with the mark before it. -/
def timeText (mark : Char) (instant : Instant) (format : SecondsFormat) : List Char :=
  mark :: (render [(2, [':']), (2, [':']), (2, [])] (instant.laterFields.drop 2) ++
    (fractionText format instant.subsecNanos ++ offsetText))

/-- The date. -/
def dateText (instant : Instant) : List Char :=
  render [(4, ['-']), (2, ['-']), (2, [])]
    [instant.year.toNat, instant.date.month, instant.date.day]

theorem toList_toRfc3339Opts_eq (hyear : instant.FourDigitYear) :
    (toRfc3339Opts instant format).toList = dateText instant ++ timeText 'T' instant format := by
  have hdigits : yearText instant.year = digits 4 instant.year.toNat := if_pos hyear
  unfold toRfc3339Opts
  rw [hdigits, String.toList_ofList]
  simp [dateText, timeText, Instant.laterFields, render, laterFormat]

theorem toList_toSpaced_eq (hyear : instant.FourDigitYear) :
    (toSpaced instant).toList = dateText instant ++ timeText ' ' instant .autoSi := by
  have hdigits : yearText instant.year = digits 4 instant.year.toNat := if_pos hyear
  unfold toSpaced
  rw [hdigits, String.toList_ofList]
  simp [dateText, timeText, Instant.laterFields, render, spacedFormat]

/-- The fraction has no space in it. -/
theorem space_notMem_fractionText {nanos : ℕ} : ' ' ∉ fractionText format nanos := by
  have hdigits (width n : ℕ) : ' ' ∉ '.' :: digits width n := by
    rw [List.mem_cons, not_or]
    exact ⟨by decide, fun hmem ↦ absurd (isDigit_of_mem_digits hmem).1 (by decide)⟩
  cases format with
  | nanos => exact hdigits 9 nanos
  | autoSi =>
    simp only [fractionText]
    split_ifs
    · exact List.not_mem_nil
    · exact hdigits _ _
    · exact hdigits _ _
    · exact hdigits _ _

/-- A format without a space in its separators has texts without a space. -/
theorem space_notMem_render {fields : List (ℕ × List Char)} {values : List ℕ}
    (hfields : ∀ field ∈ fields, ' ' ∉ field.2) : ' ' ∉ render fields values := by
  intro hmem
  rcases mem_render hmem with hdigit | ⟨field, hfield, hspace⟩
  · exact absurd hdigit.1 (by decide)
  · exact hfields field hfield hspace

theorem map_replaceSpace {text : List Char} (hspace : ' ' ∉ text) :
    text.map replaceSpace = text := by
  refine (List.map_congr_left fun c hc ↦ ?_).trans (List.map_id' text)
  have hne : c ≠ ' ' := fun heq ↦ hspace (heq ▸ hc)
  exact if_neg hne

theorem map_replaceSpace_dateText : (dateText instant).map replaceSpace = dateText instant :=
  map_replaceSpace (space_notMem_render (by decide))

theorem map_replaceSpace_timeText :
    (timeText mark instant format).map replaceSpace =
      timeText (replaceSpace mark) instant format := by
  unfold timeText
  rw [List.map_cons, map_replaceSpace]
  simp only [List.mem_append, not_or]
  exact ⟨space_notMem_render (by decide), space_notMem_fractionText, by decide⟩

/-- The pattern accepts the text of a date and a time with a space between them. -/
theorem accepts_dateText : SqlValue.likeWildcards.accepts dateTimePattern
    (dateText instant ++ timeText mark instant format) ↔ mark.toLower = ' ' := by
  unfold dateText timeText
  simp only [render, List.append_nil, List.append_assoc, List.cons_append, List.nil_append]
  exact accepts_dateTimePattern (length_digits 4 _) (length_digits 2 _) (length_digits 2 _)

/-- A row of the old form becomes the RFC 3339 text of its instant. -/
theorem migrateDateTime_toSpaced (hyear : instant.FourDigitYear) :
    migrateDateTime (toSpaced instant) = toRfc3339 instant := by
  unfold migrateDateTime
  rw [toList_toSpaced_eq hyear, if_pos (accepts_dateText.mpr (by decide)), List.map_append,
    map_replaceSpace_dateText, map_replaceSpace_timeText]
  show String.ofList (dateText instant ++ timeText 'T' instant .autoSi) = _
  rw [← toList_toRfc3339Opts_eq hyear, String.ofList_toList]
  rfl

/-- A row of the new form stays. -/
theorem migrateDateTime_toRfc3339Opts (hyear : instant.FourDigitYear) :
    migrateDateTime (toRfc3339Opts instant format) = toRfc3339Opts instant format := by
  unfold migrateDateTime
  rw [toList_toRfc3339Opts_eq hyear]
  exact if_neg fun haccepts ↦ absurd (accepts_dateText.mp haccepts) (by decide)

/-- No text is changed twice: what has been replaced has no space left. -/
theorem migrateDateTime_twice (text : String) :
    migrateDateTime (migrateDateTime text) = migrateDateTime text := by
  by_cases haccepts : SqlValue.likeWildcards.accepts dateTimePattern text.toList
  · have hreplaced : migrateDateTime text = String.ofList (text.toList.map replaceSpace) :=
      if_pos haccepts
    rw [hreplaced]
    refine if_neg fun hagain ↦ ?_
    rw [String.toList_ofList] at hagain
    obtain ⟨c, hc, hfold⟩ := @Like.exists_mem_of_accepts _ _ SqlValue.likeWildcards _ _ _
      (show ' ' ∈ dateTimePattern by decide) (by decide) (by decide) hagain
    obtain ⟨d, -, rfl⟩ := List.mem_map.mp hc
    have hspace : replaceSpace d = ' ' :=
      eq_of_toLower_eq (by decide) (hfold.symm.trans (by decide))
    unfold replaceSpace at hspace
    split_ifs at hspace with hother
    · exact absurd hspace (by decide)
    · exact hother hspace
  · have hsame : migrateDateTime text = text := if_neg haccepts
    rw [hsame, hsame]

/-- The number of the day. -/
def Instant.day (instant : Instant) : Int := instant.seconds / 86400

/-- An earlier day has an earlier text. -/
theorem dateText_lt (hfirst : first.FourDigitYear) (hsecond : second.FourDigitYear)
    (h : first.day < second.day) (rest rest' : List Char) :
    dateText first ++ rest < dateText second ++ rest' := by
  have hfits {instant : Instant} (hyear : instant.FourDigitYear) :
      Fits [(4, ['-']), (2, ['-']), (2, [])]
        [instant.year.toNat, instant.date.month, instant.date.day] := by
    obtain ⟨hlower, hupper⟩ := hyear
    obtain ⟨-, hmonth, -, hday⟩ := Gregorian.ofEpochDay_inRange instant.day
    refine .cons ?_ (.cons ?_ (.cons ?_ .nil)) <;> dsimp only
    · omega
    · show (Gregorian.ofEpochDay instant.day).month < _
      omega
    · show (Gregorian.ofEpochDay instant.day).day < _
      omega
  refine render_lt (hfits hfirst) (hfits hsecond) ?_ rest rest'
  have hprecedes := Gregorian.ofEpochDay_precedes h
  obtain ⟨hyear, -⟩ := hfirst
  have hyear' := hsecond.1
  unfold Instant.year Instant.date at hyear hyear' ⊢
  unfold Gregorian.Date.Precedes Instant.day at hprecedes
  simp only [List.cons_lt_cons_iff]
  omega

/-- The old form is less than a text of the new form up to the end of that text's day. -/
theorem toSpaced_lt_iff (hfirst : first.FourDigitYear) (hsecond : second.FourDigitYear) :
    toSpaced first < toRfc3339Opts second format ↔ first.day ≤ second.day := by
  rw [String.lt_iff, toList_toSpaced_eq hfirst, toList_toRfc3339Opts_eq hsecond]
  rcases lt_trichotomy first.day second.day with hlt | heq | hgt
  · exact iff_of_true (dateText_lt hfirst hsecond hlt _ _) hlt.le
  · have hdate : dateText first = dateText second := by
      have hsame : first.date = second.date := congrArg Gregorian.ofEpochDay heq
      unfold dateText Instant.year
      rw [hsame]
    rw [hdate, append_lt_append_iff]
    exact iff_of_true (List.cons_lt_cons_iff.mpr (Or.inl (by decide))) heq.le
  · exact iff_of_false (List.lt_asymm (dateText_lt hsecond hfirst hgt _ _)) (not_le.mpr hgt)

end Texts

/-! ### The tables -/

/-- A row as the backend has written it, in the old form or in the new one. -/
structure WrittenRow where
  instant : Instant
  spaced : Bool

namespace WrittenRow

/-- Its text before the migration. -/
def text (row : WrittenRow) : String :=
  if row.spaced then toSpaced row.instant else toRfc3339Opts row.instant .nanos

/-- The RFC 3339 text of its instant. -/
def rfc3339 (row : WrittenRow) : String :=
  toRfc3339Opts row.instant (if row.spaced then .autoSi else .nanos)

variable {row : WrittenRow} {cutoff : Instant}

theorem migrateDateTime_text (hyear : row.instant.FourDigitYear) :
    migrateDateTime row.text = row.rfc3339 := by
  unfold text rfc3339
  split_ifs
  · exact migrateDateTime_toSpaced hyear
  · exact migrateDateTime_toRfc3339Opts hyear

theorem rfc3339_lt_iff (hyear : row.instant.FourDigitYear) (hcutoff : cutoff.FourDigitYear) :
    row.rfc3339 < toRfc3339 cutoff ↔ row.instant < cutoff := by
  unfold rfc3339
  split_ifs
  · exact toRfc3339_lt_iff hyear hcutoff
  · exact stored_lt_iff hyear hcutoff.2

theorem text_lt_iff (hyear : row.instant.FourDigitYear) (hcutoff : cutoff.FourDigitYear) :
    row.text < toRfc3339 cutoff ↔
      if row.spaced then row.instant.day ≤ cutoff.day else row.instant < cutoff := by
  unfold text
  split_ifs
  · exact toSpaced_lt_iff hyear hcutoff
  · exact stored_lt_iff hyear hcutoff.2

end WrittenRow

/-- The rows of a table with the given texts. -/
def textRows {Row : Type} (text : WrittenRow → String) (rows : List (Row × WrittenRow)) :
    List (Row × String) :=
  rows.map fun row ↦ (row.1, text row.2)

/-- What a purge leaves, when its comparison of texts is known. -/
theorem purgedBefore_textRows {Row : Type} {text : WrittenRow → String}
    {rows : List (Row × WrittenRow)} {cutoff : Instant} (before : WrittenRow → Prop)
    [DecidablePred before]
    (htext : ∀ row ∈ rows, text row.2 < toRfc3339 cutoff ↔ before row.2) :
    purgedBefore cutoff (textRows text rows) =
      textRows text (rows.filter fun row ↦ ¬ before row.2) := by
  unfold purgedBefore textRows
  rw [List.filter_map]
  congr 1
  exact List.filter_congr fun row hrow ↦ decide_eq_decide.mpr (not_congr (htext row hrow))

/-- The migration restores the order of the rows. For every table with rows of either form and
whatever else in them, each row gets the RFC 3339 text of its instant, and running the migration
again changes nothing, whatever the texts are; rows of earlier instants then have earlier texts, and
a purge deletes exactly the rows of earlier instants than its cutoff. Without it, a purge also
deletes the rows of the old form that are of the cutoff's day and not earlier. -/
theorem migration_restores_order {Row : Type} {rows : List (Row × WrittenRow)} {cutoff : Instant}
    (hyears : ∀ row ∈ rows, row.2.instant.FourDigitYear) (hcutoff : cutoff.FourDigitYear) :
    migrateDateTimes (textRows WrittenRow.text rows) = textRows WrittenRow.rfc3339 rows ∧
    (∀ table : List (Row × String),
      migrateDateTimes (migrateDateTimes table) = migrateDateTimes table) ∧
    (∀ first ∈ rows, ∀ second ∈ rows, first.2.instant < second.2.instant →
      first.2.rfc3339 < second.2.rfc3339) ∧
    purgedBefore cutoff (textRows WrittenRow.rfc3339 rows) =
      textRows WrittenRow.rfc3339 (rows.filter fun row ↦ ¬ row.2.instant < cutoff) ∧
    purgedBefore cutoff (textRows WrittenRow.text rows) =
      textRows WrittenRow.text (rows.filter fun row ↦
        ¬ if row.2.spaced then row.2.instant.day ≤ cutoff.day else row.2.instant < cutoff) := by
  refine ⟨?_, fun table ↦ ?_, fun first hfirst second hsecond hlt ↦ ?_, ?_, ?_⟩
  · unfold migrateDateTimes textRows
    rw [List.map_map]
    exact List.map_congr_left fun row hrow ↦
      congrArg (Prod.mk row.1) (WrittenRow.migrateDateTime_text (hyears row hrow))
  · unfold migrateDateTimes
    rw [List.map_map]
    exact List.map_congr_left fun row _ ↦ congrArg (Prod.mk row.1) (migrateDateTime_twice row.2)
  · exact text_lt_of_lt (hyears first hfirst) (hyears second hsecond) hlt
  · exact purgedBefore_textRows (fun row ↦ row.instant < cutoff) fun row hrow ↦
      WrittenRow.rfc3339_lt_iff (hyears row hrow) hcutoff
  · exact purgedBefore_textRows
      (fun row ↦ if row.spaced then row.instant.day ≤ cutoff.day else row.instant < cutoff)
      fun row hrow ↦ WrittenRow.text_lt_iff (hyears row hrow) hcutoff

/-- A row of noon in the old form, and a cutoff two hours earlier: the row is deleted before the
migration, and kept after it. -/
theorem migration_restores_order_sameDay : ∃ (row : WrittenRow) (cutoff : Instant),
    cutoff < row.instant ∧ purgedBefore cutoff (textRows WrittenRow.text [((), row)]) = [] ∧
      purgedBefore cutoff (migrateDateTimes (textRows WrittenRow.text [((), row)])) =
        textRows WrittenRow.rfc3339 [((), row)] := by
  have hyears : ∀ row ∈ [((), (⟨⟨1780315200 * 10 ^ 9, by decide⟩, true⟩ : WrittenRow))],
      row.2.instant.FourDigitYear := List.forall_mem_singleton.mpr (by decide)
  obtain ⟨hmigrated, -, -, hafter, hbefore⟩ := migration_restores_order hyears
    (show (⟨1780308000 * 10 ^ 9, by decide⟩ : Instant).FourDigitYear by decide)
  refine ⟨⟨⟨1780315200 * 10 ^ 9, by decide⟩, true⟩, ⟨1780308000 * 10 ^ 9, by decide⟩, by decide,
    hbefore.trans ?_, ?_⟩
  · rw [List.filter_singleton]
    rfl
  · rw [hmigrated, hafter, List.filter_singleton]
    rfl

end Oott
