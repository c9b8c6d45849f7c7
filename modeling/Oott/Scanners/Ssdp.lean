import Oott.Scanners.Dhcp
import Oott.Text.Lines
import Oott.Utils.Dates

/-!
# Parsing SSDP announcements

`parse_announcement` of `scanners/ssdp/finder.rs`, over the bytes of a datagram. The loop over the
lines assigns three variables; after all lines each of them is given by the headers of one name
(`HeaderFields.foldl_read`). What the parser accepts and returns, for all bytes, and that neither
the line endings nor other lines matter is `parseAnnouncement_exact`.
-/

set_option autoImplicit false
set_option relaxedAutoImplicit false

namespace Oott

open Lines

/-- `Announcement` of the SSDP finder. -/
structure SsdpAnnouncement where
  server : Option String
  deviceTypes : List String
deriving DecidableEq

namespace Ssdp

/-! ### The parser -/

/-- `str::trim`. -/
def trim (text : List Char) : String := trimMatches isWhiteSpace (String.ofList text)

/-- `line.splitn(2, ':')`. -/
def splitn2 (line : List Char) : List (List Char) :=
  match line.dropWhile (· ≠ ':') with
  | [] => [line]
  | _ :: rest => [line.takeWhile (· ≠ ':'), rest]

/-- `first_line.to_ascii_uppercase().starts_with("NOTIFY ")`. -/
def isNotify (firstLine : List Char) : Bool :=
  "NOTIFY ".toList.isPrefixOf (toAsciiUppercase (String.ofList firstLine)).toList

/-- The variables that the loop over the lines assigns. -/
structure HeaderFields where
  server : Option String := none
  deviceTypes : List String := []
  nts : Option String := none

/-- The match on the name of a header. -/
def HeaderFields.assign (fields : HeaderFields) (key value : String) : HeaderFields :=
  if key = "nts" then { fields with nts := some (toAsciiLowercase value) }
  else if key = "nt" then { fields with deviceTypes := fields.deviceTypes ++ [value] }
  else if key = "server" then { fields with server := some value }
  else fields

/-- The body of the loop over the lines. -/
def HeaderFields.read (fields : HeaderFields) (line : List Char) : HeaderFields :=
  if line = [] then fields
  else
    match splitn2 line with
    | key :: value :: _ =>
      if trim value = "" then fields else fields.assign (toAsciiLowercase (trim key)) (trim value)
    | _ => fields

/-- `parse_announcement`, from the text of the packet on. -/
def parseText (text : List Char) : Option SsdpAnnouncement :=
  if isNotify ((lines text).headD []) then
    let fields := (lines text).tail.foldl HeaderFields.read {}
    if fields.nts = some "ssdp:alive" ∨ fields.nts = some "ssdp:update" then
      some ⟨fields.server, fields.deviceTypes⟩
    else none
  else none

/-- `parse_announcement`. -/
def parseAnnouncement (buf : List UInt8) : Option SsdpAnnouncement :=
  match fromUtf8 buf with
  | some text => parseText text.toList
  | none => none

/-! ### Headers -/

/-- A line that is a header: the name in front of the first colon, in small letters, and what is
behind it, when that is not blank. -/
structure IsHeader (line : List Char) (name value : String) : Prop where
  split : ∃ front back, line = front ++ ':' :: back ∧ ':' ∉ front ∧
    toAsciiLowercase (trim front) = name ∧ trim back = value
  nonempty : value ≠ ""

/-- The name and the value of a line that is a header. -/
def header (line : List Char) : Option (String × String) :=
  match splitn2 line with
  | key :: value :: _ =>
    if trim value = "" then none else some (toAsciiLowercase (trim key), trim value)
  | _ => none

/-- The value of a line that is a header of a name. -/
def headerValue (name : String) (line : List Char) : Option String :=
  (header line).bind fun (key, value) ↦ if key = name then some value else none

/-- The values of the headers of a name, in the order of the lines behind the first one. -/
def headerValues (name : String) (text : List Char) : List String :=
  (lines text).tail.filterMap (headerValue name)

theorem decide_ne_of_notMem {text : List Char} (htext : ':' ∉ text) :
    ∀ c ∈ text, decide (c ≠ ':') = true :=
  fun _ hc ↦ decide_eq_true fun hcolon ↦ htext (hcolon ▸ hc)

theorem splitn2_append {front : List Char} (hfront : ':' ∉ front) (back : List Char) :
    splitn2 (front ++ ':' :: back) = [front, back] := by
  have hkeep := decide_ne_of_notMem hfront
  unfold splitn2
  rw [List.dropWhile_append_of_pos hkeep, List.takeWhile_append_of_pos hkeep]
  simp

theorem splitn2_of_notMem {line : List Char} (hline : ':' ∉ line) : splitn2 line = [line] := by
  unfold splitn2
  rw [List.dropWhile_eq_nil_iff.mpr (decide_ne_of_notMem hline)]

theorem header_append {front : List Char} (hfront : ':' ∉ front) (back : List Char) :
    header (front ++ ':' :: back) =
      if trim back = "" then none else some (toAsciiLowercase (trim front), trim back) := by
  rw [header, splitn2_append hfront]

theorem header_of_notMem {line : List Char} (hline : ':' ∉ line) : header line = none := by
  rw [header, splitn2_of_notMem hline]

theorem header_eq_some_iff (line : List Char) (name value : String) :
    header line = some (name, value) ↔ IsHeader line name value := by
  by_cases hcolon : ':' ∈ line
  · obtain ⟨front, back, rfl, hfront⟩ := List.eq_append_cons_of_mem hcolon
    rw [header_append hfront]
    constructor
    · intro hheader
      split at hheader
      next => cases hheader
      next hvalue =>
        obtain ⟨hname, hback⟩ := Prod.mk.inj (Option.some.inj hheader)
        exact ⟨⟨front, back, rfl, hfront, hname, hback⟩, hback ▸ hvalue⟩
    · rintro ⟨⟨front', back', hline, hfront', hname, hback⟩, hvalue⟩
      -- Both cuts are at the first colon.
      have hcut := splitn2_append hfront back
      rw [hline, splitn2_append hfront'] at hcut
      obtain ⟨rfl, rfl⟩ : front' = front ∧ back' = back := by simpa using hcut
      rw [hname, hback, if_neg hvalue]
  · rw [header_of_notMem hcolon]
    constructor
    · exact nofun
    · rintro ⟨⟨front, back, rfl, -⟩, -⟩
      exact absurd (List.mem_append_right front List.mem_cons_self) hcolon

theorem headerValue_eq_some_iff (name : String) (line : List Char) (value : String) :
    headerValue name line = some value ↔ IsHeader line name value := by
  rw [← header_eq_some_iff, headerValue, Option.bind_eq_some_iff]
  constructor
  · rintro ⟨⟨key, other⟩, hheader, hvalue⟩
    by_cases hkey : key = name
    · rw [hheader]
      simpa [hkey] using hvalue
    · simp [hkey] at hvalue
  · intro hheader
    exact ⟨_, hheader, if_pos rfl⟩

/-! ### The loop -/

theorem HeaderFields.read_header (fields : HeaderFields) (line : List Char) :
    fields.read line = (header line).elim fields fun (key, value) ↦ fields.assign key value := by
  by_cases hcolon : ':' ∈ line
  · obtain ⟨front, back, rfl, hfront⟩ := List.eq_append_cons_of_mem hcolon
    rw [header_append hfront, read, if_neg (by simp), splitn2_append hfront]
    by_cases hvalue : trim back = ""
    · simp only [if_pos hvalue, Option.elim_none]
    · simp only [if_neg hvalue, Option.elim_some]
  · rw [header_of_notMem hcolon, read, splitn2_of_notMem hcolon]
    split <;> rfl

/-- One turn of the loop: each variable is changed by the headers of its own name. -/
theorem HeaderFields.read_eq (fields : HeaderFields) (line : List Char) :
    fields.read line =
      { server := (headerValue "server" line).or fields.server
        deviceTypes := fields.deviceTypes ++ (headerValue "nt" line).toList
        nts := ((headerValue "nts" line).map toAsciiLowercase).or fields.nts } := by
  rw [read_header]
  cases hheader : header line with
  | none => simp [headerValue, hheader]
  | some entry =>
    obtain ⟨name, value⟩ := entry
    simp only [Option.elim_some, assign, headerValue, hheader, Option.bind_some]
    by_cases hnts : name = "nts"
    · subst hnts
      simp
    by_cases hnt : name = "nt"
    · subst hnt
      simp
    by_cases hserver : name = "server"
    · subst hserver
      simp
    simp [hnts, hnt, hserver]

theorem getLast?_filterMap_cons {α β : Type} (read : α → Option β) (first : α) (rest : List α) :
    ((first :: rest).filterMap read).getLast? = (rest.filterMap read).getLast?.or (read first) := by
  cases hfirst : read first with
  | none => rw [List.filterMap_cons_none hfirst, Option.or_none]
  | some value =>
    rw [List.filterMap_cons_some hfirst, List.getLast?_cons]
    cases (rest.filterMap read).getLast? <;> rfl

/-- The variables after the loop: the last `server`, all `nt` and the last `nts` header. -/
theorem HeaderFields.foldl_read (lines : List (List Char)) (fields : HeaderFields) :
    lines.foldl read fields =
      { server := (lines.filterMap (headerValue "server")).getLast?.or fields.server
        deviceTypes := fields.deviceTypes ++ lines.filterMap (headerValue "nt")
        nts := ((lines.filterMap (headerValue "nts")).getLast?.map toAsciiLowercase).or
          fields.nts } := by
  induction lines generalizing fields with
  | nil => simp
  | cons line rest ih =>
    rw [List.foldl_cons, ih, read_eq]
    simp only [getLast?_filterMap_cons, Option.map_or, Option.or_assoc, List.append_assoc,
      HeaderFields.mk.injEq, true_and, and_true]
    cases hvalue : headerValue "nt" line <;> simp [hvalue]

/-! ### What is accepted and returned -/

/-- The bytes of a text. -/
def utf8 (text : List Char) : List UInt8 := (String.ofList text).toUTF8.data.toList

theorem fromUtf8_eq_some_iff (buf : List UInt8) (text : String) :
    fromUtf8 buf = some text ↔ buf = utf8 text.toList := by
  have hbytes : buf = utf8 text.toList ↔ text.toByteArray = ⟨buf.toArray⟩ := by
    rw [utf8, String.ofList_toList, String.toUTF8_eq_toByteArray]
    constructor
    · rintro rfl
      rfl
    · intro htext
      rw [htext]
  rw [hbytes, fromUtf8, String.fromUTF8?]
  split
  next hvalid => rw [Option.some.injEq, ← String.toByteArray_inj, String.fromUTF8, eq_comm]
  next hinvalid =>
    constructor
    · exact nofun
    · intro htext
      exact absurd (htext ▸ text.isValidUTF8) hinvalid

theorem parseAnnouncement_utf8 (text : List Char) :
    parseAnnouncement (utf8 text) = parseText text := by
  have htext : fromUtf8 (utf8 text) = some (String.ofList text) :=
    (fromUtf8_eq_some_iff _ _).mpr (by rw [String.toList_ofList])
  rw [parseAnnouncement, htext]
  simp only [String.toList_ofList]

theorem parseAnnouncement_eq_some_iff (buf : List UInt8) (announcement : SsdpAnnouncement) :
    parseAnnouncement buf = some announcement ↔
      ∃ text, buf = utf8 text ∧ parseText text = some announcement := by
  constructor
  · intro hparse
    rw [parseAnnouncement] at hparse
    split at hparse
    next text htext => exact ⟨text.toList, (fromUtf8_eq_some_iff buf text).mp htext, hparse⟩
    next => cases hparse
  · rintro ⟨text, rfl, hparse⟩
    rw [parseAnnouncement_utf8, hparse]

theorem parseText_eq_ite (text : List Char) :
    parseText text =
      if isNotify ((lines text).headD []) ∧
          ((headerValues "nts" text).getLast?.map toAsciiLowercase = some "ssdp:alive" ∨
            (headerValues "nts" text).getLast?.map toAsciiLowercase = some "ssdp:update") then
        some ⟨(headerValues "server" text).getLast?, headerValues "nt" text⟩
      else none := by
  rw [parseText, HeaderFields.foldl_read]
  simp only [Option.or_none, List.nil_append]
  exact (ite_and ..).symm

theorem parseText_eq_some_iff (text : List Char) (announcement : SsdpAnnouncement) :
    parseText text = some announcement ↔
      isNotify ((lines text).headD []) = true ∧
        (∃ nts, (headerValues "nts" text).getLast? = some nts ∧
          toAsciiLowercase nts ∈ ["ssdp:alive", "ssdp:update"]) ∧
        announcement = ⟨(headerValues "server" text).getLast?, headerValues "nt" text⟩ := by
  have hnts : (∃ nts, (headerValues "nts" text).getLast? = some nts ∧
      toAsciiLowercase nts ∈ ["ssdp:alive", "ssdp:update"]) ↔
      (headerValues "nts" text).getLast?.map toAsciiLowercase = some "ssdp:alive" ∨
        (headerValues "nts" text).getLast?.map toAsciiLowercase = some "ssdp:update" := by
    cases (headerValues "nts" text).getLast? <;> simp
  rw [hnts, parseText_eq_ite, Option.ite_none_right_eq_some, Option.some.injEq, and_assoc,
    eq_comm (a := announcement)]

theorem trim_append_return (text : List Char) : trim (text ++ ['\r']) = trim text := by
  have hwhite : isWhiteSpace '\r' = true := by decide
  simp only [trim, trimMatches, String.toList_ofList, List.dropWhile_append]
  by_cases hblank : (text.dropWhile isWhiteSpace).isEmpty
  · rw [if_pos hblank, List.isEmpty_iff.mp hblank, List.dropWhile_cons_of_pos hwhite]
    rfl
  · rw [if_neg hblank, List.rdropWhile_concat_pos _ _ _ hwhite]

theorem header_append_return (line : List Char) : header (line ++ ['\r']) = header line := by
  by_cases hcolon : ':' ∈ line
  · obtain ⟨front, back, rfl, hfront⟩ := List.eq_append_cons_of_mem hcolon
    rw [List.append_assoc, List.cons_append, header_append hfront, header_append hfront,
      trim_append_return]
  · rw [header_of_notMem hcolon, header_of_notMem (by simpa using hcolon)]

theorem isNotify_append_return (line : List Char) : isNotify (line ++ ['\r']) = isNotify line := by
  rw [Bool.eq_iff_iff]
  simp only [isNotify, toAsciiUppercase, String.toList_ofList, List.isPrefixOf_iff_prefix,
    List.map_append, List.map_singleton, List.prefix_concat_iff]
  constructor
  · rintro (hwhole | hstarts)
    · exact absurd (congrArg List.getLast? hwhole) (by simp)
    · exact hstarts
  · exact .inr

/-- A line that starts with the method, in any letter case. -/
def StartsWithNotify (line : List Char) : Prop :=
  ∃ method rest, line = method ++ rest ∧ toAsciiUppercase (String.ofList method) = "NOTIFY "

theorem isNotify_iff (line : List Char) : isNotify line = true ↔ StartsWithNotify line := by
  simp only [isNotify, StartsWithNotify, toAsciiUppercase, String.toList_ofList,
    List.isPrefixOf_iff_prefix]
  constructor
  · rintro ⟨rest, hrest⟩
    obtain ⟨method, tail, hline, hmethod, -⟩ := List.map_eq_append_iff.mp hrest.symm
    exact ⟨method, tail, hline, by rw [hmethod, String.ofList_toList]⟩
  · rintro ⟨method, rest, rfl, hmethod⟩
    rw [List.map_append, ← hmethod, String.toList_ofList]
    exact List.prefix_append ..

/-! ### What does not matter -/

theorem headerValue_append_return (name : String) (line : List Char) :
    headerValue name (line ++ ['\r']) = headerValue name line := by
  rw [headerValue, header_append_return, headerValue]

theorem headerValues_unixEndings (name : String) (text : List Char) :
    headerValues name (unixEndings text) = headerValues name text := by
  have hmaps := congrArg List.tail (map_lines_unixEndings (headerValue_append_return name) text)
  rw [← List.map_tail, ← List.map_tail] at hmaps
  have hvalues := congrArg (List.filterMap id) hmaps
  rwa [List.filterMap_map, List.filterMap_map, Function.id_comp] at hvalues

theorem isNotify_unixEndings (text : List Char) :
    isNotify ((lines (unixEndings text)).headD []) = isNotify ((lines text).headD []) := by
  have hmaps := congrArg List.head? (map_lines_unixEndings isNotify_append_return text)
  rw [List.head?_map, List.head?_map] at hmaps
  rw [List.headD_eq_head?_getD, List.headD_eq_head?_getD, ← Option.getD_map isNotify,
    hmaps, Option.getD_map]

/-- A line without a colon, or a header of a name that the parser does not know. -/
def Unrelated (line : List Char) : Prop :=
  ':' ∉ line ∨ ∃ front back, line = front ++ ':' :: back ∧ ':' ∉ front ∧
    toAsciiLowercase (trim front) ∉ ["nts", "nt", "server"]

theorem headerValue_of_unrelated {line : List Char} (hline : Unrelated line) {name : String}
    (hname : name ∈ ["nts", "nt", "server"]) : headerValue name line = none := by
  rcases hline with hcolon | ⟨front, back, rfl, hfront, hother⟩
  · rw [headerValue, header_of_notMem hcolon, Option.bind_none]
  · rw [headerValue, header_append hfront]
    have hne : toAsciiLowercase (trim front) ≠ name := fun heq ↦ hother (heq ▸ hname)
    split
    next => rfl
    next => simp only [Option.bind_some, if_neg hne]

theorem headerValues_of_inserted {text other first : List Char} {rest others : List (List Char)}
    (htext : lines text = first :: rest) (hother : lines other = first :: others)
    (hinserted : Inserted Unrelated rest others) (name : String)
    (hname : name ∈ ["nts", "nt", "server"]) :
    headerValues name other = headerValues name text := by
  rw [headerValues, headerValues, htext, hother]
  exact hinserted.filterMap_eq fun line hline ↦ headerValue_of_unrelated hline hname

/-- The parser accepts exactly the announcements of a present device, and returns the last server
and all the types that they name; neither the line endings nor other lines behind the first one
change what it returns. -/
theorem parseAnnouncement_exact :
    (∀ buf announcement, parseAnnouncement buf = some announcement ↔
      ∃ text, buf = utf8 text ∧ StartsWithNotify ((lines text).headD []) ∧
        (∃ nts, (headerValues "nts" text).getLast? = some nts ∧
          toAsciiLowercase nts ∈ ["ssdp:alive", "ssdp:update"]) ∧
        announcement = ⟨(headerValues "server" text).getLast?, headerValues "nt" text⟩) ∧
    (∀ name line value, headerValue name line = some value ↔ IsHeader line name value) ∧
    (∀ text, parseAnnouncement (utf8 (unixEndings text)) = parseAnnouncement (utf8 text)) ∧
    ∀ text other first rest others, lines text = first :: rest → lines other = first :: others →
      Inserted Unrelated rest others →
        parseAnnouncement (utf8 other) = parseAnnouncement (utf8 text) := by
  refine ⟨?exact, headerValue_eq_some_iff, ?endings, ?inserted⟩
  case exact =>
    intro buf announcement
    simp only [← isNotify_iff, ← parseText_eq_some_iff]
    exact parseAnnouncement_eq_some_iff buf announcement
  case endings =>
    intro text
    rw [parseAnnouncement_utf8, parseAnnouncement_utf8, parseText_eq_ite, parseText_eq_ite,
      isNotify_unixEndings]
    simp only [headerValues_unixEndings]
  case inserted =>
    intro text other first rest others htext hother hinserted
    have hvalues := headerValues_of_inserted htext hother hinserted
    rw [parseAnnouncement_utf8, parseAnnouncement_utf8, parseText_eq_ite, parseText_eq_ite,
      hvalues "nts" (by decide), hvalues "server" (by decide), hvalues "nt" (by decide), htext,
      hother, List.headD_cons, List.headD_cons]

/-- A packet with mixed line endings, and the same one with a header of another name inserted. -/
theorem parseAnnouncement_exact_mixedEndings :
    parseAnnouncement (utf8 "notify *\r\nNTS: ssdp:alive\nServer: Kodi:19".toList) =
        some ⟨some "Kodi:19", []⟩ ∧
      parseAnnouncement (utf8 "notify *\r\nNTS: ssdp:alive\nHost: a\nServer: Kodi:19".toList) =
        parseAnnouncement (utf8 "notify *\r\nNTS: ssdp:alive\nServer: Kodi:19".toList) := by
  refine ⟨(parseAnnouncement_exact.1 _ _).mpr ⟨_, rfl, ?_, ?_, ?_⟩,
    parseAnnouncement_exact.2.2.2 _ _ "notify *".toList
      ["NTS: ssdp:alive".toList, "Server: Kodi:19".toList]
      ["NTS: ssdp:alive".toList, "Host: a".toList, "Server: Kodi:19".toList] ?_ ?_ ?_⟩
  · exact ⟨"notify ".toList, _, rfl, by decide⟩
  · exact ⟨"ssdp:alive", by decide +kernel, by decide⟩
  · decide +kernel
  · decide +kernel
  · decide +kernel
  · exact .keep _ (.insert (.inr ⟨"Host".toList, _, rfl, by decide, by decide +kernel⟩)
      (.keep _ .nil))

end Ssdp

end Oott
