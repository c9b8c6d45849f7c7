import Mathlib.Data.List.Forall2
import Mathlib.Tactic.Common

/-!
# Texts as lists of lines

A text is split at its line feeds, and each line loses one carriage return at its end. To replace
every pair of the two characters by a line feed changes a line by such a return only
(`Lines.ended_unixEndings`), so that whatever a reader makes of a line, when the return does not
matter to it, is the same before and after (`Lines.map_splitOn_unixEndings`). `Lines.Inserted`
relates a list of lines to one with further lines between them.
-/

set_option autoImplicit false
set_option relaxedAutoImplicit false

namespace Lines

/-! ### Line endings -/

/-- A line without one carriage return at its end. -/
def stripReturn (line : List Char) : List Char :=
  if line.getLast? = some '\r' then line.dropLast else line

/-- The lines of a text. -/
def lines (text : List Char) : List (List Char) := (text.splitOn '\n').map stripReturn

/-- A text with every carriage return in front of a line feed taken out. -/
def unixEndings : List Char → List Char
  | '\r' :: '\n' :: rest => '\n' :: unixEndings rest
  | c :: rest => c :: unixEndings rest
  | [] => []

/-- Two lines that differ by at most one carriage return at the end of the first. -/
def Ended (line other : List Char) : Prop := line = other ∨ line = other ++ ['\r']

theorem ended_stripReturn (line : List Char) : Ended line (stripReturn line) := by
  unfold stripReturn
  split
  next hreturn =>
    right
    exact (List.dropLast_append_getLast? '\r' hreturn).symm
  next => exact .inl rfl

theorem Ended.cons {line other : List Char} (hended : Ended line other) (c : Char) :
    Ended (c :: line) (c :: other) := by
  rcases hended with rfl | rfl
  · exact .inl rfl
  · exact .inr rfl

/-- A character that goes to the front of the first line on both sides. -/
theorem ended_modifyHead (c : Char) {items others : List (List Char)}
    (hended : List.Forall₂ Ended items others) :
    List.Forall₂ Ended (items.modifyHead (List.cons c)) (others.modifyHead (List.cons c)) := by
  cases hended with
  | nil => exact .nil
  | cons hfirst hrest => exact .cons (hfirst.cons c) hrest

theorem Ended.eq_of_append {β : Type} {read : List Char → β}
    (hread : ∀ line, read (line ++ ['\r']) = read line) {line other : List Char}
    (hended : Ended line other) : read line = read other := by
  rcases hended with rfl | rfl
  · rfl
  · exact hread other

theorem splitOn_cons (separator c : Char) (text : List Char) :
    (c :: text).splitOn separator =
      if c = separator then [] :: text.splitOn separator
      else (text.splitOn separator).modifyHead (List.cons c) := by
  simp only [List.splitOn, List.splitOnP_cons_eq_if_modifyHead, beq_iff_eq]

/-- The lines of a text whose endings are replaced differ from those that it had by a carriage
return at the end of some of them. -/
theorem ended_unixEndings (text : List Char) :
    List.Forall₂ Ended (text.splitOn '\n') ((unixEndings text).splitOn '\n') := by
  fun_induction unixEndings text with
  | case1 rest ih =>
    simp only [splitOn_cons, if_true, List.modifyHead_cons]
    rw [if_neg (by decide)]
    exact .cons (.inr rfl) ih
  | case2 c rest hpair ih =>
    rw [splitOn_cons, splitOn_cons]
    split
    next => exact .cons (.inl rfl) ih
    next =>
      exact ended_modifyHead c ih
  | case3 => exact .cons (.inl rfl) .nil

section Readers

variable {β : Type} {read : List Char → β} (hread : ∀ line, read (line ++ ['\r']) = read line)

include hread

theorem map_lines (text : List Char) :
    (lines text).map read = (text.splitOn '\n').map read := by
  rw [lines, List.map_map]
  exact List.map_congr_left fun line _ ↦ ((ended_stripReturn line).eq_of_append hread).symm

theorem map_splitOn_unixEndings (text : List Char) :
    ((unixEndings text).splitOn '\n').map read = (text.splitOn '\n').map read := by
  have hsame := (ended_unixEndings text).imp fun _ _ hended ↦ hended.eq_of_append hread
  have hmaps : List.Forall₂ Eq ((text.splitOn '\n').map read)
      (((unixEndings text).splitOn '\n').map read) :=
    List.forall₂_map_left_iff.mpr (List.forall₂_map_right_iff.mpr hsame)
  rw [List.forall₂_eq_eq_eq] at hmaps
  exact hmaps.symm

/-- What is read of the lines does not depend on how they end. -/
theorem map_lines_unixEndings (text : List Char) :
    (lines (unixEndings text)).map read = (lines text).map read := by
  rw [map_lines hread, map_lines hread, map_splitOn_unixEndings hread]

end Readers

/-! ### Inserted lines -/

variable {α β : Type}

/-- The second list is the first one with elements that have a property inserted. -/
inductive Inserted (extra : α → Prop) : List α → List α → Prop
  | nil : Inserted extra [] []
  | keep (element : α) {items others : List α} :
      Inserted extra items others → Inserted extra (element :: items) (element :: others)
  | insert {element : α} {items others : List α} :
      extra element → Inserted extra items others → Inserted extra items (element :: others)

/-- A reader that skips the inserted elements reads the same. -/
theorem Inserted.filterMap_eq {extra : α → Prop} {read : α → Option β}
    (hskip : ∀ element, extra element → read element = none) {items others : List α}
    (hinserted : Inserted extra items others) : others.filterMap read = items.filterMap read := by
  induction hinserted with
  | nil => rfl
  | keep element _ ih => rw [List.filterMap_cons, List.filterMap_cons, ih]
  | insert hextra _ ih => rw [List.filterMap_cons_none (hskip _ hextra), ih]

end Lines
