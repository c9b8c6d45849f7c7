import Mathlib.Data.List.TakeWhile
import Mathlib.Tactic.Common

/-!
# Lines in columns

`split` is what a reader makes of a line whose columns stand between runs of blanks: the longest
parts without one. However a line lays its columns out, with blanks at its ends or without, these
are the parts that are read (`split_eq_iff_laid`).
-/

set_option autoImplicit false
set_option relaxedAutoImplicit false

namespace Columns

variable {α : Type} (blank : α → Bool)

/-- The parts of a text between its blanks, without the empty ones. -/
def split (text : List α) : List (List α) := (text.splitOnP blank).filter (· ≠ [])

/-- A column is not empty and has no blank in it. -/
def IsColumn (column : List α) : Prop := column ≠ [] ∧ ∀ c ∈ column, blank c = false

/-- The text has these columns, with blanks between them, and at its ends or not. -/
inductive Laid : List (List α) → List α → Prop
  | blanks {gap : List α} : (∀ c ∈ gap, blank c) → Laid [] gap
  | last {gap column : List α} :
      (∀ c ∈ gap, blank c) → IsColumn blank column → Laid [column] (gap ++ column)
  | cons {gap column : List α} {c : α} {columns : List (List α)} {text : List α} :
      (∀ c ∈ gap, blank c) → IsColumn blank column → blank c → Laid columns text →
      Laid (column :: columns) (gap ++ column ++ c :: text)

variable {blank}

/-- A blank ends the parts before it. -/
theorem split_append_blank {c : α} (hc : blank c) (text rest : List α) :
    split blank (text ++ c :: rest) = split blank text ++ split blank rest := by
  unfold split
  rw [List.splitOnP_append_cons text rest hc, List.filter_append]

theorem split_nil : split blank [] = [] := by
  rw [split, List.splitOnP_nil]
  rfl

/-- Blanks in front of a text are in no part. -/
theorem split_gap_append {gap : List α} (hgap : ∀ c ∈ gap, blank c) (text : List α) :
    split blank (gap ++ text) = split blank text := by
  induction gap with
  | nil => rfl
  | cons c gap ih =>
    obtain ⟨hc, hrest⟩ := List.forall_mem_cons.mp hgap
    rw [List.cons_append, ← List.nil_append (c :: _), split_append_blank hc, split_nil,
      List.nil_append, ih hrest]

theorem split_append_gap (text : List α) {c : α} (hc : blank c) :
    split blank (text ++ [c]) = split blank text := by
  rw [split_append_blank hc, split_nil, List.append_nil]

theorem IsColumn.split_eq {column : List α} (hcolumn : IsColumn blank column) :
    split blank column = [column] := by
  obtain ⟨hne, hnone⟩ := hcolumn
  rw [split, List.splitOnP_eq_singleton hnone]
  exact List.filter_eq_self.mpr (by simpa using hne)

/-- The columns of a text are its parts. -/
theorem split_of_laid {columns : List (List α)} {text : List α} (hlaid : Laid blank columns text) :
    split blank text = columns := by
  induction hlaid with
  | @blanks gap hgap => rw [← List.append_nil gap, split_gap_append hgap, split_nil]
  | last hgap hcolumn => rw [split_gap_append hgap, hcolumn.split_eq]
  | cons hgap hcolumn hc _ ih =>
    rw [List.append_assoc, split_gap_append hgap, split_append_blank hc, hcolumn.split_eq, ih]
    rfl

/-- Every text is laid out in columns: after its first blanks stands the first column, and the text
after the blank that ends it is shorter. -/
theorem exists_laid (text : List α) : ∃ columns, Laid blank columns text := by
  have hgap : ∀ c ∈ text.takeWhile blank, blank c := fun c hc ↦ List.mem_takeWhile_imp hc
  have htext := List.takeWhile_append_dropWhile (p := blank) (l := text)
  have hfirst := List.head?_dropWhile_not blank text
  cases hrest : text.dropWhile blank with
  | nil =>
    rw [← htext, hrest, List.append_nil]
    exact ⟨[], .blanks hgap⟩
  | cons first others =>
    rw [hrest] at htext hfirst
    have hwhole := List.takeWhile_append_dropWhile (p := fun c ↦ !blank c) (l := first :: others)
    have hcolumn : IsColumn blank ((first :: others).takeWhile fun c ↦ !blank c) := by
      refine ⟨?_, fun c hc ↦ by simpa using List.mem_takeWhile_imp hc⟩
      rw [List.takeWhile_cons_of_pos (by simpa using hfirst)]
      exact List.cons_ne_nil _ _
    have hend := List.head?_dropWhile_not (fun c ↦ !blank c) (first :: others)
    cases hafter : (first :: others).dropWhile fun c ↦ !blank c with
    | nil =>
      rw [hafter, List.append_nil] at hwhole
      rw [hwhole] at hcolumn
      exact ⟨[first :: others], htext ▸ .last hgap hcolumn⟩
    | cons c rest =>
      rw [hafter] at hwhole hend
      have hshorter : rest.length < text.length := by
        have hlength := congrArg List.length (hwhole ▸ htext)
        simp only [List.length_append, List.length_cons] at hlength
        omega
      obtain ⟨columns, hlaid⟩ := exists_laid rest
      have hall := Laid.cons hgap hcolumn (by simpa using hend) hlaid
      rw [List.append_assoc, hwhole, htext] at hall
      exact ⟨_, hall⟩
termination_by text.length

/-- The parts of a text are the columns that it is laid out in. -/
theorem split_eq_iff_laid {columns : List (List α)} {text : List α} :
    split blank text = columns ↔ Laid blank columns text := by
  constructor
  · rintro rfl
    obtain ⟨columns, hlaid⟩ := @exists_laid _ blank text
    rwa [split_of_laid hlaid]
  · exact split_of_laid

instance [DecidableEq α] (columns : List (List α)) (text : List α) :
    Decidable (Laid blank columns text) := decidable_of_iff _ split_eq_iff_laid

end Columns
