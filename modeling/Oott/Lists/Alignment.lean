import Mathlib.Data.List.Nodup
import Mathlib.Data.List.Perm.Basic
import Mathlib.Order.Lattice
import Mathlib.Tactic.Common

/-!
# Aligning a list with another one

`insertMissing` goes through a target list and inserts every element whose key is missing at the
position that it has there. A list that has the elements of the target in their order, but not all
of them, becomes the target (`map_insertMissing`); any list gains what it lacks
(`insertMissing_perm`).
-/

set_option autoImplicit false
set_option relaxedAutoImplicit false

namespace Lists

/-- Elements with distinct keys are told apart by them. -/
theorem getElem_key_eq_iff {α κ : Type} {key : α → κ} {items : List α}
    (hnodup : (items.map key).Nodup) {index other : ℕ} (hindex : index < items.length)
    (hother : other < items.length) :
    key items[other] = key items[index] ↔ index = other := by
  have hindexKey : index < (items.map key).length := by simpa using hindex
  have hotherKey : other < (items.map key).length := by simpa using hother
  have hkeys : (items.map key)[index] = (items.map key)[other] ↔ index = other :=
    hnodup.getElem_inj_iff
  rw [← hkeys, List.getElem_map, List.getElem_map, eq_comm]

variable {α β κ : Type} [DecidableEq κ]

/-- Inserts the elements of a target whose keys a list does not have, from a position on. -/
def insertMissing (key : α → κ) : List α → ℕ → List α → List α
  | [], _, items => items
  | element :: rest, position, items =>
    insertMissing key rest (position + 1)
      (if key element ∈ items.map key then items
        else items.insertIdx (min position items.length) element)

theorem insertIdx_length_append (done items : List α) (element : α) :
    (done ++ items).insertIdx done.length element = done ++ element :: items := by
  induction done with
  | nil => rfl
  | cons first rest ih => simp [ih]

section Aligned

variable (view : α → β) (key : β → κ)

/-- A list that is behind the target, after a prefix of its own, becomes the target. -/
theorem map_insertMissing_append (target : List α) :
    ∀ done items : List α, (items.map view).Sublist (target.map view) →
      ((done ++ target).map (key ∘ view)).Nodup →
      (insertMissing (key ∘ view) target done.length (done ++ items)).map view =
        (done ++ target).map view := by
  induction target with
  | nil =>
    intro done items hsub hnodup
    have hitems : items = [] := by simpa using hsub
    rw [hitems]
    rfl
  | cons element rest ih =>
    intro done items hsub hnodup
    rw [List.map_cons, List.sublist_cons_iff] at hsub
    rcases hsub with hsub | ⟨behind, hbehind, hsub⟩
    · have hmissing : (key ∘ view) element ∉ (done ++ items).map (key ∘ view) := by
        have hkeys : items.map (key ∘ view) ⊆ rest.map (key ∘ view) := by
          simpa [List.map_map] using (hsub.map key).subset
        rw [List.map_append, List.map_cons, List.nodup_middle, List.nodup_cons,
          List.mem_append, not_or] at hnodup
        rw [List.map_append, List.mem_append, not_or]
        exact ⟨hnodup.1.1, fun hmem ↦ hnodup.1.2 (hkeys hmem)⟩
      have hinsert : (done ++ items).insertIdx (min done.length (done ++ items).length) element =
          (done ++ [element]) ++ items := by
        simp [insertIdx_length_append]
      rw [insertMissing, if_neg hmissing, hinsert]
      simpa using ih (done ++ [element]) items hsub (by simpa using hnodup)
    · obtain ⟨same, tail, rfl, hsame, rfl⟩ := List.map_eq_cons_iff.1 hbehind
      have hpresent : (key ∘ view) element ∈ (done ++ same :: tail).map (key ∘ view) := by
        simp [hsame]
      rw [insertMissing, if_pos hpresent]
      have haligned := ih (done ++ [same]) tail hsub (by simpa [hsame] using hnodup)
      simpa [hsame] using haligned

/-- A list whose elements are those of the target, in their order, becomes the target. -/
theorem map_insertMissing {items target : List α}
    (hsub : (items.map view).Sublist (target.map view))
    (hnodup : (target.map (key ∘ view)).Nodup) :
    (insertMissing (key ∘ view) target 0 items).map view = target.map view :=
  map_insertMissing_append view key target [] items hsub hnodup

end Aligned

/-- A list gains the elements of the target whose keys it does not have. -/
theorem insertMissing_perm {key : α → κ} {target : List α} :
    ∀ (position : ℕ) (items : List α), (target.map key).Nodup →
      (insertMissing key target position items).Perm
        (items ++ target.filter fun element ↦ key element ∉ items.map key) := by
  induction target with
  | nil => simp [insertMissing]
  | cons element rest ih =>
    intro position items hnodup
    obtain ⟨hfresh, hrest⟩ := List.nodup_cons.1 hnodup
    rw [insertMissing]
    split_ifs with hpresent
    · rw [List.filter_cons_of_neg (by simpa using hpresent)]
      exact ih (position + 1) items hrest
    · have hperm := List.perm_insertIdx element items (min_le_right position items.length)
      -- No later element has the key of this one.
      have hsame : (rest.filter fun other ↦
          key other ∉ (items.insertIdx (min position items.length) element).map key) =
          rest.filter fun other ↦ key other ∉ items.map key := by
        refine List.filter_congr fun other hother ↦ ?_
        have hne : key other ≠ key element := fun heq ↦ hfresh (heq ▸ List.mem_map_of_mem hother)
        rw [decide_eq_decide, (hperm.map key).mem_iff, List.map_cons, List.mem_cons]
        simp only [hne, false_or]
      refine (ih (position + 1) _ hrest).trans ?_
      rw [hsame, List.filter_cons_of_pos (by simpa using hpresent)]
      exact (hperm.append_right _).trans List.perm_middle.symm

end Lists
