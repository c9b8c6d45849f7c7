import Mathlib.Algebra.Group.Nat.Defs
import Mathlib.Data.Char
import Mathlib.Tactic.Common

/-!
# Numbers in texts of fixed width

`digits` is a number as decimal digits of a given width, padded with zeros, and `render` a list of
numbers as such fields with separators between them. Texts of one format are in the order of their
numbers, whatever follows them (`render_lt`), so that a comparison of texts, character by character,
is a comparison of the numbers, field by field.
-/

set_option autoImplicit false
set_option relaxedAutoImplicit false

namespace FixedWidth

/-- The last `width` decimal digits of a number. -/
def digits : ℕ → ℕ → List Char
  | 0, _ => []
  | width + 1, n => digits width (n / 10) ++ [Nat.digitChar (n % 10)]

/-- Fields of the given widths, each followed by its separator. -/
def render : List (ℕ × List Char) → List ℕ → List Char
  | (width, separator) :: format, value :: values =>
    digits width value ++ separator ++ render format values
  | _, _ => []

/-- The numbers have the widths of the format. -/
def Fits (format : List (ℕ × List Char)) (values : List ℕ) : Prop :=
  List.Forall₂ (fun field value ↦ value < 10 ^ field.1) format values

theorem length_digits (width n : ℕ) : (digits width n).length = width := by
  induction width generalizing n with
  | zero => rfl
  | succ width ih => rw [digits, List.length_append, ih, List.length_singleton]

theorem digitChar_lt {m n : ℕ} (h : m < n) (hn : n < 10) : Nat.digitChar m < Nat.digitChar n := by
  have hall : ∀ n < 10, ∀ m < n, Nat.digitChar m < Nat.digitChar n := by decide
  exact hall n hn m h

theorem isDigit_of_mem_digits {width n : ℕ} {c : Char} (hmem : c ∈ digits width n) :
    '0' ≤ c ∧ c ≤ '9' := by
  have hall : ∀ n < 10, '0' ≤ Nat.digitChar n ∧ Nat.digitChar n ≤ '9' := by decide
  induction width generalizing n with
  | zero => cases hmem
  | succ width ih =>
    rcases List.mem_append.mp hmem with hearlier | hlast
    · exact ih hearlier
    · rw [List.mem_singleton.mp hlast]
      exact hall _ (Nat.mod_lt n (by decide))

/-- Digits of one width are in the order of their numbers. -/
theorem digits_lt {width m n : ℕ} (h : m < n) (hn : n < 10 ^ width) (rest rest' : List Char) :
    digits width m ++ rest < digits width n ++ rest' := by
  induction width generalizing m n rest rest' with
  | zero =>
    rw [Nat.pow_zero] at hn
    omega
  | succ width ih =>
    rw [digits, digits, List.append_assoc, List.append_assoc]
    have hle : m / 10 ≤ n / 10 := Nat.div_le_div_right (Nat.le_of_lt h)
    rcases Nat.lt_or_eq_of_le hle with htens | htens
    · exact ih htens (Nat.div_lt_of_lt_mul (by rwa [Nat.pow_succ'] at hn)) _ _
    · rw [htens]
      refine List.append_left_lt (List.cons_lt_cons_iff.mpr (Or.inl (digitChar_lt ?_ ?_)))
      · omega
      · exact Nat.mod_lt n (by decide)

/-- The first digits of a number are those of its quotient. -/
theorem digits_add (width rest n : ℕ) :
    digits (width + rest) n = digits width (n / 10 ^ rest) ++ digits rest n := by
  induction rest generalizing n with
  | zero => rw [Nat.pow_zero, Nat.div_one, digits, List.append_nil, Nat.add_zero]
  | succ rest ih =>
    rw [Nat.add_succ, digits, digits, ih, List.append_assoc, Nat.div_div_eq_div_mul,
      ← Nat.pow_succ']

/-- Only the last digits of a number are written. -/
theorem digits_mod (width n : ℕ) : digits width (n % 10 ^ width) = digits width n := by
  induction width generalizing n with
  | zero => rfl
  | succ width ih =>
    have htens : n % 10 ^ (width + 1) / 10 = n / 10 % 10 ^ width := by
      rw [Nat.pow_succ', Nat.mod_mul_right_div_self]
    have hones : n % 10 ^ (width + 1) % 10 = n % 10 :=
      Nat.mod_mod_of_dvd n (Nat.pow_succ' ▸ Nat.dvd_mul_right 10 (10 ^ width))
    rw [digits, digits, htens, hones, ih]

theorem append_lt_append_iff (front first second : List Char) :
    front ++ first < front ++ second ↔ first < second := by
  induction front with
  | nil => rfl
  | cons c front ih => rw [List.cons_append, List.cons_append, List.cons_lt_cons_self, ih]

theorem div_lt_of_lt {width rest n : ℕ} (hn : n < 10 ^ (width + rest)) :
    n / 10 ^ rest < 10 ^ width := by
  rw [Nat.div_lt_iff_lt_mul (Nat.pow_pos (by decide)), ← Nat.pow_add]
  exact hn

/-- At least one digit sorts after a mark that sorts before every digit. -/
theorem mark_lt_digits {mark : Char} (hmark : mark < '0') (rest n : ℕ) (after after' : List Char) :
    mark :: after < digits (rest + 1) n ++ after' := by
  cases hdigits : digits (rest + 1) n with
  | nil =>
    have hlength := length_digits (rest + 1) n
    rw [hdigits] at hlength
    cases hlength
  | cons c tail =>
    have hdigit : c ∈ digits (rest + 1) n := hdigits ▸ List.mem_cons_self
    exact List.cons_lt_cons_iff.mpr
      (Or.inl (lt_of_lt_of_le hmark (isDigit_of_mem_digits hdigit).1))

/-- A number of `width + rest` digits against one of which only the first `width` are written, both
followed by a mark that sorts before the digits. -/
theorem digits_mark_lt_iff {width rest n k : ℕ} (hn : n < 10 ^ (width + rest))
    (hk : k < 10 ^ width) {mark : Char} (hmark : mark < '0') (after : List Char) :
    digits (width + rest) n ++ mark :: after < digits width k ++ mark :: after ↔
      n < k * 10 ^ rest := by
  have hpos : 0 < 10 ^ rest := Nat.pow_pos (by decide)
  rw [digits_add, List.append_assoc, ← Nat.div_lt_iff_lt_mul hpos]
  rcases Nat.lt_trichotomy (n / 10 ^ rest) k with hlt | heq | hgt
  · exact iff_of_true (digits_lt hlt hk _ _) hlt
  · rw [heq, append_lt_append_iff]
    refine iff_of_false ?_ (Nat.lt_irrefl k)
    cases rest with
    | zero => exact List.lt_irrefl _
    | succ rest => exact List.lt_asymm (mark_lt_digits hmark rest n _ _)
  · exact iff_of_false (List.lt_asymm (digits_lt hgt (div_lt_of_lt hn) _ _)) (Nat.lt_asymm hgt)

/-- The same comparison the other way: a number that is written in full sorts after one that is
equal to it but is cut. -/
theorem digits_mark_gt_iff {width rest n k : ℕ} (hn : n < 10 ^ (width + rest))
    (hk : k < 10 ^ width) {mark : Char} (hmark : mark < '0') (after : List Char) :
    digits width k ++ mark :: after < digits (width + rest) n ++ mark :: after ↔
      k * 10 ^ rest < n ∨ k * 10 ^ rest = n ∧ 0 < rest := by
  have hpos : 0 < 10 ^ rest := Nat.pow_pos (by decide)
  rw [digits_add, List.append_assoc]
  rcases Nat.lt_trichotomy k (n / 10 ^ rest) with hlt | heq | hgt
  · refine iff_of_true (digits_lt hlt (div_lt_of_lt hn) _ _) (Or.inl ?_)
    exact lt_of_lt_of_le (Nat.mul_lt_mul_of_pos_right (Nat.lt_succ_self k) hpos)
      ((Nat.le_div_iff_mul_le hpos).mp hlt)
  · have hle : k * 10 ^ rest ≤ n := (Nat.le_div_iff_mul_le hpos).mp (Nat.le_of_eq heq)
    rw [← heq, append_lt_append_iff]
    cases rest with
    | zero =>
      rw [Nat.pow_zero, Nat.div_one] at heq
      refine iff_of_false (List.lt_irrefl _) ?_
      rw [Nat.pow_zero]
      omega
    | succ rest =>
      exact iff_of_true (mark_lt_digits hmark rest n _ _) (by omega)
  · have hlt : n < k * 10 ^ rest := (Nat.div_lt_iff_lt_mul hpos).mp hgt
    exact iff_of_false (List.lt_asymm (digits_lt hgt hk _ _)) (by omega)

/-- The characters of a text are digits and those of the separators. -/
theorem mem_render {format : List (ℕ × List Char)} {values : List ℕ} {c : Char}
    (hmem : c ∈ render format values) :
    ('0' ≤ c ∧ c ≤ '9') ∨ ∃ field ∈ format, c ∈ field.2 := by
  induction format generalizing values with
  | nil => cases hmem
  | cons field format ih =>
    cases values with
    | nil => cases hmem
    | cons value values =>
      rcases List.mem_append.mp hmem with hfirst | hlater
      · rcases List.mem_append.mp hfirst with hdigit | hseparator
        · exact Or.inl (isDigit_of_mem_digits hdigit)
        · exact Or.inr ⟨field, List.mem_cons_self, hseparator⟩
      · refine (ih hlater).imp_right ?_
        rintro ⟨other, hother, hc⟩
        exact ⟨other, List.mem_cons_of_mem _ hother, hc⟩

/-- Texts of one format are in the order of their numbers, field by field. -/
theorem render_lt {format : List (ℕ × List Char)} {values values' : List ℕ}
    (hfits : Fits format values) (hfits' : Fits format values') (h : values < values')
    (rest rest' : List Char) : render format values ++ rest < render format values' ++ rest' := by
  induction hfits generalizing values' with
  | nil =>
    cases hfits'
    exact absurd h (List.not_lt_nil _)
  | @cons field value format values hvalue hvalues ih =>
    obtain ⟨width, separator⟩ := field
    cases hfits' with
    | @cons _ value' _ values' hvalue' hvalues' =>
      simp only [render, List.append_assoc]
      rcases List.cons_lt_cons_iff.mp h with hfirst | ⟨rfl, hlater⟩
      · exact digits_lt hfirst hvalue' _ _
      · exact List.append_left_lt (List.append_left_lt (ih hvalues' hlater))

end FixedWidth
