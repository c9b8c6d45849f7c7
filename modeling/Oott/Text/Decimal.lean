import Mathlib.Tactic.Common
import Mathlib.Order.Basic
import Mathlib.Data.Int.Order.Basic

/-!
# Integers in decimal

`write` is an integer as text, with a minus sign and without leading zeros, and `read` what a parser
with a bounded range makes of a text: a sign or none, at least one digit, and an integer within the
range. A text that was written is read back exactly when its integer is within the range
(`read_write`).
-/

set_option autoImplicit false
set_option relaxedAutoImplicit false

namespace Decimal

/-- The decimal digits of a natural number. -/
def writeNat (n : ℕ) : List Char := Nat.toDigits 10 n

/-- An integer as text. -/
def write (n : Int) : List Char := if n < 0 then '-' :: writeNat n.natAbs else writeNat n.natAbs

/-- The number that a text of digits has, at least one of them. -/
def readNat (text : List Char) : Option ℕ :=
  if text ≠ [] ∧ text.all Char.isDigit then some (Nat.ofDigitChars 10 text 0) else none

/-- The integer that a text has, with or without a sign. -/
def readInt : List Char → Option Int
  | '-' :: digits => (readNat digits).map fun n : ℕ ↦ -(n : Int)
  | '+' :: digits => (readNat digits).map Int.ofNat
  | digits => (readNat digits).map Int.ofNat

/-- The integer that a text has, if it is within the range. -/
def read (lower upper : Int) (text : List Char) : Option Int :=
  (readInt text).filter fun n ↦ lower ≤ n ∧ n ≤ upper

theorem readNat_writeNat (n : ℕ) : readNat (writeNat n) = some n := by
  have hdigits : (writeNat n).all Char.isDigit := List.all_eq_true.mpr fun c hc ↦
    Nat.isDigit_of_mem_toDigits (by decide) (by decide) hc
  unfold readNat
  rw [if_pos ⟨Nat.toDigits_ne_nil, hdigits⟩]
  exact congrArg some (Nat.ofDigitChars_toDigits (by decide) (by decide))

/-- The digits of a number have no sign before them. -/
theorem writeNat_cons (n : ℕ) : ∃ c rest, writeNat n = c :: rest ∧ c ≠ '-' ∧ c ≠ '+' := by
  obtain ⟨c, rest, hcons⟩ := List.exists_cons_of_ne_nil (Nat.toDigits_ne_nil (n := n) (b := 10))
  have hdigit : c.isDigit :=
    Nat.isDigit_of_mem_toDigits (b := 10) (n := n) (by decide) (by decide)
      (hcons ▸ List.mem_cons_self)
  refine ⟨c, rest, hcons, ?_, ?_⟩
  · rintro rfl
    exact absurd hdigit (by decide)
  · rintro rfl
    exact absurd hdigit (by decide)

theorem readInt_write (n : Int) : readInt (write n) = some n := by
  unfold write
  by_cases hneg : n < 0
  · have habs : -(n.natAbs : Int) = n := by omega
    rw [if_pos hneg]
    show (readNat (writeNat n.natAbs)).map _ = _
    rw [readNat_writeNat, Option.map_some, habs]
  · have habs : Int.ofNat n.natAbs = n := by
      rw [Int.ofNat_eq_natCast]
      omega
    obtain ⟨c, rest, hcons, hminus, hplus⟩ := writeNat_cons n.natAbs
    have hread : readInt (c :: rest) = (readNat (c :: rest)).map Int.ofNat := by
      unfold readInt
      split
      · next digits heq => exact absurd (List.cons.inj heq).1 hminus
      · next digits heq => exact absurd (List.cons.inj heq).1 hplus
      · rfl
    rw [if_neg hneg, hcons, hread, ← hcons, readNat_writeNat, Option.map_some, habs]

/-- What is written is read back within the range, and not read beyond it. -/
theorem read_write (lower upper n : Int) :
    read lower upper (write n) = if lower ≤ n ∧ n ≤ upper then some n else none := by
  unfold read
  rw [readInt_write]
  by_cases hrange : lower ≤ n ∧ n ≤ upper
  · rw [if_pos hrange, Option.filter_some, if_pos (decide_eq_true hrange)]
  · rw [if_neg hrange, Option.filter_some, if_neg (by rw [decide_eq_true_iff]; exact hrange)]

example : read (-128) 127 (write (-45)) = some (-45) ∧ read (-128) 127 (write 200) = none ∧
    read 0 9 ['-'] = none := by decide

end Decimal
