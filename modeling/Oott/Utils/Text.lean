import Mathlib.Tactic.Common

/-!
# Text as the standard library and SQLite compare it

`str::to_ascii_lowercase`, on which `normalize_mac` rests, maps the 26 capital letters of ASCII to
small ones and leaves every other character alone. The `NOCASE` collation of SQLite folds the same
26 letters before it compares, so two texts are equal under `NOCASE` exactly when their ASCII
lowercase forms are equal (`NocaseEq`). Texts are taken without the character U+0000, which SQLite
reads as a terminator.
-/

set_option autoImplicit false
set_option relaxedAutoImplicit false

namespace Oott

/-- `str::to_ascii_lowercase`. -/
def toAsciiLowercase (text : String) : String := String.ofList (text.toList.map Char.toLower)

/-- Equality under SQLite's `NOCASE` collation. -/
def NocaseEq (first second : String) : Prop := toAsciiLowercase first = toAsciiLowercase second

instance (first second : String) : Decidable (NocaseEq first second) :=
  inferInstanceAs (Decidable (_ = _))

theorem toNat_toLower (c : Char) :
    c.toLower.toNat = if 65 ≤ c.toNat ∧ c.toNat ≤ 90 then c.toNat + 32 else c.toNat := by
  unfold Char.toLower
  simp only [ge_iff_le, UInt32.le_iff_toNat_le, seval, Char.toNat_val]
  split
  next hupper =>
    rw [Char.toNat, UInt32.toNat_add, Char.toNat_val]
    exact Nat.mod_eq_of_lt (by simp only [seval]; omega)
  next => rfl

theorem toNat_toUpper (c : Char) :
    c.toUpper.toNat = if 97 ≤ c.toNat ∧ c.toNat ≤ 122 then c.toNat - 32 else c.toNat := by
  unfold Char.toUpper
  simp only [UInt32.le_iff_toNat_le, seval, Char.toNat_val]
  split
  next hlower =>
    rw [Char.toNat, UInt32.toNat_add, Char.toNat_val]
    simp only [seval]
    omega
  next => rfl

/-- Two characters have one capital letter when they have one small letter. -/
theorem toUpper_eq_iff (c d : Char) : c.toUpper = d.toUpper ↔ c.toLower = d.toLower := by
  rw [← Char.toNat_inj, ← Char.toNat_inj, toNat_toUpper, toNat_toUpper, toNat_toLower,
    toNat_toLower]
  split_ifs <;> omega

theorem toLower_or_toUpper (c : Char) : c = c.toLower ∨ c = c.toLower.toUpper := by
  rw [← Char.toNat_inj, ← Char.toNat_inj, toNat_toUpper, toNat_toLower]
  split_ifs <;> omega

theorem toLower_toLower (c : Char) : c.toLower.toLower = c.toLower := by
  rw [← Char.toNat_inj, toNat_toLower, toNat_toLower]
  split_ifs <;> omega

/-- No other character is folded to one before the small letters. -/
theorem eq_of_toLower_eq {c d : Char} (hd : d.val < 'a'.val) (heq : c.toLower = d) : c = d := by
  simp only [UInt32.lt_iff_toNat_lt, Char.toNat_val, seval] at hd
  rw [← Char.toNat_inj, toNat_toLower] at heq
  rw [← Char.toNat_inj]
  split_ifs at heq <;> omega

theorem toAsciiLowercase_idem (text : String) :
    toAsciiLowercase (toAsciiLowercase text) = toAsciiLowercase text := by
  unfold toAsciiLowercase
  rw [String.toList_ofList, List.map_map]
  congr 1
  exact List.map_congr_left fun c _ ↦ toLower_toLower c

theorem NocaseEq.refl (text : String) : NocaseEq text text := rfl

theorem NocaseEq.symm {first second : String} (h : NocaseEq first second) :
    NocaseEq second first := Eq.symm h

theorem NocaseEq.trans {first second third : String} (h : NocaseEq first second)
    (h' : NocaseEq second third) : NocaseEq first third := Eq.trans h h'

/-- A text and its lowercase form are equal under `NOCASE`. -/
theorem nocaseEq_toAsciiLowercase (text : String) : NocaseEq (toAsciiLowercase text) text :=
  toAsciiLowercase_idem text

end Oott
