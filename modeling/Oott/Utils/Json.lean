import Mathlib.Tactic.Common

/-!
# JSON values

The values that a request body or a reply can hold once it is parsed, and what the relay, the
backend and their libraries read of them. The length of a text in JavaScript is that of its UTF-16
form.
-/

set_option autoImplicit false
set_option relaxedAutoImplicit false

namespace Oott

/-- A JSON value. -/
inductive Json
  | null
  | bool (value : Bool)
  | number (value : Rat)
  | string (text : String)
  | array (items : List Json)
  | object (members : List (String × Json))

/-- The member of an object with the given name, the last one where a name comes twice. -/
def Json.member (name : String) : Json → Option Json
  | .object members => (members.reverse.find? fun member ↦ member.1 = name).map Prod.snd
  | _ => none

/-- The text of a string. -/
def Json.text : Json → Option String
  | .string text => some text
  | _ => none

/-- The items of an array. -/
def Json.items : Json → Option (List Json)
  | .array items => some items
  | _ => none

/-- `length` of a JavaScript string: its UTF-16 units, one for each character and a second one for
those beyond the first plane. -/
def utf16Length (text : String) : ℕ :=
  text.toList.length + text.toList.countP fun c ↦ 0xFFFF < c.toNat

/-- The length of a text that is given by its characters, as a literal is. -/
theorem utf16Length_ofList {chars : List Char} {length : ℕ}
    (h : chars.length + (chars.countP fun c ↦ 0xFFFF < c.toNat) = length) :
    utf16Length (String.ofList chars) = length := by
  unfold utf16Length
  rw [String.toList_ofList, h]

@[simp] theorem utf16Length_append (first second : String) :
    utf16Length (first ++ second) = utf16Length first + utf16Length second := by
  unfold utf16Length
  rw [String.toList_append, List.length_append, List.countP_append]
  omega

@[simp] theorem utf16Length_eq_zero_iff {text : String} : utf16Length text = 0 ↔ text = "" := by
  unfold utf16Length
  constructor
  · intro hzero
    exact String.toList_eq_nil_iff.mp (List.length_eq_zero_iff.mp (Nat.add_eq_zero_iff.mp hzero).1)
  · rintro rfl
    rfl

end Oott
