import Mathlib.Data.List.Basic
import Mathlib.Tactic.Common

/-!
# Areas of options

An area of options as in BOOTP: each option is a code, a length and as many bytes as the length
says, except that one code is a padding byte of its own and one ends the area. Every sequence of
bytes is a list of padding and whole options, followed by a tail that no option begins
(`exists_area`): the end and whatever follows it, nothing, or an option whose length is missing or
reaches beyond the bytes. What a decoder makes of such an area says so of every sequence of bytes.
-/

set_option autoImplicit false
set_option relaxedAutoImplicit false

namespace Options

/-- The two codes that no option has. -/
structure Format where
  pad : UInt8
  stop : UInt8

/-- An option: the length of its payload fits a byte. -/
structure Entry (format : Format) where
  code : UInt8
  payload : List UInt8
  code_ne_pad : code ≠ format.pad
  code_ne_stop : code ≠ format.stop
  length_le : payload.length ≤ 255

/-- Padding, or an option. -/
inductive Item (format : Format)
  | pad
  | whole (entry : Entry format)

variable {format : Format}

/-- The bytes of an option. -/
def Entry.bytes (entry : Entry format) : List UInt8 :=
  entry.code :: .ofNat entry.payload.length :: entry.payload

/-- The bytes of an item. -/
def Item.bytes : Item format → List UInt8
  | pad => [format.pad]
  | whole entry => entry.bytes

/-- The bytes of some items. -/
def encode (items : List (Item format)) : List UInt8 := items.flatMap Item.bytes

/-- The option of an item that is none of padding. -/
def Item.asEntry : Item format → Option (Entry format)
  | pad => none
  | whole entry => some entry

/-- The options among some items, in order. -/
def entries (items : List (Item format)) : List (Entry format) := items.filterMap Item.asEntry

/-- Bytes that no item begins. -/
inductive Tail (format : Format) : List UInt8 → Prop
  | stop (rest : List UInt8) : Tail format (format.stop :: rest)
  | nothing : Tail format []
  | noLength {code : UInt8} (hpad : code ≠ format.pad) (hstop : code ≠ format.stop) :
      Tail format [code]
  | overrun {code length : UInt8} {payload : List UInt8} (hpad : code ≠ format.pad)
      (hstop : code ≠ format.stop) (hlength : payload.length < length.toNat) :
      Tail format (code :: length :: payload)

theorem encode_pad (items : List (Item format)) :
    encode (.pad :: items) = format.pad :: encode items := rfl

theorem encode_whole (entry : Entry format) (items : List (Item format)) :
    encode (.whole entry :: items) =
      entry.code :: .ofNat entry.payload.length :: (entry.payload ++ encode items) := rfl

theorem Entry.toNat_length (entry : Entry format) :
    (UInt8.ofNat entry.payload.length).toNat = entry.payload.length := by
  have hle := entry.length_le
  rw [UInt8.toNat_ofNat']
  omega

/-- The last value that the options among some items have. -/
def lastValue {β : Type} (value : Entry format → Option β) (items : List (Item format)) :
    Option β := ((entries items).filterMap value).getLast?

/-- A fold that keeps the value of an option that has one ends with the last value. -/
theorem foldl_eq_lastValue {σ β : Type} {read : σ → Entry format → σ} {field : σ → Option β}
    {value : Entry format → Option β}
    (hread : ∀ state entry, field (read state entry) = (value entry).or (field state))
    (items : List (Item format)) (state : σ) :
    field ((entries items).foldl read state) = (lastValue value items).or (field state) := by
  unfold lastValue
  induction entries items generalizing state with
  | nil => rfl
  | cons entry rest ih =>
    rw [List.foldl_cons, ih, hread, List.filterMap_cons]
    cases hvalue : value entry with
    | none => rfl
    | some result =>
      rw [List.getLast?_cons, Option.some_or]
      cases (rest.filterMap value).getLast? <;> rfl

/-- Every sequence of bytes is some items and a tail. -/
theorem exists_area (format : Format) (bytes : List UInt8) :
    ∃ (items : List (Item format)) (tail : List UInt8),
      Tail format tail ∧ bytes = encode items ++ tail := by
  induction hsize : bytes.length using Nat.strongRecOn generalizing bytes with
  | ind size ih =>
    match bytes, hsize with
    | [], _ => exact ⟨[], [], .nothing, rfl⟩
    | code :: rest, hsize =>
      by_cases hstop : code = format.stop
      · exact ⟨[], code :: rest, hstop ▸ .stop rest, rfl⟩
      by_cases hpad : code = format.pad
      · obtain ⟨items, tail, htail, hrest⟩ := ih rest.length (by simp [← hsize]) rest rfl
        refine ⟨.pad :: items, tail, htail, ?_⟩
        rw [encode_pad, hpad, hrest]
        rfl
      match rest, hsize with
      | [], _ => exact ⟨[], [code], .noLength hpad hstop, rfl⟩
      | length :: payload, hsize =>
        by_cases hlength : payload.length < length.toNat
        · exact ⟨[], _, .overrun hpad hstop hlength, rfl⟩
        · -- The option is whole: the rest of the area is shorter.
          have htake : (payload.take length.toNat).length = length.toNat :=
            List.length_take_of_le (Nat.le_of_not_lt hlength)
          obtain ⟨items, tail, htail, hrest⟩ := ih (payload.drop length.toNat).length
            (by simp only [List.length_cons, List.length_drop] at hsize ⊢; omega)
            (payload.drop length.toNat) rfl
          have hle : (payload.take length.toNat).length ≤ 255 := by
            have hbyte := length.toNat_lt
            omega
          refine ⟨.whole ⟨code, payload.take length.toNat, hpad, hstop, hle⟩ :: items, tail,
            htail, ?_⟩
          rw [encode_whole]
          dsimp only
          rw [htake, UInt8.ofNat_toNat, List.cons_append, List.cons_append, List.append_assoc,
            ← hrest, List.take_append_drop]

end Options
