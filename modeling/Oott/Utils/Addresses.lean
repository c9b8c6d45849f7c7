import Oott.Utils.Packets
import Mathlib.Data.List.Lex
import Mathlib.Order.Lattice
import Mathlib.Order.Monotone.Basic

/-!
# Addresses between text and bytes

`Ipv4Addr` is compared octet by octet, which is the comparison of the addresses as numbers
(`Ipv4Addr.le_iff`). The text of an address is read back as the address (`MacAddr.fromText_toText`,
`Ipv4Addr.fromText_toText`). The text that `format_mac` writes has no capital letters, so it is
normalized already.
-/

set_option autoImplicit false
set_option relaxedAutoImplicit false

namespace Oott

/-! ### MAC addresses -/

theorem toLower_hexByte (b : UInt8) : (hexByte b).map Char.toLower = hexByte b := by
  have hdigit : ∀ n < 16, (Nat.digitChar n).toLower = Nat.digitChar n := by decide
  have hlt := b.toNat_lt
  unfold hexByte
  rw [List.map_cons, List.map_singleton, hdigit _ (by omega), hdigit _ (by omega)]

theorem map_intercalate (f : Char → Char) (separator : List Char) (parts : List (List Char)) :
    (separator.intercalate parts).map f =
      (separator.map f).intercalate (parts.map (List.map f)) := by
  induction parts with
  | nil => rfl
  | cons first rest ih =>
    cases rest with
    | nil => simp only [List.map_cons, List.map_nil, List.intercalate_singleton]
    | cons second rest =>
      rw [List.map_cons, List.map_cons, List.intercalate_cons_cons, List.intercalate_cons_cons,
        List.map_append, List.map_append, ih, List.map_cons]

theorem normalizeMac_formatMac (bytes : List UInt8) :
    normalizeMac (formatMac bytes) = formatMac bytes := by
  have hbytes : (bytes.map hexByte).map (List.map Char.toLower) = bytes.map hexByte := by
    rw [List.map_map]
    exact List.map_congr_left fun b _ ↦ toLower_hexByte b
  unfold normalizeMac toAsciiLowercase formatMac
  rw [String.toList_ofList, map_intercalate, hbytes]
  rfl

/-- Texts that `format_mac` writes are equal up to letter case only if they are equal. -/
theorem nocaseEq_formatMac_iff {first second : List UInt8} :
    NocaseEq (formatMac first) (formatMac second) ↔ formatMac first = formatMac second := by
  have hfirst := normalizeMac_formatMac first
  have hsecond := normalizeMac_formatMac second
  unfold normalizeMac at hfirst hsecond
  unfold NocaseEq
  rw [hfirst, hsecond]

theorem MacAddr.exists_octets (address : MacAddr) :
    ∃ a b c d e f, address = ⟨[a, b, c, d, e, f], rfl⟩ := by
  obtain ⟨octets, hsize⟩ := address
  match octets, hsize with
  | [a, b, c, d, e, f], _ => exact ⟨a, b, c, d, e, f, rfl⟩

/-- `MacAddr::from_str`: six octets in hexadecimal between colons. -/
def MacAddr.fromText (text : String) : Option MacAddr := do
  let octets ← (text.toList.splitOn ':').mapM u8FromHex
  if h : octets.length = 6 then some ⟨octets.map UInt8.ofNat, by rw [List.length_map, h]⟩ else none

theorem u8FromHex_hexByte (b : UInt8) :
    ':' ∉ hexByte b ∧ u8FromHex (hexByte b) = some b.toNat := by
  have hall : ∀ high < 16, ∀ low < 16, ':' ∉ [Nat.digitChar high, Nat.digitChar low] ∧
      u8FromHex [Nat.digitChar high, Nat.digitChar low] = some (16 * high + low) := by
    decide +kernel
  have hlt := b.toNat_lt
  obtain ⟨hcolon, hoctet⟩ := hall (b.toNat / 16) (by omega) (b.toNat % 16) (by omega)
  rw [Nat.div_add_mod] at hoctet
  exact ⟨hcolon, hoctet⟩

/-- The text of a MAC is read as the MAC. -/
theorem MacAddr.fromText_toText (mac : MacAddr) : fromText mac.toText = some mac := by
  have hsplit : mac.toText.toList.splitOn ':' = mac.octets.map hexByte := by
    unfold toText formatMac
    rw [String.toList_ofList]
    refine List.splitOn_intercalate ':' (fun digits hdigits ↦ ?_) fun hnil ↦ ?_
    · obtain ⟨b, -, rfl⟩ := List.mem_map.mp hdigits
      exact (u8FromHex_hexByte b).1
    · have hsize := mac.size
      rw [List.map_eq_nil_iff.mp hnil] at hsize
      cases hsize
  have hoctets : ∀ octets : List UInt8,
      (octets.map hexByte).mapM u8FromHex = some (octets.map UInt8.toNat) := by
    intro octets
    induction octets with
    | nil => rfl
    | cons b rest ih =>
      rw [List.map_cons, List.mapM_cons, (u8FromHex_hexByte b).2, ih]
      rfl
  have hback : (mac.octets.map UInt8.toNat).map UInt8.ofNat = mac.octets := by
    rw [List.map_map]
    exact List.map_id'' (fun b ↦ UInt8.ofNat_toNat) _
  unfold fromText
  rw [hsplit, hoctets, Option.bind_eq_bind, Option.bind_some,
    dif_pos (by rw [List.length_map, mac.size]), Option.some.injEq]
  exact MacAddr.ext hback

theorem MacAddr.toText_injective : Function.Injective MacAddr.toText := fun first second htext ↦ by
  have hread := congrArg fromText htext
  rwa [fromText_toText, fromText_toText, Option.some.injEq] at hread

/-! ### IPv4 addresses -/

namespace Ipv4Addr

/-- `Ord` of `Ipv4Addr`, octet by octet. -/
instance : LinearOrder Ipv4Addr :=
  LinearOrder.lift' (fun address ↦ address.octets.map UInt8.toNat) fun _ _ hoctets ↦
    Ipv4Addr.ext ((List.map_injective_iff.mpr fun _ _ ↦ UInt8.toNat_inj.mp) hoctets)

/-- The address as a number. -/
def value (address : Ipv4Addr) : ℕ :=
  address.octets.foldl (fun value octet ↦ 256 * value + octet.toNat) 0

theorem exists_octets (address : Ipv4Addr) : ∃ a b c d, address = ⟨[a, b, c, d], rfl⟩ := by
  obtain ⟨octets, hsize⟩ := address
  match octets, hsize with
  | [a, b, c, d], _ => exact ⟨a, b, c, d, rfl⟩

theorem value_strictMono : StrictMono value := by
  intro first second hlt
  obtain ⟨a, b, c, d, rfl⟩ := exists_octets first
  obtain ⟨a', b', c', d', rfl⟩ := exists_octets second
  have ha := a.toNat_lt
  have hb := b.toNat_lt
  have hc := c.toNat_lt
  have hd := d.toNat_lt
  have hlex : [a.toNat, b.toNat, c.toNat, d.toNat] < [a'.toNat, b'.toNat, c'.toNat, d'.toNat] := hlt
  simp only [List.cons_lt_cons_iff, List.not_lt_nil, and_false, or_false] at hlex
  simp only [value, List.foldl_cons, List.foldl_nil]
  omega

/-- The order of the addresses is the order of their numbers. -/
theorem le_iff (first second : Ipv4Addr) : first ≤ second ↔ first.value ≤ second.value :=
  value_strictMono.le_iff_le.symm

/-- An octet of the text: one to three decimal digits without a leading zero, up to 255. -/
def octetFromText (digits : List Char) : Option UInt8 :=
  if digits ≠ [] ∧ digits.length ≤ 3 ∧ digits.all Char.isDigit ∧
      (digits.head? = some '0' → digits.length = 1) then
    let value := digits.foldl (fun value c ↦ 10 * value + (c.toNat - '0'.toNat)) 0
    if value ≤ 255 then some (.ofNat value) else none
  else none

/-- `Ipv4Addr::from_str`: four octets between dots. -/
def fromText (text : String) : Option Ipv4Addr := do
  let octets ← (text.toList.splitOn '.').mapM octetFromText
  if h : octets.length = 4 then some ⟨octets, h⟩ else none

theorem octetFromText_toDigits (b : UInt8) :
    '.' ∉ Nat.toDigits 10 b.toNat ∧ octetFromText (Nat.toDigits 10 b.toNat) = some b := by
  have hall : ∀ high < 16, ∀ low < 16, '.' ∉ Nat.toDigits 10 (16 * high + low) ∧
      octetFromText (Nat.toDigits 10 (16 * high + low)) = some (.ofNat (16 * high + low)) := by
    decide +kernel
  have hlt := b.toNat_lt
  obtain ⟨hdot, hoctet⟩ := hall (b.toNat / 16) (by omega) (b.toNat % 16) (by omega)
  rw [Nat.div_add_mod] at hdot hoctet
  rw [UInt8.ofNat_toNat] at hoctet
  exact ⟨hdot, hoctet⟩

/-- The text of an address is read as the address. -/
theorem fromText_toText (address : Ipv4Addr) : fromText address.toText = some address := by
  have hsplit : address.toText.toList.splitOn '.' =
      address.octets.map fun b ↦ Nat.toDigits 10 b.toNat := by
    unfold toText formatIpv4
    rw [String.toList_ofList]
    refine List.splitOn_intercalate '.' (fun digits hdigits ↦ ?_) fun hnil ↦ ?_
    · obtain ⟨b, -, rfl⟩ := List.mem_map.mp hdigits
      exact (octetFromText_toDigits b).1
    · have hsize := address.size
      rw [List.map_eq_nil_iff.mp hnil] at hsize
      cases hsize
  have hoctets : ∀ octets : List UInt8,
      (octets.map fun b ↦ Nat.toDigits 10 b.toNat).mapM octetFromText = some octets := by
    intro octets
    induction octets with
    | nil => rfl
    | cons b rest ih =>
      rw [List.map_cons, List.mapM_cons, (octetFromText_toDigits b).2, ih]
      rfl
  unfold fromText
  rw [hsplit, hoctets, Option.bind_eq_bind, Option.bind_some, dif_pos address.size]

/-- The text of an address is not empty. -/
theorem toText_ne_empty (address : Ipv4Addr) : address.toText ≠ "" := by
  intro hempty
  have hread := fromText_toText address
  rw [hempty] at hread
  cases hread

end Ipv4Addr

end Oott
