import Oott.Utils.Text

/-!
# MAC addresses as text

The helpers of `utils/network.rs` that read or write a MAC address as text, and the text form of an
IPv4 address.
-/

set_option autoImplicit false
set_option relaxedAutoImplicit false

namespace Oott

/-- `normalize_mac`: the canonical lowercase form under which rows are stored and looked up. -/
def normalizeMac (mac : String) : String := toAsciiLowercase mac

@[simp] theorem normalizeMac_idem (mac : String) :
    normalizeMac (normalizeMac mac) = normalizeMac mac := toAsciiLowercase_idem mac

theorem nocaseEq_normalizeMac (mac : String) : NocaseEq (normalizeMac mac) mac :=
  nocaseEq_toAsciiLowercase mac

theorem normalizeMac_congr {mac other : String} (hmac : NocaseEq mac other) :
    NocaseEq (normalizeMac mac) (normalizeMac other) :=
  ((nocaseEq_normalizeMac mac).trans hmac).trans (nocaseEq_normalizeMac other).symm

/-- The value of a hexadecimal digit, in either case. -/
def hexDigitValue (c : Char) : Option Nat :=
  if '0' ≤ c ∧ c ≤ '9' then some (c.toNat - '0'.toNat)
  else if 'a' ≤ c ∧ c ≤ 'f' then some (c.toNat - 'a'.toNat + 10)
  else if 'A' ≤ c ∧ c ≤ 'F' then some (c.toNat - 'A'.toNat + 10)
  else none

/-- `u8::from_str_radix(_, 16)`: one optional plus sign, then at least one digit, and no value
above 255. -/
def u8FromHex (text : List Char) : Option Nat :=
  let digits := match text with
    | '+' :: rest => rest
    | other => other
  if digits = [] then none
  else digits.foldlM (fun value c ↦ do
    let digit ← hexDigitValue c
    if value * 16 + digit ≤ 255 then some (value * 16 + digit) else none) 0

/-- `is_locally_administered`: the second-least-significant bit of the first octet is set. Malformed
input is not locally administered. -/
def isLocallyAdministered (mac : String) : Bool :=
  match u8FromHex (mac.toList.takeWhile (· ≠ ':')) with
  | some firstOctet => firstOctet &&& 0x02 != 0
  | none => false

/-- One byte as two lowercase hexadecimal digits. -/
def hexByte (b : UInt8) : List Char :=
  [Nat.digitChar (b.toNat / 16), Nat.digitChar (b.toNat % 16)]

/-- `format_mac`, and the text of a `MacAddr`: the bytes as lowercase hexadecimal, separated by
colons. -/
def formatMac (bytes : List UInt8) : String :=
  String.ofList (List.intercalate [':'] (bytes.map hexByte))

/-- The text of an `Ipv4Addr`: its octets in decimal, separated by dots. -/
def formatIpv4 (octets : List UInt8) : String :=
  String.ofList (List.intercalate ['.'] (octets.map fun b ↦ Nat.toDigits 10 b.toNat))

example : formatMac [0x0a, 0x00, 0xff, 0x10, 0x20, 0x30] = "0a:00:ff:10:20:30" := by decide

example : isLocallyAdministered "f2:00:a9:35:91:fc" = true ∧
    isLocallyAdministered "00:1a:2b:3c:4d:5e" = false ∧
    isLocallyAdministered "zz:00:00:00:00:00" = false := by decide

end Oott
