import Oott.Scanners.Enrichment
import Oott.Utils.Addresses
import Mathlib.Data.List.Nodup

/-!
# The registered blocks and the vendor of a MAC

The export of the vendor database mixes blocks of three sizes, with prefixes of eight, ten and
thirteen characters. `build_device` looks up the first eight characters of the MAC, so that a block
within an organisation's block is never found (`nested_block_ignored`). What it does assign, for
every database and every MAC in colon notation, is `vendor_of_oui`: the owner of the block of the
MAC's OUI, which is that of the most specific block when no longer prefix is one of the MAC, and the
vendor of the service hints only when that owner is empty.
-/

set_option autoImplicit false
set_option relaxedAutoImplicit false

namespace Oott

namespace VendorBlocks

/-! ### The lookup -/

theorem mem_of_lookup {database : TextMap} {key value : String}
    (hlookup : database.lookup key = some value) : (key, value) ∈ database := by
  obtain ⟨front, back, rfl, -⟩ := List.lookup_eq_some_iff.mp hlookup
  exact List.mem_append_right front List.mem_cons_self

theorem notMem_of_lookup {database : TextMap} {key : String} (hlookup : database.lookup key = none)
    (value : String) : (key, value) ∉ database := by
  intro hmem
  simpa using List.lookup_eq_none_iff.mp hlookup _ hmem

/-- The prefixes of the records are distinct, ignoring case. -/
def DistinctPrefixes (records : List MacRecord) : Prop :=
  (records.map fun record ↦ toAsciiLowercase record.macPrefix).Nodup

instance (records : List MacRecord) : Decidable (DistinctPrefixes records) :=
  inferInstanceAs (Decidable (List.Nodup _))

theorem toUppercase_eq_iff (first second : String) :
    toUppercase first = toUppercase second ↔ NocaseEq first second := by
  simp only [toUppercase, NocaseEq, toAsciiLowercase, String.ofList_inj]
  generalize first.toList = front
  generalize second.toList = back
  induction front generalizing back with
  | nil => cases back <;> simp
  | cons c rest ih =>
    cases back with
    | nil => simp
    | cons d others => simp only [List.map_cons, List.cons.injEq, toUpper_eq_iff, ih others]

theorem mem_macVendorsDatabase (records : List MacRecord) (key vendor : String) :
    (key, vendor) ∈ macVendorsDatabase records ↔
      ∃ record ∈ records, toUppercase record.macPrefix = key ∧ record.vendorName = vendor := by
  have hdatabase : macVendorsDatabase records =
      (records.map fun el ↦ (toUppercase el.macPrefix, el.vendorName)).reverse := by
    simp [macVendorsDatabase]
  simp [hdatabase]

theorem eq_of_nocaseEq {records : List MacRecord} (hdistinct : DistinctPrefixes records)
    {record other : MacRecord} (hrecord : record ∈ records) (hother : other ∈ records)
    (hstarts : NocaseEq record.macPrefix other.macPrefix) : record = other :=
  List.inj_on_of_nodup_map hdistinct hrecord hother hstarts

/-- The lookup of a text: the vendor of the record with that prefix. -/
theorem findMacVendor_of_mem {records : List MacRecord} (hdistinct : DistinctPrefixes records)
    {record : MacRecord} (hrecord : record ∈ records) {text : String}
    (hstarts : NocaseEq record.macPrefix text) :
    findMacVendor (macVendorsDatabase records) text = record.vendorName := by
  have hmem : (toUppercase text, record.vendorName) ∈ macVendorsDatabase records :=
    (mem_macVendorsDatabase ..).mpr ⟨record, hrecord, (toUppercase_eq_iff ..).mpr hstarts, rfl⟩
  rw [findMacVendor]
  cases hlookup : (macVendorsDatabase records).lookup (toUppercase text) with
  | none => exact absurd hmem (notMem_of_lookup hlookup _)
  | some vendor =>
    -- What is found is a record too, and the prefixes are distinct.
    obtain ⟨other, hother, hkey, rfl⟩ := (mem_macVendorsDatabase ..).mp (mem_of_lookup hlookup)
    have hsame : NocaseEq other.macPrefix record.macPrefix :=
      ((toUppercase_eq_iff ..).mp hkey).trans hstarts.symm
    rw [eq_of_nocaseEq hdistinct hother hrecord hsame]
    rfl

theorem findMacVendor_of_forall_not {records : List MacRecord} {text : String}
    (hstarts : ∀ record ∈ records, ¬ NocaseEq record.macPrefix text) :
    findMacVendor (macVendorsDatabase records) text = "" := by
  have hlookup : (macVendorsDatabase records).lookup (toUppercase text) = none := by
    refine Option.eq_none_iff_forall_ne_some.mpr fun vendor hfound ↦ ?_
    obtain ⟨record, hrecord, hkey, -⟩ := (mem_macVendorsDatabase ..).mp (mem_of_lookup hfound)
    exact hstarts record hrecord ((toUppercase_eq_iff ..).mp hkey)
  rw [findMacVendor, hlookup, Option.getD_none]

/-! ### Service hints -/

/-- A service hint has the signature of a vendor. -/
def Signature (services : List (String × String)) (hint vendor : String) : Prop :=
  ∃ entry ∈ services, normalizeService entry.1 = normalizeService hint ∧ entry.2 = vendor

/-- The vendor of the first hint with a known signature, empty when there is none. -/
def FirstSignature (services : List (String × String)) (hints : List String) (vendor : String) :
    Prop :=
  (∃ front hint back, hints = front ++ hint :: back ∧
      (∀ other ∈ front, ∀ unknown, ¬ Signature services other unknown) ∧
      Signature services hint vendor) ∨
    (∀ hint ∈ hints, ∀ unknown, ¬ Signature services hint unknown) ∧ vendor = ""

theorem mem_serviceVendorDatabase (services : List (String × String)) (key vendor : String) :
    (key, vendor) ∈ serviceVendorDatabase services ↔
      ∃ entry ∈ services, normalizeService entry.1 = key ∧ entry.2 = vendor := by
  simp [serviceVendorDatabase]

theorem signature_of_lookup {services : List (String × String)} {hint vendor : String}
    (hlookup : (serviceVendorDatabase services).lookup (normalizeService hint) = some vendor) :
    Signature services hint vendor :=
  (mem_serviceVendorDatabase ..).mp (mem_of_lookup hlookup)

theorem not_signature_of_lookup {services : List (String × String)} {hint : String}
    (hlookup : (serviceVendorDatabase services).lookup (normalizeService hint) = none)
    (vendor : String) : ¬ Signature services hint vendor := fun hsignature ↦
  notMem_of_lookup hlookup vendor ((mem_serviceVendorDatabase ..).mpr hsignature)

theorem firstSignature_findServiceVendor (services : List (String × String))
    (hints : List String) :
    FirstSignature services hints
      (findServiceVendor (serviceVendorDatabase services) hints) := by
  rw [findServiceVendor]
  cases hfound : hints.findSome? fun hint ↦
      (serviceVendorDatabase services).lookup (normalizeService hint) with
  | none =>
    have hnone := List.findSome?_eq_none_iff.mp hfound
    exact .inr ⟨fun hint hhint ↦ not_signature_of_lookup (hnone hint hhint), rfl⟩
  | some vendor =>
    obtain ⟨front, hint, back, rfl, hlookup, hfront⟩ := List.findSome?_eq_some_iff.mp hfound
    exact .inl ⟨front, hint, back, rfl,
      fun other hother ↦ not_signature_of_lookup (hfront other hother), signature_of_lookup hlookup⟩

/-! ### The text of a MAC -/

/-- The digits of a MAC in any letter case. -/
theorem hexDigit_of_toLower {c : Char} {n : ℕ} (hn : n < 16) (hc : c.toLower = Nat.digitChar n) :
    hexDigitValue c = some n ∧ c ≠ '+' ∧ c ≠ ':' ∧ c.utf8Size = 1 := by
  have hsmall : ∀ n < 16, hexDigitValue (Nat.digitChar n) = some n ∧ Nat.digitChar n ≠ '+' ∧
      Nat.digitChar n ≠ ':' ∧ (Nat.digitChar n).utf8Size = 1 := by decide
  have hcapital : ∀ n < 16, hexDigitValue (Nat.digitChar n).toUpper = some n ∧
      (Nat.digitChar n).toUpper ≠ '+' ∧ (Nat.digitChar n).toUpper ≠ ':' ∧
      (Nat.digitChar n).toUpper.utf8Size = 1 := by decide
  rcases toLower_or_toUpper c with heq | heq
  · rw [heq, hc]
    exact hsmall n hn
  · rw [heq, hc]
    exact hcapital n hn

theorem u8FromHex_pair {high low : Char} {first second : ℕ} (hplus : high ≠ '+')
    (hhigh : hexDigitValue high = some first) (hlow : hexDigitValue low = some second)
    (hvalue : first * 16 + second ≤ 255) :
    u8FromHex [high, low] = some (first * 16 + second) := by
  have hfirst : first ≤ 255 := by omega
  simp [u8FromHex, hplus, hhigh, hlow, hfirst, hvalue]

theorem bytePrefix_append {front : List Char} (hfront : ∀ c ∈ front, c.utf8Size = 1)
    (rest : List Char) : bytePrefix front.length (front ++ rest) = some front := by
  induction front with
  | nil => rw [List.length_nil, bytePrefix]
  | cons c others ih =>
    obtain ⟨hc, hothers⟩ := List.forall_mem_cons.mp hfront
    rw [List.length_cons, List.cons_append, bytePrefix, if_pos (by omega), hc,
      Nat.add_sub_cancel, ih hothers]
    rfl

/-- The second-least-significant bit of the first octet is set. -/
def IsLocal (address : MacAddr) : Prop := (address.octets.headD 0).toNat &&& 0x02 ≠ 0

instance (address : MacAddr) : Decidable (IsLocal address) :=
  inferInstanceAs (Decidable (_ ≠ _))

theorem digitChar_of_mem_hexByte {b : UInt8} {d : Char} (hd : d ∈ hexByte b) :
    ∃ n < 16, d = Nat.digitChar n := by
  have hlt := b.toNat_lt
  rcases List.mem_pair.mp hd with rfl | rfl
  · exact ⟨b.toNat / 16, by omega, rfl⟩
  · exact ⟨b.toNat % 16, by omega, rfl⟩

theorem mem_intercalate {separator d : Char} {parts : List (List Char)}
    (hd : d ∈ [separator].intercalate parts) : d = separator ∨ ∃ part ∈ parts, d ∈ part := by
  induction parts with
  | nil => cases hd
  | cons first rest ih =>
    cases rest with
    | nil => exact .inr ⟨first, List.mem_cons_self, by simpa using hd⟩
    | cons second others =>
      rw [List.intercalate_cons_cons] at hd
      simp only [List.mem_append, List.mem_singleton] at hd
      rcases hd with (hfirst | hseparator) | hrest
      · exact .inr ⟨first, List.mem_cons_self, hfirst⟩
      · exact .inl hseparator
      · rcases ih hrest with hseparator | ⟨part, hpart, hmem⟩
        · exact .inl hseparator
        · exact .inr ⟨part, .tail _ hpart, hmem⟩

section Mac

variable {mac : String} {address : MacAddr} (hmac : NocaseEq mac address.toText)

include hmac

theorem map_toLower_of_mac :
    mac.toList.map Char.toLower = [':'].intercalate (address.octets.map hexByte) := by
  have htext : toAsciiLowercase mac = formatMac address.octets :=
    Eq.trans hmac (normalizeMac_formatMac address.octets)
  exact String.ofList_injective htext

theorem utf8Size_of_mem_mac {c : Char} (hc : c ∈ mac.toList) : c.utf8Size = 1 := by
  have hlower : c.toLower ∈ [':'].intercalate (address.octets.map hexByte) := by
    rw [← map_toLower_of_mac hmac]
    exact List.mem_map_of_mem hc
  rcases mem_intercalate hlower with hcolon | ⟨part, hpart, hdigit⟩
  · rw [eq_of_toLower_eq (by decide) hcolon]
    rfl
  · obtain ⟨b, -, rfl⟩ := List.mem_map.mp hpart
    obtain ⟨n, hn, hc⟩ := digitChar_of_mem_hexByte hdigit
    exact (hexDigit_of_toLower hn hc).2.2.2

theorem length_mac : mac.toList.length = 17 := by
  obtain ⟨a, b, c, d, e, f, rfl⟩ := address.exists_octets
  have hlength := congrArg List.length (map_toLower_of_mac hmac)
  rwa [List.length_map] at hlength

/-- `mac.get(0..8)` is the first eight characters. -/
theorem vendorPrefix_of_mac : vendorPrefix mac = String.ofList (mac.toList.take 8) := by
  have hlength : (mac.toList.take 8).length = 8 := by
    rw [List.length_take, length_mac hmac]
    rfl
  have hascii : ∀ c ∈ mac.toList.take 8, c.utf8Size = 1 := fun c hc ↦
    utf8Size_of_mem_mac hmac (List.mem_of_mem_take hc)
  have hbytes := bytePrefix_append hascii (mac.toList.drop 8)
  rw [hlength, List.take_append_drop] at hbytes
  rw [vendorPrefix, hbytes, Option.getD_some]

theorem exists_firstOctet :
    ∃ high low rest, mac.toList = high :: low :: ':' :: rest ∧
      high.toLower = Nat.digitChar ((address.octets.headD 0).toNat / 16) ∧
      low.toLower = Nat.digitChar ((address.octets.headD 0).toNat % 16) := by
  obtain ⟨a, b, c, d, e, f, rfl⟩ := address.exists_octets
  have hcons : mac.toList.map Char.toLower = Nat.digitChar (a.toNat / 16) ::
      Nat.digitChar (a.toNat % 16) :: ':' :: [':'].intercalate ([b, c, d, e, f].map hexByte) :=
    map_toLower_of_mac hmac
  obtain ⟨high, _, htext, hhigh, hcons⟩ := List.map_eq_cons_iff.mp hcons
  obtain ⟨low, _, rfl, hlow, hcons⟩ := List.map_eq_cons_iff.mp hcons
  obtain ⟨colon, rest, rfl, hcolon, -⟩ := List.map_eq_cons_iff.mp hcons
  rw [eq_of_toLower_eq (by decide) hcolon] at htext
  exact ⟨high, low, rest, htext, hhigh, hlow⟩

/-- The flag that the text of a MAC gives is the bit of its first octet. -/
theorem isLocallyAdministered_of_mac : isLocallyAdministered mac = decide (IsLocal address) := by
  obtain ⟨high, low, rest, htext, hhigh, hlow⟩ := exists_firstOctet hmac
  have hlt := (address.octets.headD 0).toNat_lt
  obtain ⟨hhighValue, hplus, hhighColon, -⟩ := hexDigit_of_toLower (by omega) hhigh
  obtain ⟨hlowValue, -, hlowColon, -⟩ := hexDigit_of_toLower (by omega) hlow
  have hoctet : mac.toList.takeWhile (· ≠ ':') = [high, low] := by
    simp [htext, hhighColon, hlowColon]
  have hvalue : u8FromHex [high, low] = some (address.octets.headD 0).toNat := by
    rw [u8FromHex_pair hplus hhighValue hlowValue (by omega), Nat.div_add_mod']
  rw [isLocallyAdministered, hoctet, hvalue, Bool.eq_iff_iff, decide_eq_true_iff]
  exact bne_iff_ne

end Mac

/-! ### Blocks -/

/-- The block of a record contains a MAC: its prefix is one of the MAC, ignoring case. -/
def Covers (record : MacRecord) (mac : String) : Prop :=
  (toAsciiLowercase record.macPrefix).toList <+: (toAsciiLowercase mac).toList

instance (record : MacRecord) (mac : String) : Decidable (Covers record mac) :=
  inferInstanceAs (Decidable (_ <+: _))

/-- The record of the smallest registered block that contains a MAC. -/
structure MostSpecific (records : List MacRecord) (mac : String) (record : MacRecord) : Prop where
  mem : record ∈ records
  covers : Covers record mac
  longest : ∀ other ∈ records, Covers other mac →
    other.macPrefix.toList.length ≤ record.macPrefix.toList.length

/-- The OUI in a MAC: its first eight characters. -/
def oui (mac : String) : String := String.ofList (mac.toList.take 8)

/-- The owner of the block of the OUI, empty when that is not registered. -/
def OuiOwner (records : List MacRecord) (mac owner : String) : Prop :=
  (∃ record ∈ records, NocaseEq record.macPrefix (oui mac) ∧ record.vendorName = owner) ∨
    (∀ record ∈ records, ¬ NocaseEq record.macPrefix (oui mac)) ∧ owner = ""

theorem toList_toAsciiLowercase_oui (mac : String) :
    (toAsciiLowercase (oui mac)).toList = (toAsciiLowercase mac).toList.take 8 := by
  simp only [toAsciiLowercase, oui, String.toList_ofList, List.map_take]

theorem covers_of_nocaseEq {record : MacRecord} {mac : String}
    (hstarts : NocaseEq record.macPrefix (oui mac)) : Covers record mac := by
  rw [Covers, hstarts, toList_toAsciiLowercase_oui]
  exact List.take_prefix ..

theorem nocaseEq_of_covers {record : MacRecord} {mac : String} (hcovers : Covers record mac)
    (hlength : record.macPrefix.toList.length = 8) : NocaseEq record.macPrefix (oui mac) := by
  have htake := List.prefix_iff_eq_take.mp hcovers
  have hlower : (toAsciiLowercase record.macPrefix).toList.length = 8 := by
    rw [toAsciiLowercase, String.toList_ofList, List.length_map, hlength]
  rw [hlower, ← toList_toAsciiLowercase_oui] at htake
  exact String.toList_injective htake

/-- What the lookup of an OUI finds is its owner, and nothing else is. -/
theorem ouiOwner_iff {records : List MacRecord} (hdistinct : DistinctPrefixes records)
    (mac owner : String) :
    OuiOwner records mac owner ↔ owner = findMacVendor (macVendorsDatabase records) (oui mac) := by
  by_cases hregistered : ∃ record ∈ records, NocaseEq record.macPrefix (oui mac)
  · obtain ⟨record, hrecord, hstarts⟩ := hregistered
    rw [findMacVendor_of_mem hdistinct hrecord hstarts]
    constructor
    · rintro (⟨other, hother, hsame, rfl⟩ | ⟨hnone, -⟩)
      · rw [eq_of_nocaseEq hdistinct hother hrecord (hsame.trans hstarts.symm)]
      · exact absurd hstarts (hnone record hrecord)
    · rintro rfl
      exact .inl ⟨record, hrecord, hstarts, rfl⟩
  · have hnone : ∀ record ∈ records, ¬ NocaseEq record.macPrefix (oui mac) :=
      fun record hrecord hstarts ↦ hregistered ⟨record, hrecord, hstarts⟩
    rw [findMacVendor_of_forall_not hnone]
    constructor
    · rintro (⟨record, hrecord, hstarts, -⟩ | ⟨-, hempty⟩)
      · exact absurd hstarts (hnone record hrecord)
      · exact hempty
    · exact fun hempty ↦ .inr ⟨hnone, hempty⟩

/-- The vendor of a built device: the owner of the MAC's OUI, which is that of the most specific
block unless a longer prefix is registered; and only when it is empty, and for a locally
administered MAC only, the vendor of the first service hint with a known signature. -/
theorem vendor_of_oui (records : List MacRecord) (hdistinct : DistinctPrefixes records)
    (services : List (String × String)) (deviceTypes : TextMap) {mac : String} {address : MacAddr}
    (hmac : NocaseEq mac address.toText) (ipv4 : String) (hints : List String)
    (name : Option String) (instant : Instant) :
    let databases : Databases :=
      ⟨macVendorsDatabase records, serviceVendorDatabase services, deviceTypes⟩
    let device := buildDevice databases mac ipv4 hints name instant
    ∃ owner, (∀ other, OuiOwner records mac other ↔ other = owner) ∧
      (∀ record, MostSpecific records mac record → record.macPrefix.toList.length = 8 →
        owner = record.vendorName) ∧
      ((∀ record ∈ records, ¬ Covers record mac) → owner = "") ∧
      (owner ≠ "" ∨ ¬ IsLocal address → device.vendor = owner) ∧
      (owner = "" → IsLocal address → FirstSignature services hints device.vendor) := by
  intro databases device
  have hvendor : device.vendor =
      if (findMacVendor databases.macVendors (oui mac)).isEmpty && decide (IsLocal address) then
        findServiceVendor databases.serviceVendors hints
      else findMacVendor databases.macVendors (oui mac) := by
    rw [oui, ← vendorPrefix_of_mac hmac, ← isLocallyAdministered_of_mac hmac]
    rfl
  refine ⟨findMacVendor databases.macVendors (oui mac), ouiOwner_iff hdistinct mac, ?specific,
    ?uncovered, ?found, ?fallback⟩
  case specific =>
    intro record hspecific hlength
    exact findMacVendor_of_mem hdistinct hspecific.mem (nocaseEq_of_covers hspecific.covers hlength)
  case uncovered =>
    intro huncovered
    exact findMacVendor_of_forall_not fun record hrecord hstarts ↦
      huncovered record hrecord (covers_of_nocaseEq hstarts)
  case found =>
    intro hfound
    rw [hvendor, if_neg]
    simpa [imp_iff_not_or] using hfound
  case fallback =>
    intro hempty hlocal
    rw [hvendor, if_pos (by simp [hempty, hlocal])]
    exact firstSignature_findServiceVendor services hints

/-- A block with a smaller one inside, and a private block of locally administered addresses. -/
def nestedBlocks : List MacRecord :=
  [⟨"00:50:C2", "IEEE Registration Authority"⟩, ⟨"00:50:C2:00:3", "Microsoft"⟩, ⟨"02:04:06", ""⟩]

/-- The signature of a service. -/
def companionLink : List (String × String) := [("_companion-link._tcp.local", "Apple, Inc.")]

/-- The device that is built for a MAC that advertises the service. -/
def builtFor (mac : String) : Device :=
  buildDevice ⟨macVendorsDatabase nestedBlocks, serviceVendorDatabase companionLink, []⟩ mac ""
    ["_companion-link._tcp.local"] none .epoch

/-- An address of the large block, outside the small one. -/
def largeBlockAddress : MacAddr := ⟨[0x00, 0x50, 0xc2, 0xff, 0x00, 0x01], rfl⟩

/-- An address of the small block. -/
def smallBlockAddress : MacAddr := ⟨[0x00, 0x50, 0xc2, 0x00, 0x31, 0x23], rfl⟩

/-- An address of the private block. -/
def privateBlockAddress : MacAddr := ⟨[0x02, 0x04, 0x06, 0x00, 0x00, 0x01], rfl⟩

theorem vendor_of_oui_largeBlock :
    (builtFor "00:50:C2:FF:00:01").vendor = "IEEE Registration Authority" := by
  have hmac : NocaseEq "00:50:C2:FF:00:01" largeBlockAddress.toText := by decide
  obtain ⟨owner, -, hspecific, -, hfound, -⟩ :=
    vendor_of_oui nestedBlocks (by decide) companionLink [] hmac ""
      ["_companion-link._tcp.local"] none .epoch
  have howner : owner = "IEEE Registration Authority" :=
    hspecific ⟨"00:50:C2", "IEEE Registration Authority"⟩
      ⟨List.mem_cons_self, by decide +kernel, by decide +kernel⟩ rfl
  exact (hfound (.inl (howner ▸ by decide))).trans howner

/-- The vendor is not the owner of the smaller block that contains the address; and the vendor of a
hint replaces the empty owner of a registered block. -/
theorem nested_block_ignored :
    DistinctPrefixes nestedBlocks ∧
      (NocaseEq "00:50:c2:00:31:23" smallBlockAddress.toText ∧
        MostSpecific nestedBlocks "00:50:c2:00:31:23" ⟨"00:50:C2:00:3", "Microsoft"⟩ ∧
        (builtFor "00:50:c2:00:31:23").vendor = "IEEE Registration Authority") ∧
      NocaseEq "02:04:06:00:00:01" privateBlockAddress.toText ∧
      MostSpecific nestedBlocks "02:04:06:00:00:01" ⟨"02:04:06", ""⟩ ∧
      (builtFor "02:04:06:00:00:01").vendor = "Apple, Inc." := by
  have hdistinct : DistinctPrefixes nestedBlocks := by decide +kernel
  have hsmall : MostSpecific nestedBlocks "00:50:c2:00:31:23" ⟨"00:50:C2:00:3", "Microsoft"⟩ :=
    ⟨by simp [nestedBlocks], by decide +kernel, by decide +kernel⟩
  have hprivate : MostSpecific nestedBlocks "02:04:06:00:00:01" ⟨"02:04:06", ""⟩ :=
    ⟨by simp [nestedBlocks], by decide +kernel, by decide +kernel⟩
  exact ⟨hdistinct, ⟨by decide +kernel, hsmall, by decide +kernel⟩, by decide +kernel, hprivate,
    by decide +kernel⟩

end VendorBlocks

end Oott
