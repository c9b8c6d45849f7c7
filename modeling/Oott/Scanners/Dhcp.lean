import Oott.Bytes.Options
import Oott.Utils.Packets
import Mathlib.Data.List.DropRight

/-!
# Decoding DHCP requests

`parse_packet` of `scanners/dhcp/finder.rs`, over the bytes of a datagram. An index or a range
beyond the buffer is a panic, here `none`; the walk over the options is a recursion on how much of
the buffer is left, so that it ends. For every buffer the decoder returns, and what it returns is
determined by the whole options in front of the first byte that begins none (`parsePacket_exact`).
-/

set_option autoImplicit false
set_option relaxedAutoImplicit false

namespace Oott

open Options

/-! ### Text -/

/-- `std::str::from_utf8`. -/
def fromUtf8 (bytes : List UInt8) : Option String := String.fromUTF8? ⟨bytes.toArray⟩

/-- The characters with the property `White_Space`. -/
def isWhiteSpace (c : Char) : Bool :=
  (0x09 ≤ c.toNat && c.toNat ≤ 0x0d) || (0x2000 ≤ c.toNat && c.toNat ≤ 0x200a) ||
    [0x20, 0x85, 0xa0, 0x1680, 0x2028, 0x2029, 0x202f, 0x205f, 0x3000].contains c.toNat

/-- `str::trim_matches`. -/
def trimMatches (trimmed : Char → Bool) (text : String) : String :=
  String.ofList ((text.toList.dropWhile trimmed).rdropWhile trimmed)

/-- `name.trim_matches(char::from(0)).trim()`. -/
def trimName (name : String) : String := trimMatches isWhiteSpace (trimMatches (· = '\x00') name)

/-! ### The decoder -/

namespace Dhcp

/-- `OP_OFFSET`. -/
def opOffset : ℕ := 0

/-- `HTYPE_OFFSET`. -/
def htypeOffset : ℕ := 1

/-- `HLEN_OFFSET`. -/
def hlenOffset : ℕ := 2

/-- `CIADDR_OFFSET`. -/
def ciaddrOffset : ℕ := 4 + 4 + 2 + 2

/-- `CHADDR_OFFSET`. -/
def chaddrOffset : ℕ := 28

/-- `MAGIC_COOKIE_OFFSET`. -/
def magicCookieOffset : ℕ := 236

/-- `OPTIONS_OFFSET`. -/
def optionsOffset : ℕ := 240

/-- `MAGIC_COOKIE`. -/
def magicCookie : List UInt8 := [99, 130, 83, 99]

/-- `OP_BOOTREQUEST`. -/
def opBootrequest : UInt8 := 1

/-- `HTYPE_ETHERNET`. -/
def htypeEthernet : UInt8 := 1

/-- `HLEN_ETHERNET`. -/
def hlenEthernet : UInt8 := 6

/-- `OPTION_PAD`. -/
def optionPad : UInt8 := 0

/-- `OPTION_END`. -/
def optionEnd : UInt8 := 255

/-- `OPTION_HOSTNAME`. -/
def optionHostname : UInt8 := 12

/-- `OPTION_REQUESTED_IP`. -/
def optionRequestedIp : UInt8 := 50

/-- `OPTION_MESSAGE_TYPE`. -/
def optionMessageType : UInt8 := 53

/-- `DHCP_DISCOVER`. -/
def dhcpDiscover : UInt8 := 1

/-- `DHCP_REQUEST`. -/
def dhcpRequest : UInt8 := 3

end Dhcp

open Dhcp

/-- `DhcpDiscovery`. -/
structure DhcpDiscovery where
  mac : String
  hostname : Option String
  ipHint : Option Ipv4Addr
deriving DecidableEq

/-- The three variables that the walk over the options assigns. -/
structure OptionFields where
  messageType : Option UInt8 := none
  hostname : Option String := none
  requestedIp : Option Ipv4Addr := none
deriving DecidableEq

/-- `&buf[start..end]`. -/
def slice (buf : List UInt8) (start stop : ℕ) : Option (List UInt8) :=
  if start ≤ stop ∧ stop ≤ buf.length then some ((buf.drop start).take (stop - start)) else none

/-- The match on the code of an option. -/
def OptionFields.read (fields : OptionFields) (code : UInt8) (value : List UInt8) : OptionFields :=
  if code = optionMessageType then
    match value.head? with
    | some t => { fields with messageType := some t }
    | none => fields
  else if code = optionHostname then
    match fromUtf8 value with
    | some name =>
      if trimName name ≠ "" then { fields with hostname := some (trimName name) } else fields
    | none => fields
  else if h : code = optionRequestedIp ∧ value.length = 4 then
    { fields with requestedIp := some ⟨value, h.2⟩ }
  else fields

/-- The walk over the options, from the index `i`. -/
def walkOptions (buf : List UInt8) (i : ℕ) (fields : OptionFields) : Option OptionFields :=
  if _ : i < buf.length then do
    let code ← buf[i]?
    if code = optionEnd then some fields
    else if code = optionPad then walkOptions buf (i + 1) fields
    else if i + 1 ≥ buf.length then some fields
    else
      let len := (← buf[i + 1]?).toNat
      let valueStart := i + 2
      let valueEnd := valueStart + len
      if valueEnd > buf.length then some fields
      else
        let value ← slice buf valueStart valueEnd
        walkOptions buf valueEnd (fields.read code value)
  else some fields
termination_by buf.length - i

/-- `Ipv4Addr::UNSPECIFIED`. -/
def Ipv4Addr.unspecified : Ipv4Addr := ⟨[0, 0, 0, 0], rfl⟩

/-- `parse_packet`: a panic, nothing, or a discovery. -/
def parsePacket (buf : List UInt8) : Option (Option DhcpDiscovery) :=
  if buf.length < optionsOffset then some none
  else do
    let op ← buf[opOffset]?
    let htype ← buf[htypeOffset]?
    let hlen ← buf[hlenOffset]?
    if op ≠ opBootrequest ∨ htype ≠ htypeEthernet ∨ hlen ≠ hlenEthernet then some none
    else if (← slice buf magicCookieOffset optionsOffset) ≠ magicCookie then some none
    else
      let mac := formatMac (← slice buf chaddrOffset (chaddrOffset + 6))
      let ciaddr : Ipv4Addr := ⟨[← buf[ciaddrOffset]?, ← buf[ciaddrOffset + 1]?,
        ← buf[ciaddrOffset + 2]?, ← buf[ciaddrOffset + 3]?], rfl⟩
      let fields ← walkOptions buf optionsOffset {}
      if fields.messageType = some dhcpDiscover ∨ fields.messageType = some dhcpRequest then
        let ipHint := if ciaddr ≠ .unspecified then some ciaddr else fields.requestedIp
        some (some ⟨mac, fields.hostname, ipHint⟩)
      else some none

/-! ### The walk -/

/-- The area of options of DHCP. -/
def dhcpFormat : Format := ⟨optionPad, optionEnd⟩

section Walk

variable {buf rest : List UInt8} {i : ℕ} {code : UInt8} {fields : OptionFields}

/-- The byte at an index, and the bytes after it. -/
theorem getElem?_of_drop_eq (hdrop : buf.drop i = code :: rest) :
    i < buf.length ∧ buf[i]? = some code ∧ buf.drop (i + 1) = rest := by
  have hlength := congrArg List.length hdrop
  have hhead := congrArg List.head? hdrop
  have htail := congrArg List.tail hdrop
  rw [List.length_drop, List.length_cons] at hlength
  rw [List.head?_drop, List.head?_cons] at hhead
  rw [List.tail_drop, List.tail_cons] at htail
  exact ⟨by omega, hhead, htail⟩

theorem walkOptions_stop (hdrop : buf.drop i = dhcpFormat.stop :: rest) :
    walkOptions buf i fields = some fields := by
  obtain ⟨hlt, hcode, -⟩ := getElem?_of_drop_eq hdrop
  rw [walkOptions, dif_pos hlt, hcode, Option.bind_eq_bind, Option.bind_some]
  exact if_pos rfl

theorem walkOptions_pad (hdrop : buf.drop i = dhcpFormat.pad :: rest) :
    walkOptions buf i fields = walkOptions buf (i + 1) fields := by
  obtain ⟨hlt, hcode, -⟩ := getElem?_of_drop_eq hdrop
  have hne : dhcpFormat.pad ≠ optionEnd := by decide
  rw [walkOptions, dif_pos hlt, hcode, Option.bind_eq_bind, Option.bind_some, if_neg hne]
  exact if_pos rfl

section Code

variable (hpad : code ≠ dhcpFormat.pad) (hstop : code ≠ dhcpFormat.stop)

include hpad hstop

theorem walkOptions_noLength (hdrop : buf.drop i = [code]) :
    walkOptions buf i fields = some fields := by
  obtain ⟨hlt, hcode, hrest⟩ := getElem?_of_drop_eq hdrop
  rw [List.drop_eq_nil_iff] at hrest
  rw [walkOptions, dif_pos hlt, hcode, Option.bind_eq_bind, Option.bind_some,
    if_neg (show code ≠ optionEnd from hstop), if_neg (show code ≠ optionPad from hpad),
    if_pos hrest]

variable {length : UInt8} {payload : List UInt8}

theorem walkOptions_overrun (hdrop : buf.drop i = code :: length :: payload)
    (hoverrun : payload.length < length.toNat) : walkOptions buf i fields = some fields := by
  obtain ⟨hlt, hcode, hrest⟩ := getElem?_of_drop_eq hdrop
  obtain ⟨hlt', hbyte, -⟩ := getElem?_of_drop_eq hrest
  have hlength := congrArg List.length hrest
  rw [List.length_drop, List.length_cons] at hlength
  rw [walkOptions, dif_pos hlt, hcode, Option.bind_eq_bind, Option.bind_some,
    if_neg (show code ≠ optionEnd from hstop), if_neg (show code ≠ optionPad from hpad),
    if_neg (Nat.not_le_of_lt hlt'), hbyte, Option.bind_eq_bind, Option.bind_some]
  exact if_pos (by omega)

theorem walkOptions_whole (hdrop : buf.drop i = code :: length :: payload)
    (hwhole : length.toNat ≤ payload.length) :
    walkOptions buf i fields = walkOptions buf (i + 2 + length.toNat)
      (fields.read code (payload.take length.toNat)) := by
  obtain ⟨hlt, hcode, hrest⟩ := getElem?_of_drop_eq hdrop
  obtain ⟨hlt', hbyte, hpayload⟩ := getElem?_of_drop_eq hrest
  have hlength := congrArg List.length hrest
  rw [List.length_drop, List.length_cons] at hlength
  have hslice : slice buf (i + 2) (i + 2 + length.toNat) = some (payload.take length.toNat) := by
    unfold slice
    rw [if_pos ⟨by omega, by omega⟩, hpayload, Nat.add_sub_cancel_left]
  rw [walkOptions, dif_pos hlt, hcode, Option.bind_eq_bind, Option.bind_some,
    if_neg (show code ≠ optionEnd from hstop), if_neg (show code ≠ optionPad from hpad),
    if_neg (Nat.not_le_of_lt hlt'), hbyte, Option.bind_eq_bind, Option.bind_some]
  dsimp only
  rw [if_neg (by omega), hslice]
  rfl

end Code

/-- At the end of the whole options the walk ends. -/
theorem walkOptions_tail {tail : List UInt8} (htail : Tail dhcpFormat tail)
    (hdrop : buf.drop i = tail) : walkOptions buf i fields = some fields := by
  cases htail with
  | stop rest => exact walkOptions_stop hdrop
  | nothing =>
    rw [List.drop_eq_nil_iff] at hdrop
    rw [walkOptions, dif_neg (Nat.not_lt_of_le hdrop)]
  | noLength hpad hstop => exact walkOptions_noLength hpad hstop hdrop
  | overrun hpad hstop hlength => exact walkOptions_overrun hpad hstop hdrop hlength

/-- The walk reads the whole options in order, and nothing else. -/
theorem walkOptions_eq {items : List (Item dhcpFormat)} {tail : List UInt8}
    (htail : Tail dhcpFormat tail) (hdrop : buf.drop i = encode items ++ tail) :
    walkOptions buf i fields =
      some ((entries items).foldl (fun fields entry ↦ fields.read entry.code entry.payload)
        fields) := by
  induction items generalizing i fields with
  | nil => exact walkOptions_tail htail hdrop
  | cons item items ih =>
    cases item with
    | pad =>
      rw [encode_pad, List.cons_append] at hdrop
      rw [walkOptions_pad hdrop, ih (getElem?_of_drop_eq hdrop).2.2]
      rfl
    | whole entry =>
      rw [encode_whole, List.cons_append, List.cons_append, List.append_assoc] at hdrop
      have hpayload := (getElem?_of_drop_eq (getElem?_of_drop_eq hdrop).2.2).2.2
      have hnext : buf.drop (i + 2 + entry.payload.length) = encode items ++ tail := by
        rw [← List.drop_drop, hpayload, List.drop_left]
      rw [walkOptions_whole entry.code_ne_pad entry.code_ne_stop hdrop
        (by rw [entry.toNat_length, List.length_append]; omega), entry.toNat_length, ih hnext,
        List.take_left]
      rfl

end Walk

/-! ### The fixed header -/

/-- The checks of the fixed header. -/
def HeaderAccepted (header : List UInt8) : Prop :=
  header[opOffset]? = some opBootrequest ∧ header[htypeOffset]? = some htypeEthernet ∧
    header[hlenOffset]? = some hlenEthernet ∧ header.drop magicCookieOffset = magicCookie

instance (header : List UInt8) : Decidable (HeaderAccepted header) :=
  inferInstanceAs (Decidable (_ ∧ _))

/-- A fixed header with its magic cookie, accepted by the checks. -/
structure DhcpHeader where
  bytes : List UInt8
  size : bytes.length = optionsOffset
  accepted : HeaderAccepted bytes

/-- The client hardware address of a header. -/
def chaddr (header : List UInt8) : List UInt8 := (header.drop chaddrOffset).take 6

/-- The client address of a header. -/
def ciaddr (header : List UInt8) (hsize : header.length = optionsOffset) : Ipv4Addr :=
  ⟨(header.drop ciaddrOffset).take 4, length_take_drop (hsize ▸ by decide)⟩

/-- What the decoder makes of the addresses of the header and the fields of the options. -/
def discoveryOf (chaddr : List UInt8) (ciaddr : Ipv4Addr) (fields : OptionFields) :
    Option DhcpDiscovery :=
  if fields.messageType = some dhcpDiscover ∨ fields.messageType = some dhcpRequest then
    some ⟨formatMac chaddr, fields.hostname,
      if ciaddr ≠ .unspecified then some ciaddr else fields.requestedIp⟩
  else none

section Header

variable {header : List UInt8} (hsize : header.length = optionsOffset) (options : List UInt8)

include hsize

/-- A range of the header is a range of the buffer. -/
theorem slice_append_left {start stop : ℕ} (hle : start ≤ stop) (hstop : stop ≤ optionsOffset) :
    slice (header ++ options) start stop = some ((header.drop start).take (stop - start)) := by
  unfold slice
  rw [if_pos ⟨hle, by rw [List.length_append]; omega⟩, List.drop_append_of_le_length (by omega),
    List.take_append_of_le_length (by rw [List.length_drop]; omega)]

/-- The bytes at the offsets of the client address. -/
theorem ciaddr_eq : ∃ first second third fourth : UInt8,
    header[ciaddrOffset]? = some first ∧ header[ciaddrOffset + 1]? = some second ∧
      header[ciaddrOffset + 2]? = some third ∧ header[ciaddrOffset + 3]? = some fourth ∧
      ciaddr header hsize = ⟨[first, second, third, fourth], rfl⟩ := by
  have hlt (i : ℕ) (hi : i < optionsOffset) : i < header.length := hsize ▸ hi
  refine ⟨_, _, _, _, List.getElem?_eq_getElem (hlt _ (by decide)),
    List.getElem?_eq_getElem (hlt _ (by decide)), List.getElem?_eq_getElem (hlt _ (by decide)),
    List.getElem?_eq_getElem (hlt _ (by decide)), ?_⟩
  ext1
  show (header.drop ciaddrOffset).take 4 = _
  rw [List.drop_eq_getElem_cons (hlt _ (by decide)), List.drop_eq_getElem_cons (hlt _ (by decide)),
    List.drop_eq_getElem_cons (hlt _ (by decide)), List.drop_eq_getElem_cons (hlt _ (by decide))]
  rfl

omit hsize in
/-- The header is accepted when the decoder's checks of its bytes pass. -/
theorem headerAccepted_iff {op htype hlen : UInt8} (hop : header[opOffset]? = some op)
    (hhtype : header[htypeOffset]? = some htype) (hhlen : header[hlenOffset]? = some hlen) :
    HeaderAccepted header ↔
      ¬ (op ≠ opBootrequest ∨ htype ≠ htypeEthernet ∨ hlen ≠ hlenEthernet) ∧
        ¬ header.drop magicCookieOffset ≠ magicCookie := by
  unfold HeaderAccepted
  rw [hop, hhtype, hhlen]
  simp only [Option.some.injEq, not_or, not_not, and_assoc]

/-- The decoder checks the header, walks over the options and puts the discovery together. -/
theorem parsePacket_append :
    parsePacket (header ++ options) =
      if HeaderAccepted header then
        (walkOptions (header ++ options) optionsOffset {}).map
          (discoveryOf (chaddr header) (ciaddr header hsize))
      else some none := by
  have hlt (i : ℕ) (hi : i < optionsOffset) : i < header.length := hsize ▸ hi
  have hbyte (i : ℕ) (hi : i < optionsOffset) : (header ++ options)[i]? = header[i]? :=
    List.getElem?_append_left (hlt i hi)
  have hcookie : slice (header ++ options) magicCookieOffset optionsOffset =
      some (header.drop magicCookieOffset) := by
    rw [slice_append_left hsize options (by decide) (by decide),
      List.take_of_length_le (by rw [List.length_drop, hsize])]
  have hmac : slice (header ++ options) chaddrOffset (chaddrOffset + 6) = some (chaddr header) := by
    rw [slice_append_left hsize options (by decide) (by decide), Nat.add_sub_cancel_left]
    rfl
  obtain ⟨first, second, third, fourth, hfirst, hsecond, hthird, hfourth, haddress⟩ :=
    ciaddr_eq hsize
  obtain ⟨op, hop⟩ : ∃ op, header[opOffset]? = some op :=
    ⟨_, List.getElem?_eq_getElem (hlt _ (by decide))⟩
  obtain ⟨htype, hhtype⟩ : ∃ htype, header[htypeOffset]? = some htype :=
    ⟨_, List.getElem?_eq_getElem (hlt _ (by decide))⟩
  obtain ⟨hlen, hhlen⟩ : ∃ hlen, header[hlenOffset]? = some hlen :=
    ⟨_, List.getElem?_eq_getElem (hlt _ (by decide))⟩
  unfold parsePacket
  rw [if_neg (by rw [List.length_append]; omega), hbyte _ (by decide), hbyte _ (by decide),
    hbyte _ (by decide), hop, hhtype, hhlen, hcookie, hmac, hbyte _ (by decide),
    hbyte _ (by decide), hbyte _ (by decide), hbyte _ (by decide), hfirst, hsecond, hthird,
    hfourth, haddress]
  simp only [Option.bind_eq_bind, Option.bind_some]
  have hiff := headerAccepted_iff hop hhtype hhlen
  by_cases hbytes : op ≠ opBootrequest ∨ htype ≠ htypeEthernet ∨ hlen ≠ hlenEthernet
  · rw [if_pos hbytes, if_neg fun haccepted ↦ (hiff.mp haccepted).1 hbytes]
  · by_cases hmagic : header.drop magicCookieOffset ≠ magicCookie
    · rw [if_neg hbytes, if_pos hmagic, if_neg fun haccepted ↦ (hiff.mp haccepted).2 hmagic]
    · rw [if_neg hbytes, if_neg hmagic, if_pos (hiff.mpr ⟨hbytes, hmagic⟩)]
      cases walkOptions (header ++ options) optionsOffset {} with
      | none => rfl
      | some fields =>
        rw [Option.bind_some, Option.map_some, discoveryOf]
        split_ifs <;> rfl

end Header

/-! ### What the decoder returns -/

/-- The first byte of a message type option. -/
def messageTypeOf (entry : Entry dhcpFormat) : Option UInt8 :=
  if entry.code = optionMessageType then entry.payload.head? else none

/-- The name of a host name option, when it is UTF-8 and something is left of it. -/
def hostnameOf (entry : Entry dhcpFormat) : Option String :=
  if entry.code = optionHostname then
    ((fromUtf8 entry.payload).map trimName).filter (· ≠ "")
  else none

/-- The address of a requested address option of four bytes. -/
def requestedIpOf (entry : Entry dhcpFormat) : Option Ipv4Addr :=
  if h : entry.code = optionRequestedIp ∧ entry.payload.length = 4 then some ⟨entry.payload, h.2⟩
  else none

/-- The discovery that a header and some options make. -/
def expectedDiscovery (header : DhcpHeader) (items : List (Item dhcpFormat)) :
    Option DhcpDiscovery :=
  if lastValue messageTypeOf items = some dhcpDiscover ∨
      lastValue messageTypeOf items = some dhcpRequest then
    some {
      mac := formatMac (chaddr header.bytes)
      hostname := lastValue hostnameOf items
      ipHint :=
        if ciaddr header.bytes header.size ≠ .unspecified then
          some (ciaddr header.bytes header.size)
        else lastValue requestedIpOf items }
  else none

theorem messageType_read (fields : OptionFields) (entry : Entry dhcpFormat) :
    (fields.read entry.code entry.payload).messageType =
      (messageTypeOf entry).or fields.messageType := by
  unfold OptionFields.read messageTypeOf
  by_cases hcode : entry.code = optionMessageType
  · rw [if_pos hcode, if_pos hcode]
    cases entry.payload.head? <;> rfl
  · rw [if_neg hcode, if_neg hcode, Option.none_or]
    split_ifs
    · cases fromUtf8 entry.payload with
      | none => rfl
      | some name => dsimp only; split_ifs <;> rfl
    · rfl
    · rfl

theorem hostname_read (fields : OptionFields) (entry : Entry dhcpFormat) :
    (fields.read entry.code entry.payload).hostname = (hostnameOf entry).or fields.hostname := by
  unfold OptionFields.read hostnameOf
  by_cases hcode : entry.code = optionHostname
  · have hne : entry.code ≠ optionMessageType := hcode ▸ by decide
    rw [if_neg hne, if_pos hcode, if_pos hcode]
    cases fromUtf8 entry.payload with
    | none => rfl
    | some name =>
      dsimp only
      by_cases hname : trimName name = ""
      · rw [if_neg (not_not_intro hname), Option.map_some, hname]
        rfl
      · rw [if_pos hname, Option.map_some, Option.filter_some, decide_eq_true hname]
        rfl
  · rw [if_neg hcode, if_neg hcode, Option.none_or]
    split_ifs
    · cases entry.payload.head? <;> rfl
    · rfl
    · rfl

theorem requestedIp_read (fields : OptionFields) (entry : Entry dhcpFormat) :
    (fields.read entry.code entry.payload).requestedIp =
      (requestedIpOf entry).or fields.requestedIp := by
  unfold OptionFields.read requestedIpOf
  by_cases hcode : entry.code = optionRequestedIp ∧ entry.payload.length = 4
  · have hne : entry.code ≠ optionMessageType := hcode.1 ▸ by decide
    have hne' : entry.code ≠ optionHostname := hcode.1 ▸ by decide
    rw [if_neg hne, if_neg hne', dif_pos hcode, dif_pos hcode]
    rfl
  · rw [dif_neg hcode, dif_neg hcode, Option.none_or]
    split_ifs
    · cases entry.payload.head? <;> rfl
    · cases fromUtf8 entry.payload with
      | none => rfl
      | some name => dsimp only; split_ifs <;> rfl
    · rfl

/-- A header that is rejected makes no discovery. -/
theorem parsePacket_of_not_accepted {header : List UInt8} (hsize : header.length = optionsOffset)
    (hrejected : ¬ HeaderAccepted header) (options : List UInt8) :
    parsePacket (header ++ options) = some none := by
  rw [parsePacket_append hsize, if_neg hrejected]

theorem parsePacket_accepted (header : DhcpHeader) (items : List (Item dhcpFormat))
    {tail : List UInt8} (htail : Tail dhcpFormat tail) :
    parsePacket (header.bytes ++ (encode items ++ tail)) =
      some (expectedDiscovery header items) := by
  have hdrop : (header.bytes ++ (encode items ++ tail)).drop optionsOffset =
      encode items ++ tail := by rw [← header.size, List.drop_left]
  have hmessageType := foldl_eq_lastValue messageType_read items {}
  have hhostname := foldl_eq_lastValue hostname_read items {}
  have hrequestedIp := foldl_eq_lastValue requestedIp_read items {}
  rw [Option.or_none] at hmessageType hhostname hrequestedIp
  rw [parsePacket_append header.size, if_pos header.accepted, walkOptions_eq htail hdrop,
    Option.map_some, discoveryOf, hmessageType, hhostname, hrequestedIp]
  rfl

/-- The decoder returns for every buffer. Behind a header that it accepts, it returns what the whole
options in front of the first byte that begins none make of it. -/
theorem parsePacket_exact :
    (∀ buf : List UInt8, parsePacket buf ≠ none) ∧
      ∀ (header : DhcpHeader) (items : List (Item dhcpFormat)) (tail : List UInt8),
        Tail dhcpFormat tail →
          parsePacket (header.bytes ++ encode items ++ tail) =
            some (expectedDiscovery header items) := by
  refine ⟨fun buf ↦ ?_, fun header items tail htail ↦ ?_⟩
  · by_cases hshort : buf.length < optionsOffset
    · rw [parsePacket, if_pos hshort]
      exact Option.some_ne_none _
    · have hsize : (buf.take optionsOffset).length = optionsOffset :=
        List.length_take_of_le (Nat.le_of_not_lt hshort)
      rw [← List.take_append_drop optionsOffset buf]
      by_cases haccepted : HeaderAccepted (buf.take optionsOffset)
      · obtain ⟨items, tail, htail, harea⟩ := exists_area dhcpFormat (buf.drop optionsOffset)
        rw [harea, parsePacket_accepted ⟨_, hsize, haccepted⟩ items htail]
        exact Option.some_ne_none _
      · rw [parsePacket_of_not_accepted hsize haccepted]
        exact Option.some_ne_none _
  · rw [List.append_assoc]
    exact parsePacket_accepted header items htail

/-- A request of the client `aa:bb:cc:dd:ee:ff`. -/
def dhcpRequestHeader : DhcpHeader where
  bytes := [1, 1, 6] ++ List.replicate 25 0 ++ [0xaa, 0xbb, 0xcc, 0xdd, 0xee, 0xff] ++
    List.replicate 202 0 ++ magicCookie
  size := rfl
  accepted := ⟨rfl, rfl, rfl, rfl⟩

/-- Padding in front of the message type, and at the end an address that is cut off. -/
theorem parsePacket_exact_overrun :
    parsePacket (dhcpRequestHeader.bytes ++ [0, 53, 1, 3] ++ [50, 4, 192, 168]) =
      some (some ⟨"aa:bb:cc:dd:ee:ff", none, none⟩) :=
  (parsePacket_exact.2 dhcpRequestHeader
    [.pad, .whole ⟨53, [3], by decide, by decide, by decide⟩] [50, 4, 192, 168]
    (.overrun (by decide) (by decide) (by decide))).trans (by decide)

end Oott
