import Oott.Scanners.Arp
import Oott.Utils.Addresses
import Mathlib.Data.List.Nodup

/-!
# Sending ARP requests

`send_packet` of the ARP scanner: a request for every address of the network but the own one, as the
bytes of a frame. A host answers a request for its address as the address resolution protocol has
it. Every host of the network is asked once, unless the time of the sender runs out before, and no
request is taken for an answer, so that a scan that does not meet a truncated frame finds the hosts
whose answers arrive, and no others (`arp_scan_finds_hosts`). The pauses of the sender are left out,
and the errors of `send_to`, which it does not look at.
-/

set_option autoImplicit false
set_option relaxedAutoImplicit false

namespace Oott

/-! ### Addresses as numbers -/

namespace Ipv4Addr

/-- `Ipv4Addr::from` of a number. -/
def ofValue (value : ℕ) : Ipv4Addr where
  octets := [.ofNat (value / 256 ^ 3), .ofNat (value / 256 ^ 2), .ofNat (value / 256), .ofNat value]
  size := rfl

theorem value_ofValue {value : ℕ} (hvalue : value < 2 ^ 32) : (ofValue value).value = value := by
  simp only [Ipv4Addr.value, ofValue, List.foldl_cons, List.foldl_nil, UInt8.toNat_ofNat']
  omega

theorem value_lt (address : Ipv4Addr) : address.value < 2 ^ 32 := by
  obtain ⟨a, b, c, d, rfl⟩ := exists_octets address
  have ha := a.toNat_lt
  have hb := b.toNat_lt
  have hc := c.toNat_lt
  have hd := d.toNat_lt
  simp only [value, List.foldl_cons, List.foldl_nil]
  omega

theorem ofValue_value (address : Ipv4Addr) : ofValue address.value = address :=
  value_strictMono.injective (value_ofValue address.value_lt)

end Ipv4Addr

/-- `Ipv4Network`, of fewer addresses than there are: its `size` is a number of 32 bits. -/
structure Ipv4Network where
  ip : Ipv4Addr
  prefixLength : ℕ
  positive : 0 < prefixLength
  bound : prefixLength ≤ 32

namespace Ipv4Network

/-- `size`. -/
def size (network : Ipv4Network) : ℕ := 2 ^ (32 - network.prefixLength)

/-- `network`, as a number. -/
def start (network : Ipv4Network) : ℕ := network.ip.value / network.size * network.size

/-- `iter`: the addresses from the first to the last of the network. -/
def iter (network : Ipv4Network) : List Ipv4Addr :=
  (List.range network.size).map fun index ↦ .ofValue (network.start + index)

/-- An address has the network's first bits. -/
def Contains (network : Ipv4Network) (address : Ipv4Addr) : Prop :=
  address.value / network.size = network.ip.value / network.size

instance (network : Ipv4Network) (address : Ipv4Addr) : Decidable (network.Contains address) :=
  inferInstanceAs (Decidable (_ = _))

variable {network : Ipv4Network} {address : Ipv4Addr}

theorem size_pos (network : Ipv4Network) : 0 < network.size := Nat.two_pow_pos _

/-- The addresses of the network are numbers of 32 bits. -/
theorem start_add_lt (network : Ipv4Network) {index : ℕ} (hindex : index < network.size) :
    network.start + index < 2 ^ 32 := by
  have hpow : 2 ^ network.prefixLength * network.size = 2 ^ 32 := by
    unfold size
    rw [← Nat.pow_add, Nat.add_sub_cancel' network.bound]
  have hquotient : network.ip.value / network.size < 2 ^ network.prefixLength := by
    rw [Nat.div_lt_iff_lt_mul network.size_pos, hpow]
    exact network.ip.value_lt
  calc network.start + index < network.start + network.size := Nat.add_lt_add_left hindex _
    _ = (network.ip.value / network.size + 1) * network.size := by
      rw [Nat.add_mul, Nat.one_mul]
      rfl
    _ ≤ 2 ^ network.prefixLength * network.size := Nat.mul_le_mul_right _ hquotient
    _ = 2 ^ 32 := hpow

theorem mem_iter : address ∈ network.iter ↔ network.Contains address := by
  unfold iter Contains
  rw [List.mem_map]
  constructor
  · rintro ⟨index, hindex, rfl⟩
    have hlt := List.mem_range.mp hindex
    rw [Ipv4Addr.value_ofValue (network.start_add_lt hlt), start, Nat.add_comm,
      Nat.add_mul_div_right _ _ network.size_pos, Nat.div_eq_of_lt hlt, Nat.zero_add]
  · intro hcontains
    refine ⟨address.value % network.size, List.mem_range.mpr (Nat.mod_lt _ network.size_pos), ?_⟩
    rw [start, ← hcontains, Nat.div_add_mod', Ipv4Addr.ofValue_value]

theorem nodup_iter (network : Ipv4Network) : network.iter.Nodup := by
  refine List.Nodup.map_on (fun first hfirst second hsecond heq ↦ ?_) List.nodup_range
  have hnumbers := congrArg Ipv4Addr.value heq
  rw [Ipv4Addr.value_ofValue (network.start_add_lt (List.mem_range.mp hfirst)),
    Ipv4Addr.value_ofValue (network.start_add_lt (List.mem_range.mp hsecond))] at hnumbers
  exact Nat.add_left_cancel hnumbers

end Ipv4Network

/-! ### Frames -/

/-- `MacAddr::zero`. -/
def MacAddr.zero : MacAddr := ⟨[0, 0, 0, 0, 0, 0], rfl⟩

/-- `MacAddr::broadcast`. -/
def MacAddr.broadcast : MacAddr := ⟨[0xff, 0xff, 0xff, 0xff, 0xff, 0xff], rfl⟩

/-- `ArpOperations::Request`. -/
def ArpOperations.request : List UInt8 := [0x00, 0x01]

/-- A frame with an ARP packet of Ethernet and IPv4. -/
def arpFrame (destination source : MacAddr) (operation : List UInt8) (senderHwAddr : MacAddr)
    (senderProtoAddr : Ipv4Addr) (targetHwAddr : MacAddr) (targetProtoAddr : Ipv4Addr) :
    List UInt8 :=
  destination.octets ++ source.octets ++ EtherTypes.arp ++
    ([0x00, 0x01, 0x08, 0x00, 6, 4] ++ operation ++ senderHwAddr.octets ++ senderProtoAddr.octets ++
      targetHwAddr.octets ++ targetProtoAddr.octets)

/-- The request of `send_packet`, and of `probe_mac`. -/
def requestFrame (senderMac : MacAddr) (senderIp targetIp : Ipv4Addr) : List UInt8 :=
  arpFrame .broadcast senderMac ArpOperations.request senderMac senderIp .zero targetIp

/-- The frames of `send_packet`, when its time is not cut. -/
def sendPacket (senderIp : Ipv4Network) (senderMac : MacAddr) : List (List UInt8) :=
  (senderIp.iter.filter fun targetIp ↦ targetIp ≠ senderIp.ip).map
    (requestFrame senderMac senderIp.ip)

/-- The answer of a host to a request for its address. -/
def answerFrame (host : MacAddr) (address : Ipv4Addr) (asker : MacAddr) (askerIp : Ipv4Addr) :
    List UInt8 :=
  arpFrame asker host ArpOperations.reply host address asker askerIp

/-- What the hosts of a network make of a frame: the one that it asks for answers. -/
def answerTo (hosts : Ipv4Addr → Option MacAddr) (frame : List UInt8) : Option (List UInt8) := do
  let eth ← EthernetPacket.new frame
  if eth.getEthertype = EtherTypes.arp then
    let arp ← ArpPacket.new eth.payload
    if arp.getOperation = ArpOperations.request then
      let host ← hosts arp.getTargetProtoAddr
      return answerFrame host arp.getTargetProtoAddr arp.getSenderHwAddr arp.getSenderProtoAddr
    else none
  else none

section Frames

variable {destination source senderHwAddr targetHwAddr : MacAddr}
  {senderProtoAddr targetProtoAddr : Ipv4Addr} {first second : UInt8} {padding : List UInt8}

/-- The fields of a frame are where the views read them, also when the frame is padded. -/
theorem arpFrame_fields :
    let frame := arpFrame destination source [first, second] senderHwAddr senderProtoAddr
      targetHwAddr targetProtoAddr ++ padding
    42 ≤ frame.length ∧ (frame.drop 12).take 2 = EtherTypes.arp ∧
      (frame.drop 20).take 2 = [first, second] ∧ (frame.drop 22).take 6 = senderHwAddr.octets ∧
      (frame.drop 28).take 4 = senderProtoAddr.octets ∧
      (frame.drop 38).take 4 = targetProtoAddr.octets := by
  obtain ⟨destination, hdestination⟩ := destination
  obtain ⟨source, hsource⟩ := source
  obtain ⟨senderHw, hsenderHw⟩ := senderHwAddr
  obtain ⟨targetHw, htargetHw⟩ := targetHwAddr
  obtain ⟨senderProto, hsenderProto⟩ := senderProtoAddr
  obtain ⟨targetProto, htargetProto⟩ := targetProtoAddr
  match destination, hdestination, source, hsource, senderHw, hsenderHw, targetHw, htargetHw,
    senderProto, hsenderProto, targetProto, htargetProto with
  | [_, _, _, _, _, _], _, [_, _, _, _, _, _], _, [_, _, _, _, _, _], _, [_, _, _, _, _, _], _,
    [_, _, _, _], _, [_, _, _, _], _ =>
    exact ⟨by simp [arpFrame, EtherTypes.arp], rfl, rfl, rfl, rfl, rfl⟩

/-- A padded ARP frame that is no reply carries none, and is long enough. -/
theorem arpReplyOf_arpFrame_of_ne (hoperation : [first, second] ≠ ArpOperations.reply) :
    arpReplyOf (arpFrame destination source [first, second] senderHwAddr senderProtoAddr
      targetHwAddr targetProtoAddr ++ padding) = none := by
  obtain ⟨-, -, hread, -⟩ := @arpFrame_fields destination source senderHwAddr targetHwAddr
    senderProtoAddr targetProtoAddr first second padding
  exact dif_neg fun h ↦ hoperation (hread.symm.trans h.2.2)

theorem longEnough_arpFrame :
    LongEnough (arpFrame destination source [first, second] senderHwAddr senderProtoAddr
      targetHwAddr targetProtoAddr ++ padding) := by
  obtain ⟨hlength, -⟩ := @arpFrame_fields destination source senderHwAddr targetHwAddr
    senderProtoAddr targetProtoAddr first second padding
  exact ⟨by omega, fun _ ↦ hlength⟩

end Frames

section Answers

variable {host asker : MacAddr} {address askerIp targetIp : Ipv4Addr}
  {hosts : Ipv4Addr → Option MacAddr}

/-- An answer carries the host's reply to the asker, also when it is padded. -/
theorem arpReplyOf_answerFrame (padding : List UInt8) :
    arpReplyOf (answerFrame host address asker askerIp ++ padding) =
      some ⟨host, address, askerIp⟩ := by
  obtain ⟨hlength, hethertype, hoperation, hsenderHw, hsenderProto, htarget⟩ :=
    @arpFrame_fields asker host host asker address askerIp 0x00 0x02 padding
  unfold answerFrame
  rw [arpReplyOf, ArpOperations.reply, dif_pos ⟨hlength, hethertype, hoperation⟩,
    Option.some.injEq]
  ext1
  · exact MacAddr.ext hsenderHw
  · exact Ipv4Addr.ext hsenderProto
  · exact Ipv4Addr.ext htarget

/-- A request is answered by the host of the address that it asks for, and by no other. -/
theorem answerTo_requestFrame :
    answerTo hosts (requestFrame asker askerIp targetIp) =
      (hosts targetIp).map fun host ↦ answerFrame host targetIp asker askerIp := by
  obtain ⟨hlength, hethertype, hoperation, hsenderHw, hsenderProto, htarget⟩ :=
    @arpFrame_fields .broadcast asker asker .zero askerIp targetIp 0x00 0x01 []
  rw [List.append_nil] at hlength hethertype hoperation hsenderHw hsenderProto htarget
  have hheader : 14 ≤ (requestFrame asker askerIp targetIp).length :=
    Nat.le_trans (by decide) hlength
  have hpayload : 28 ≤ ((requestFrame asker askerIp targetIp).drop 14).length := by
    rw [List.length_drop]
    exact Nat.le_sub_of_add_le hlength
  unfold answerTo
  rw [EthernetPacket.new_of_le hheader, Option.bind_eq_bind, Option.bind_some,
    if_pos (show (EthernetPacket.mk _ hheader).getEthertype = _ from hethertype)]
  change ((ArpPacket.new ((requestFrame asker askerIp targetIp).drop 14)).bind _) = _
  rw [ArpPacket.new_of_le hpayload, Option.bind_some]
  have hoperation' : (ArpPacket.mk _ hpayload).getOperation = ArpOperations.request := by
    rw [ArpPacket.getOperation, List.drop_drop]
    exact hoperation
  have htarget' : (ArpPacket.mk _ hpayload).getTargetProtoAddr = targetIp := by
    apply Ipv4Addr.ext
    rw [ArpPacket.getTargetProtoAddr]
    simp only [List.drop_drop]
    exact htarget
  have hsenderHw' : (ArpPacket.mk _ hpayload).getSenderHwAddr = asker := by
    apply MacAddr.ext
    rw [ArpPacket.getSenderHwAddr]
    simp only [List.drop_drop]
    exact hsenderHw
  have hsenderProto' : (ArpPacket.mk _ hpayload).getSenderProtoAddr = askerIp := by
    apply Ipv4Addr.ext
    rw [ArpPacket.getSenderProtoAddr]
    simp only [List.drop_drop]
    exact hsenderProto
  rw [if_pos hoperation', htarget', hsenderHw', hsenderProto']
  cases hosts targetIp with
  | none => rfl
  | some host => rfl

end Answers

/-! ### The requests of a scan -/

section Requests

variable (network : Ipv4Network) (mac : MacAddr) (hosts : Ipv4Addr → Option MacAddr)

theorem filterMap_answerTo_sendPacket :
    (sendPacket network mac).filterMap (answerTo hosts) =
      (network.iter.filter fun targetIp ↦ targetIp ≠ network.ip).filterMap fun targetIp ↦
        (hosts targetIp).map fun host ↦ answerFrame host targetIp mac network.ip := by
  unfold sendPacket
  rw [List.filterMap_map]
  exact List.filterMap_congr fun targetIp _ ↦ answerTo_requestFrame

/-- No host is asked twice. -/
theorem nodup_answers : ((sendPacket network mac).filterMap (answerTo hosts)).Nodup := by
  rw [filterMap_answerTo_sendPacket]
  refine (network.nodup_iter.filter _).filterMap fun first second answer hfirst hsecond ↦ ?_
  obtain ⟨host, -, rfl⟩ := Option.map_eq_some_iff.mp hfirst
  obtain ⟨other, -, hsame⟩ := Option.map_eq_some_iff.mp hsecond
  -- An answer tells whose it is.
  have hreplies := congrArg (fun frame ↦ arpReplyOf (frame ++ [])) hsame
  simp only [arpReplyOf_answerFrame, Option.some.injEq, ArpReply.mk.injEq] at hreplies
  exact hreplies.2.1.symm

theorem mem_answers {answer : List UInt8} :
    answer ∈ (sendPacket network mac).filterMap (answerTo hosts) ↔
      ∃ address host, hosts address = some host ∧ network.Contains address ∧
        address ≠ network.ip ∧ answer = answerFrame host address mac network.ip := by
  rw [filterMap_answerTo_sendPacket, List.mem_filterMap]
  constructor
  · rintro ⟨address, haddress, hanswer⟩
    obtain ⟨hmem, hother⟩ := List.mem_filter.mp haddress
    obtain ⟨host, hhost, rfl⟩ := Option.map_eq_some_iff.mp hanswer
    exact ⟨address, host, hhost, Ipv4Network.mem_iter.mp hmem, of_decide_eq_true hother, rfl⟩
  · rintro ⟨address, host, hhost, hcontains, hother, rfl⟩
    refine ⟨address, ?_, by rw [hhost, Option.map_some]⟩
    exact List.mem_filter.mpr ⟨Ipv4Network.mem_iter.mpr hcontains, decide_eq_true hother⟩

end Requests

/-! ### The scan -/

/-- `IpNetwork`, without the networks of the other version. -/
inductive IpNetwork
  | v4 (network : Ipv4Network)
  | v6

/-- `is_ipv4`. -/
def IpNetwork.isIpv4 : IpNetwork → Bool
  | .v4 _ => true
  | .v6 => false

/-- `NetworkInterface`. -/
structure NetworkInterface where
  name : String
  isUp : Bool
  isLoopback : Bool
  mac : Option MacAddr
  ips : List IpNetwork

/-- `select_interface`. -/
def selectInterface (interfaces : List NetworkInterface) (configured : Option String) :
    Option NetworkInterface :=
  match configured with
  | some name => (interfaces.filter (·.isUp)).find? (·.name = name)
  | none => interfaces.find? fun el ↦ el.isUp && !el.isLoopback && el.ips.any (·.isIpv4)

/-- The first IPv4 network of an interface. -/
def NetworkInterface.ipv4Net (interface : NetworkInterface) : Option Ipv4Network :=
  (interface.ips.filterMap fun
    | .v4 network => some network
    | .v6 => none).head?

/-- The errors of `find`. -/
inductive FindError
  | invalidDevice
  | noIPAddress
  | noMACAddress
  | dataChannel
deriving DecidableEq

/-- What happens on a data channel: how many frames leave within the time of the sender, and what is
received, nothing when the time of the receiver runs out. -/
structure Exchange where
  sentWithin : ℕ
  receptions : Option (List Reception)

/-- The frames that leave. -/
def Exchange.sent (exchange : Exchange) (network : Ipv4Network) (mac : MacAddr) :
    List (List UInt8) := (sendPacket network mac).take exchange.sentWithin

/-- What the receiver has to return of: when its time runs out, what it has received is lost. -/
def Exchange.received (exchange : Exchange) : List Reception := exchange.receptions.getD []

/-- `find`, with the channels that the interfaces give. Nothing is a panic of the receiver. -/
def Arp.find (databases : Databases) (allInterfaces : List NetworkInterface)
    (interface : Option String) (channel : NetworkInterface → Option Exchange) :
    Except FindError (Option (List Device)) :=
  match selectInterface allInterfaces interface with
  | none => .error .invalidDevice
  | some networkInterface =>
    match networkInterface.ipv4Net with
    | none => .error .noIPAddress
    | some ipv4Net =>
      match networkInterface.mac with
      | none => .error .noMACAddress
      | some _ =>
        match channel networkInterface with
        | none => .error .dataChannel
        | some exchange =>
          match exchange.receptions with
          | none => .ok (some [])
          | some receptions => .ok (listenForPackets databases ipv4Net.ip receptions)

/-! ### What a scan finds -/

/-- What is received during a scan: an error, a frame of the scan itself, an answer to one, or any
other frame in which no host answers for the address of another. Frames may be padded. -/
inductive Heard (hosts : Ipv4Addr → Option MacAddr) (sent : List (List UInt8)) :
    Option (List UInt8) → Prop
  | error : Heard hosts sent none
  | own {frame : List UInt8} (padding : List UInt8) :
      frame ∈ sent → Heard hosts sent (some (frame ++ padding))
  | answer {frame answer : List UInt8} (padding : List UInt8) :
      frame ∈ sent → answerTo hosts frame = some answer →
      Heard hosts sent (some (answer ++ padding))
  | other {frame : List UInt8} :
      (∀ reply, arpReplyOf frame = some reply →
        hosts reply.senderProtoAddr = some reply.senderHwAddr) →
      Heard hosts sent (some frame)

theorem nodup_answers_sent (network : Ipv4Network) (mac : MacAddr)
    (hosts : Ipv4Addr → Option MacAddr) (exchange : Exchange) :
    ((exchange.sent network mac).filterMap (answerTo hosts)).Nodup :=
  (nodup_answers network mac hosts).sublist ((List.take_sublist _ _).filterMap _)

section Found

variable {databases : Databases} {network : Ipv4Network} {mac : MacAddr} {askerIp : Ipv4Addr}
  {hosts : Ipv4Addr → Option MacAddr} {sent : List (List UInt8)} {reception : Reception}

/-- Whatever is received, a reply in it is of a host. -/
theorem Heard.truthful {buffer : Option (List UInt8)}
    (hsent : ∀ frame ∈ sent, ∃ targetIp, frame = requestFrame mac askerIp targetIp)
    (hheard : Heard hosts sent buffer) :
    ∀ frame, buffer = some frame → ∀ reply, arpReplyOf frame = some reply →
      hosts reply.senderProtoAddr = some reply.senderHwAddr := by
  cases hheard with
  | error =>
    rintro frame ⟨⟩
  | own padding hframe =>
    rintro _ ⟨⟩
    obtain ⟨targetIp, rfl⟩ := hsent _ hframe
    intro reply hreply
    -- A request is no reply.
    rw [requestFrame, ArpOperations.request, arpReplyOf_arpFrame_of_ne (by decide)] at hreply
    cases hreply
  | answer padding hframe hanswer =>
    rintro _ ⟨⟩
    obtain ⟨targetIp, rfl⟩ := hsent _ hframe
    rw [answerTo_requestFrame] at hanswer
    obtain ⟨host, hhost, rfl⟩ := Option.map_eq_some_iff.mp hanswer
    intro reply hreply
    rw [arpReplyOf_answerFrame] at hreply
    cases hreply
    exact hhost
  | other hreplies =>
    rintro _ ⟨⟩
    exact hreplies

/-- An answer to this host adds the device of the host that answers. -/
theorem deviceOfReception_answer {host : MacAddr} {address : Ipv4Addr} {padding : List UInt8}
    (hbuffer : reception.buffer = some (answerFrame host address mac network.ip ++ padding)) :
    deviceOfReception databases network.ip reception =
      some (buildDevice databases host.toText address.toText [] none reception.instant) := by
  rw [deviceOfReception, hbuffer, Option.bind_some, arpReplyOf_answerFrame, Option.bind_some,
    deviceOfReply, if_pos rfl]

/-- A device comes from a reply that was received. -/
theorem deviceOfReception_eq_some {device : Device}
    (hdevice : deviceOfReception databases network.ip reception = some device) :
    ∃ frame reply, reception.buffer = some frame ∧ arpReplyOf frame = some reply ∧
      device.macAddress = reply.senderHwAddr.toText ∧
      device.ipv4Address = reply.senderProtoAddr.toText := by
  obtain ⟨reply, hreply, hbuilt⟩ := Option.bind_eq_some_iff.mp hdevice
  obtain ⟨frame, hbuffer, hframe⟩ := Option.bind_eq_some_iff.mp hreply
  unfold deviceOfReply at hbuilt
  split at hbuilt
  next =>
    cases hbuilt
    exact ⟨frame, reply, hbuffer, hframe, rfl, rfl⟩
  next => cases hbuilt

theorem exists_listenForPackets_iff {ip : Ipv4Addr} {receptions : List Reception} :
    (∃ devices, listenForPackets databases ip receptions = some devices) ↔
      ∀ reception ∈ receptions, reception.LongEnough := by
  refine ⟨fun ⟨devices, hreturned⟩ ↦ ?_, fun hlong ↦ ⟨_, foldlM_listenOnce hlong []⟩⟩
  by_contra hshort
  push Not at hshort
  rw [listenForPackets, foldlM_listenOnce_eq_none hshort] at hreturned
  cases hreturned

theorem listenForPackets_eq_some {ip : Ipv4Addr} {receptions : List Reception}
    {devices : List Device} (hreturned : listenForPackets databases ip receptions = some devices) :
    devices = receptions.filterMap (deviceOfReception databases ip) := by
  have hlong := exists_listenForPackets_iff.mp ⟨devices, hreturned⟩
  rw [listenForPackets, foldlM_listenOnce hlong] at hreturned
  exact (Option.some.inj hreturned).symm

end Found

/-- For every interface that is chosen, and every exchange on it in which the hosts of the network
answer as they are asked, with whatever else is received there: whichever addresses may be present,
the requests that leave are answered by those of the network but the own one, by each once, and by
all of them when the time of the sender does not run out. The scan returns exactly when no frame
that it receives is too short for what it says it is; and it returns devices, each of them a host
under its address, and among them every host of which an answer is received. -/
theorem arp_scan_finds_hosts (databases : Databases) {allInterfaces : List NetworkInterface}
    {interface : Option String} {networkInterface : NetworkInterface} {network : Ipv4Network}
    {mac : MacAddr} {channel : NetworkInterface → Option Exchange} {exchange : Exchange}
    {hosts : Ipv4Addr → Option MacAddr}
    (hchosen : selectInterface allInterfaces interface = some networkInterface)
    (hnetwork : networkInterface.ipv4Net = some network) (hmac : networkInterface.mac = some mac)
    (hchannel : channel networkInterface = some exchange)
    (hheard : ∀ reception ∈ exchange.received,
      Heard hosts (exchange.sent network mac) reception.buffer) :
    (∀ present : Ipv4Addr → Option MacAddr,
      ((exchange.sent network mac).filterMap (answerTo present)).Nodup ∧
      (∀ answer ∈ (exchange.sent network mac).filterMap (answerTo present),
        ∃ address host, present address = some host ∧ network.Contains address ∧
          address ≠ network.ip ∧ answer = answerFrame host address mac network.ip) ∧
      ((sendPacket network mac).length ≤ exchange.sentWithin → ∀ address host,
        present address = some host → network.Contains address → address ≠ network.ip →
          answerFrame host address mac network.ip ∈
            (exchange.sent network mac).filterMap (answerTo present))) ∧
      ((∃ devices, Arp.find databases allInterfaces interface channel = .ok (some devices)) ↔
        ∀ reception ∈ exchange.received, reception.LongEnough) ∧
      ∀ devices, Arp.find databases allInterfaces interface channel = .ok (some devices) →
        (∀ device ∈ devices, ∃ address host, hosts address = some host ∧
          device.macAddress = host.toText ∧ device.ipv4Address = address.toText) ∧
        ∀ address host, (∃ reception ∈ exchange.received, ∃ padding,
            reception.buffer = some (answerFrame host address mac network.ip ++ padding)) →
          ∃ device ∈ devices, device.macAddress = host.toText ∧
            device.ipv4Address = address.toText := by
  have hsent : ∀ frame ∈ exchange.sent network mac, ∃ targetIp,
      frame = requestFrame mac network.ip targetIp := by
    intro frame hframe
    obtain ⟨targetIp, -, rfl⟩ := List.mem_map.mp (List.mem_of_mem_take hframe)
    exact ⟨targetIp, rfl⟩
  have hfind : Arp.find databases allInterfaces interface channel =
      .ok (listenForPackets databases network.ip exchange.received) := by
    simp only [Arp.find, hchosen, hnetwork, hmac, hchannel, Exchange.received]
    cases exchange.receptions <;> rfl
  refine ⟨fun present ↦ ⟨nodup_answers_sent network mac present exchange, fun answer hanswer ↦ ?_,
    fun huncut address host hhost hcontains hother ↦ ?_⟩, ?_, fun devices hreturned ↦ ?_⟩
  · exact (mem_answers network mac present).mp
      (((List.take_sublist _ _).filterMap _).subset hanswer)
  · rw [Exchange.sent, List.take_of_length_le huncut, mem_answers]
    exact ⟨address, host, hhost, hcontains, hother, rfl⟩
  · rw [hfind]
    simp only [Except.ok.injEq]
    exact exists_listenForPackets_iff
  · rw [hfind, Except.ok.injEq] at hreturned
    rw [listenForPackets_eq_some hreturned]
    refine ⟨fun device hdevice ↦ ?_, ?_⟩
    · obtain ⟨reception, hreception, hadded⟩ := List.mem_filterMap.mp hdevice
      obtain ⟨frame, reply, hbuffer, hreply, hmacAddress, hipv4Address⟩ :=
        deviceOfReception_eq_some hadded
      exact ⟨reply.senderProtoAddr, reply.senderHwAddr,
        (hheard reception hreception).truthful hsent frame hbuffer reply hreply,
        hmacAddress, hipv4Address⟩
    · rintro address host ⟨reception, hreception, padding, hbuffer⟩
      exact ⟨_, List.mem_filterMap.mpr ⟨reception, hreception, deviceOfReception_answer hbuffer⟩,
        rfl, rfl⟩

/-- 192.168.7.9 in a network of eight addresses. -/
def smallNetwork : Ipv4Network := ⟨⟨[192, 168, 7, 9], rfl⟩, 29, by decide, by decide⟩

/-- The interface with that address, of the MAC 02:00:00:00:07:09. -/
def smallInterface : NetworkInterface :=
  ⟨"eth0", true, false, some ⟨[2, 0, 0, 0, 7, 9], rfl⟩, [.v6, .v4 smallNetwork]⟩

/-- One host, 192.168.7.10, of the MAC ac:00:00:00:00:07. -/
def smallHosts (address : Ipv4Addr) : Option MacAddr :=
  if address.octets = [192, 168, 7, 10] then some ⟨[0xac, 0, 0, 0, 0, 7], rfl⟩ else none

/-- The padded answer of the host. -/
def smallAnswer : Reception :=
  ⟨some (answerFrame ⟨[0xac, 0, 0, 0, 0, 7], rfl⟩ ⟨[192, 168, 7, 10], rfl⟩
    ⟨[2, 0, 0, 0, 7, 9], rfl⟩ smallNetwork.ip ++ List.replicate 18 0), .epoch⟩

/-- What a scan of that network receives: its own first request, an error, and the answer. -/
def smallReceptions : List Reception :=
  [⟨some (requestFrame ⟨[2, 0, 0, 0, 7, 9], rfl⟩ smallNetwork.ip ⟨[192, 168, 7, 8], rfl⟩ ++ []),
      .epoch⟩,
    ⟨none, .epoch⟩,
    smallAnswer]

/-- It asks the host, and finds it. -/
theorem arp_scan_finds_hosts_padded :
    answerFrame ⟨[0xac, 0, 0, 0, 0, 7], rfl⟩ ⟨[192, 168, 7, 10], rfl⟩ ⟨[2, 0, 0, 0, 7, 9], rfl⟩
        smallNetwork.ip ∈
      (Exchange.sent ⟨7, some smallReceptions⟩ smallNetwork ⟨[2, 0, 0, 0, 7, 9], rfl⟩).filterMap
        (answerTo smallHosts) ∧
    ∃ devices,
      Arp.find ⟨[], [], []⟩ [smallInterface] none (fun _ ↦ some ⟨7, some smallReceptions⟩) =
        .ok (some devices) ∧
      ∃ device ∈ devices, device.macAddress = "ac:00:00:00:00:07" ∧
        device.ipv4Address = "192.168.7.10" := by
  have hall : ∀ address, smallNetwork.Contains address → address ≠ smallNetwork.ip →
      requestFrame ⟨[2, 0, 0, 0, 7, 9], rfl⟩ smallNetwork.ip address ∈
        Exchange.sent ⟨7, some smallReceptions⟩ smallNetwork ⟨[2, 0, 0, 0, 7, 9], rfl⟩ := by
    intro address hcontains hother
    rw [Exchange.sent, List.take_of_length_le (by decide)]
    exact List.mem_map_of_mem
      (List.mem_filter.mpr ⟨Ipv4Network.mem_iter.mpr hcontains, decide_eq_true hother⟩)
  have hheard : ∀ reception ∈ smallReceptions, Heard smallHosts
      (Exchange.sent ⟨7, some smallReceptions⟩ smallNetwork ⟨[2, 0, 0, 0, 7, 9], rfl⟩)
      reception.buffer := by
    simp only [smallReceptions, List.forall_mem_cons, List.not_mem_nil, false_implies,
      implies_true, and_true]
    exact ⟨.own [] (hall _ (by decide) (by decide)), .error,
      .answer _ (hall ⟨[192, 168, 7, 10], rfl⟩ (by decide) (by decide))
        (answerTo_requestFrame.trans rfl)⟩
  obtain ⟨hasked, hreturns, hfound⟩ :=
    @arp_scan_finds_hosts ⟨[], [], []⟩ [smallInterface] none smallInterface smallNetwork
      ⟨[2, 0, 0, 0, 7, 9], rfl⟩ (fun _ ↦ some ⟨7, some smallReceptions⟩) _ smallHosts rfl rfl rfl
      rfl hheard
  have hlong : ∀ reception ∈ smallReceptions, reception.LongEnough := by
    simp only [smallReceptions, List.forall_mem_cons, List.not_mem_nil, false_implies,
      implies_true, and_true]
    refine ⟨?_, ?_, ?_⟩ <;> rintro _ ⟨⟩ <;> exact longEnough_arpFrame
  obtain ⟨devices, hfind⟩ := hreturns.mpr hlong
  obtain ⟨device, hdevice, hmacAddress, hipv4Address⟩ :=
    (hfound devices hfind).2 ⟨[192, 168, 7, 10], rfl⟩ ⟨[0xac, 0, 0, 0, 0, 7], rfl⟩
      ⟨_, List.mem_cons_of_mem _ (List.mem_cons_of_mem _ List.mem_cons_self), _, rfl⟩
  have hanswered := (hasked smallHosts).2.2 (by decide) ⟨[192, 168, 7, 10], rfl⟩ _ rfl (by decide)
    (by decide)
  exact ⟨hanswered, devices, hfind, device, hdevice, hmacAddress.trans (by decide),
    hipv4Address.trans (by decide)⟩

end Oott
