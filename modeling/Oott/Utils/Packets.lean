import Oott.Utils.Network

/-!
# Views of received frames

The two packet views of the receive loops, over the bytes of a link-layer frame. A view can be built
exactly over a buffer that is as long as the fixed part of the packet, so every field it reads is
there. A field of 16 bits is taken as its two bytes, in network order.
-/

set_option autoImplicit false
set_option relaxedAutoImplicit false

namespace Oott

/-- `MacAddr`. -/
@[ext] structure MacAddr where
  octets : List UInt8
  size : octets.length = 6
deriving DecidableEq

/-- `Ipv4Addr`. -/
@[ext] structure Ipv4Addr where
  octets : List UInt8
  size : octets.length = 4
deriving DecidableEq

/-- `MacAddr::to_string`. -/
def MacAddr.toText (address : MacAddr) : String := formatMac address.octets

/-- `Ipv4Addr::to_string`. -/
def Ipv4Addr.toText (address : Ipv4Addr) : String := formatIpv4 address.octets

/-- A field is whole when the bytes reach its end. -/
theorem length_take_drop {bytes : List UInt8} {offset size : Nat}
    (hbytes : offset + size ≤ bytes.length) : ((bytes.drop offset).take size).length = size := by
  rw [List.length_take, List.length_drop]
  omega

/-- `EtherTypes::Arp`. -/
def EtherTypes.arp : List UInt8 := [0x08, 0x06]

/-- `ArpOperations::Reply`. -/
def ArpOperations.reply : List UInt8 := [0x00, 0x02]

/-- `EthernetPacket`. -/
structure EthernetPacket where
  packet : List UInt8
  minimum : 14 ≤ packet.length

namespace EthernetPacket

/-- `EthernetPacket::new`. -/
def new (packet : List UInt8) : Option EthernetPacket :=
  if h : 14 ≤ packet.length then some ⟨packet, h⟩ else none

theorem new_of_le {packet : List UInt8} (h : 14 ≤ packet.length) :
    new packet = some ⟨packet, h⟩ := dif_pos h

theorem new_of_lt {packet : List UInt8} (h : packet.length < 14) : new packet = none :=
  dif_neg (by omega)

/-- `get_ethertype`. -/
def getEthertype (view : EthernetPacket) : List UInt8 := (view.packet.drop 12).take 2

/-- `payload`. -/
def payload (view : EthernetPacket) : List UInt8 := view.packet.drop 14

end EthernetPacket

/-- `ArpPacket`. -/
structure ArpPacket where
  packet : List UInt8
  minimum : 28 ≤ packet.length

namespace ArpPacket

/-- `ArpPacket::new`. -/
def new (packet : List UInt8) : Option ArpPacket :=
  if h : 28 ≤ packet.length then some ⟨packet, h⟩ else none

theorem new_of_le {packet : List UInt8} (h : 28 ≤ packet.length) :
    new packet = some ⟨packet, h⟩ := dif_pos h

theorem new_of_lt {packet : List UInt8} (h : packet.length < 28) : new packet = none :=
  dif_neg (by omega)

/-- `get_operation`. -/
def getOperation (view : ArpPacket) : List UInt8 := (view.packet.drop 6).take 2

/-- `get_sender_hw_addr`. -/
def getSenderHwAddr (view : ArpPacket) : MacAddr where
  octets := (view.packet.drop 8).take 6
  size := length_take_drop (Nat.le_trans (by decide) view.minimum)

/-- `get_sender_proto_addr`. -/
def getSenderProtoAddr (view : ArpPacket) : Ipv4Addr where
  octets := (view.packet.drop 14).take 4
  size := length_take_drop (Nat.le_trans (by decide) view.minimum)

/-- `get_target_proto_addr`. -/
def getTargetProtoAddr (view : ArpPacket) : Ipv4Addr where
  octets := (view.packet.drop 24).take 4
  size := length_take_drop (Nat.le_trans (by decide) view.minimum)

end ArpPacket

/-! ### Replies as bytes of a frame -/

/-- A reply of the address resolution protocol. -/
@[ext] structure ArpReply where
  senderHwAddr : MacAddr
  senderProtoAddr : Ipv4Addr
  targetProtoAddr : Ipv4Addr
deriving DecidableEq

/-- The reply that a frame carries: its bytes 12 and 13 say ARP, bytes 20 and 21 say reply, and it
is long enough for both headers. -/
def arpReplyOf (frame : List UInt8) : Option ArpReply :=
  if h : 42 ≤ frame.length ∧ (frame.drop 12).take 2 = [0x08, 0x06] ∧
      (frame.drop 20).take 2 = [0x00, 0x02] then
    some {
      senderHwAddr := ⟨(frame.drop 22).take 6, length_take_drop (by omega)⟩
      senderProtoAddr := ⟨(frame.drop 28).take 4, length_take_drop (by omega)⟩
      targetProtoAddr := ⟨(frame.drop 38).take 4, length_take_drop (by omega)⟩ }
  else none

/-- The frame is long enough for the Ethernet header and, if that says ARP, for the ARP packet. -/
def LongEnough (frame : List UInt8) : Prop :=
  14 ≤ frame.length ∧ ((frame.drop 12).take 2 = [0x08, 0x06] → 42 ≤ frame.length)

instance (frame : List UInt8) : Decidable (LongEnough frame) :=
  inferInstanceAs (Decidable (_ ∧ (_ → _)))

variable {frame : List UInt8}

/-- The view of the payload reads the reply that the frame carries. -/
theorem arpReplyOf_of_arp (hethertype : (frame.drop 12).take 2 = EtherTypes.arp)
    (hpayload : 28 ≤ (frame.drop 14).length) :
    arpReplyOf frame =
      if (ArpPacket.mk (frame.drop 14) hpayload).getOperation = ArpOperations.reply then
        some {
          senderHwAddr := (ArpPacket.mk (frame.drop 14) hpayload).getSenderHwAddr
          senderProtoAddr := (ArpPacket.mk (frame.drop 14) hpayload).getSenderProtoAddr
          targetProtoAddr := (ArpPacket.mk (frame.drop 14) hpayload).getTargetProtoAddr }
      else none := by
  have hlong : 42 ≤ frame.length := by
    rw [List.length_drop] at hpayload
    omega
  have hoperation : (ArpPacket.mk (frame.drop 14) hpayload).getOperation =
      (frame.drop 20).take 2 := by rw [ArpPacket.getOperation, List.drop_drop]
  rw [hoperation]
  unfold arpReplyOf
  by_cases hreply : (frame.drop 20).take 2 = ArpOperations.reply
  · rw [dif_pos ⟨hlong, hethertype, hreply⟩, if_pos hreply, Option.some.injEq]
    ext1
    · simp only [ArpPacket.getSenderHwAddr, List.drop_drop]
    · simp only [ArpPacket.getSenderProtoAddr, List.drop_drop]
    · simp only [ArpPacket.getTargetProtoAddr, List.drop_drop]
  · rw [dif_neg fun h ↦ hreply h.2.2, if_neg hreply]

theorem arpReplyOf_of_not_arp (hethertype : (frame.drop 12).take 2 ≠ EtherTypes.arp) :
    arpReplyOf frame = none := dif_neg fun h ↦ hethertype h.2.1

end Oott
