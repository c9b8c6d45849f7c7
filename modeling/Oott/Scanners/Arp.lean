import Oott.Scanners.Enrichment
import Oott.Utils.Packets

/-!
# Receiving ARP replies

The receive loop of the ARP scanner, `listen_for_packets`, over what `rx.next()` gives while the
scan lasts. An `unwrap` on nothing is a panic, here `none`; the readings of the stopwatch, the
pauses and the log lines are left out. The loop returns exactly the devices of the replies to this
host (`listenForPackets_eq_iff`) when no frame is too short for what it claims to be; one truncated
frame ends it. `probe_mac` reads frames the same way but skips those (`probeMac_eq`).
-/

set_option autoImplicit false
set_option relaxedAutoImplicit false

namespace Oott

/-- What one `rx.next()` gives, nothing when it is an error, and the instant at which a device built
from it is stamped. -/
structure Reception where
  buffer : Option (List UInt8)
  instant : Instant

section Listen

variable (databases : Databases) (ip : Ipv4Addr)

/-- The body of the loop of `listen_for_packets`, on a received frame. -/
def receivePacket (instant : Instant) (devices : List Device) (arpBuffer : List UInt8) :
    Option (List Device) := do
  let ethernetPacket ← EthernetPacket.new arpBuffer
  if ethernetPacket.getEthertype = EtherTypes.arp then
    let arpPacket ← ArpPacket.new ethernetPacket.payload
    if arpPacket.getOperation = ArpOperations.reply then
      if arpPacket.getTargetProtoAddr = ip then
        let packetMacAddress := arpPacket.getSenderHwAddr.toText
        let packetIpAddress := arpPacket.getSenderProtoAddr.toText
        some (devices ++
          [buildDevice databases packetMacAddress packetIpAddress [] none instant])
      else some devices
    else some devices
  else some devices

/-- One turn of the loop: an error of `rx.next()` is skipped. -/
def listenOnce (devices : List Device) (reception : Reception) : Option (List Device) :=
  match reception.buffer with
  | some arpBuffer => receivePacket databases ip reception.instant devices arpBuffer
  | none => some devices

/-- `listen_for_packets`. -/
def listenForPackets (receptions : List Reception) : Option (List Device) :=
  receptions.foldlM (listenOnce databases ip) []

/-- The device of a reply to this host. -/
def deviceOfReply (instant : Instant) (reply : ArpReply) : Option Device :=
  if reply.targetProtoAddr = ip then
    some (buildDevice databases reply.senderHwAddr.toText reply.senderProtoAddr.toText [] none
      instant)
  else none

/-- The device that a reception is to add. -/
def deviceOfReception (reception : Reception) : Option Device :=
  (reception.buffer.bind arpReplyOf).bind (deviceOfReply databases ip reception.instant)

end Listen

/-! ### What the loop returns -/

section Returns

variable {databases : Databases} {ip : Ipv4Addr}

/-- One frame: the device of its reply is added, unless the frame is too short. -/
theorem receivePacket_eq (instant : Instant) (devices : List Device) (frame : List UInt8) :
    receivePacket databases ip instant devices frame =
      if LongEnough frame then
        some (devices ++ ((arpReplyOf frame).bind (deviceOfReply databases ip instant)).toList)
      else none := by
  unfold receivePacket
  by_cases hheader : 14 ≤ frame.length
  · rw [EthernetPacket.new_of_le hheader, Option.bind_eq_bind, Option.bind_some]
    by_cases hethertype : (frame.drop 12).take 2 = EtherTypes.arp
    · rw [if_pos (show (EthernetPacket.mk frame hheader).getEthertype = _ from hethertype)]
      change ((ArpPacket.new (frame.drop 14)).bind _) = _
      by_cases hpayload : 28 ≤ (frame.drop 14).length
      · have hlong : LongEnough frame := by
          rw [List.length_drop] at hpayload
          exact ⟨hheader, fun _ ↦ by omega⟩
        rw [if_pos hlong, ArpPacket.new_of_le hpayload, Option.bind_some,
          arpReplyOf_of_arp hethertype hpayload]
        by_cases hreply : (ArpPacket.mk (frame.drop 14) hpayload).getOperation =
            ArpOperations.reply
        · rw [if_pos hreply, if_pos hreply, Option.bind_some]
          unfold deviceOfReply
          by_cases htarget : (ArpPacket.mk (frame.drop 14) hpayload).getTargetProtoAddr = ip
          · rw [if_pos htarget, if_pos htarget]
            rfl
          · rw [if_neg htarget, if_neg htarget, Option.toList_none, List.append_nil]
        · rw [if_neg hreply, if_neg hreply, Option.bind_none, Option.toList_none,
            List.append_nil]
      · -- The frame says ARP, and the packet is truncated.
        have hshort : ¬ LongEnough frame := by
          intro hlong
          have hwhole := hlong.2 hethertype
          rw [List.length_drop] at hpayload
          omega
        rw [if_neg hshort, ArpPacket.new_of_lt (not_le.mp hpayload), Option.bind_none]
    · rw [if_neg (show (EthernetPacket.mk frame hheader).getEthertype ≠ _ from hethertype),
        if_pos ⟨hheader, fun h ↦ absurd h hethertype⟩, arpReplyOf_of_not_arp hethertype,
        Option.bind_none, Option.toList_none, List.append_nil]
  · rw [EthernetPacket.new_of_lt (not_le.mp hheader), if_neg fun h ↦ hheader h.1,
      Option.bind_eq_bind, Option.bind_none]

/-- What was received is an error or a frame that is long enough. -/
def Reception.LongEnough (reception : Reception) : Prop :=
  ∀ frame, reception.buffer = some frame → Oott.LongEnough frame

theorem listenOnce_of_longEnough {reception : Reception} (hlong : reception.LongEnough)
    (devices : List Device) :
    listenOnce databases ip devices reception =
      some (devices ++ (deviceOfReception databases ip reception).toList) := by
  unfold listenOnce deviceOfReception
  cases hbuffer : reception.buffer with
  | none => simp
  | some frame =>
    simp only [Option.bind_some]
    rw [receivePacket_eq, if_pos (hlong frame hbuffer)]

theorem listenOnce_of_not_longEnough {reception : Reception} (hshort : ¬ reception.LongEnough)
    (devices : List Device) : listenOnce databases ip devices reception = none := by
  obtain ⟨frame, hframe⟩ := not_forall.mp hshort
  obtain ⟨hbuffer, hframe⟩ := Classical.not_imp.mp hframe
  unfold listenOnce
  rw [hbuffer]
  simp only
  rw [receivePacket_eq, if_neg hframe]

/-- The loop adds the devices of the replies to those it has found, in order. -/
theorem foldlM_listenOnce {receptions : List Reception}
    (hlong : ∀ reception ∈ receptions, reception.LongEnough) (devices : List Device) :
    receptions.foldlM (listenOnce databases ip) devices =
      some (devices ++ receptions.filterMap (deviceOfReception databases ip)) := by
  induction receptions generalizing devices with
  | nil => simp
  | cons reception rest ih =>
    obtain ⟨hfirst, hrest⟩ := List.forall_mem_cons.mp hlong
    have hadded : (reception :: rest).filterMap (deviceOfReception databases ip) =
        (deviceOfReception databases ip reception).toList ++
          rest.filterMap (deviceOfReception databases ip) := by
      cases hdevice : deviceOfReception databases ip reception with
      | none => simp [hdevice]
      | some device => simp [hdevice]
    rw [List.foldlM_cons, listenOnce_of_longEnough hfirst, hadded, ← List.append_assoc]
    exact ih hrest _

/-- A frame that is too short ends the loop, whatever was found before. -/
theorem foldlM_listenOnce_eq_none {receptions : List Reception}
    (hshort : ∃ reception ∈ receptions, ¬ reception.LongEnough) (devices : List Device) :
    receptions.foldlM (listenOnce databases ip) devices = none := by
  induction receptions generalizing devices with
  | nil =>
    obtain ⟨reception, hmem, -⟩ := hshort
    exact absurd hmem List.not_mem_nil
  | cons reception rest ih =>
    rw [List.foldlM_cons]
    by_cases hfirst : reception.LongEnough
    · rw [listenOnce_of_longEnough hfirst]
      refine ih ?_ _
      obtain ⟨other, hmem, hother⟩ := hshort
      rcases List.mem_cons.mp hmem with hsame | hrest
      · exact absurd hfirst (hsame ▸ hother)
      · exact ⟨other, hrest, hother⟩
    · rw [listenOnce_of_not_longEnough hfirst]
      rfl

end Returns

/-- For every sequence of receptions, the loop returns exactly the devices of the replies to this
host, in order, if and only if no frame is too short: every frame has an Ethernet header, and every
frame whose header says ARP has a whole ARP packet after it. -/
theorem listenForPackets_eq_iff (databases : Databases) (ip : Ipv4Addr)
    (receptions : List Reception) :
    listenForPackets databases ip receptions =
        some (receptions.filterMap (deviceOfReception databases ip)) ↔
      ∀ reception ∈ receptions, reception.LongEnough := by
  constructor
  · intro hreturns
    by_contra hall
    have hshort : ∃ reception ∈ receptions, ¬ reception.LongEnough := by
      simpa only [not_forall, exists_prop] using hall
    have hnone : listenForPackets databases ip receptions = none :=
      foldlM_listenOnce_eq_none hshort []
    rw [hreturns] at hnone
    cases hnone
  · intro hlong
    exact foldlM_listenOnce hlong []

/-! ### The sibling loop -/

/-- The body of the receive loop of `probe_mac`, on a received frame: nothing is a `continue`. -/
def probePacket (targetIp : Ipv4Addr) (buffer : List UInt8) : Option MacAddr := do
  let eth ← EthernetPacket.new buffer
  if eth.getEthertype ≠ EtherTypes.arp then none
  else
    let arp ← ArpPacket.new eth.payload
    if arp.getOperation = ArpOperations.reply ∧ arp.getSenderProtoAddr = targetIp then
      some arp.getSenderHwAddr
    else none

/-- The receive loop of `probe_mac`, which ends at the first answer. -/
def probeMac (targetIp : Ipv4Addr) (receptions : List Reception) : Option MacAddr :=
  receptions.findSome? fun reception ↦ reception.buffer.bind (probePacket targetIp)

/-- The MAC that a reply gives for the address. -/
def macOfReply (targetIp : Ipv4Addr) (reply : ArpReply) : Option MacAddr :=
  if reply.senderProtoAddr = targetIp then some reply.senderHwAddr else none

theorem probePacket_eq (targetIp : Ipv4Addr) (frame : List UInt8) :
    probePacket targetIp frame = (arpReplyOf frame).bind (macOfReply targetIp) := by
  unfold probePacket
  by_cases hheader : 14 ≤ frame.length
  · rw [EthernetPacket.new_of_le hheader, Option.bind_eq_bind, Option.bind_some]
    by_cases hethertype : (frame.drop 12).take 2 = EtherTypes.arp
    · rw [if_neg (show ¬ (EthernetPacket.mk frame hheader).getEthertype ≠ _ from
        not_not.mpr hethertype)]
      change ((ArpPacket.new (frame.drop 14)).bind _) = _
      by_cases hpayload : 28 ≤ (frame.drop 14).length
      · rw [ArpPacket.new_of_le hpayload, Option.bind_some, arpReplyOf_of_arp hethertype hpayload]
        by_cases hreply : (ArpPacket.mk (frame.drop 14) hpayload).getOperation =
            ArpOperations.reply
        · rw [if_pos hreply, Option.bind_some]
          simp only [hreply, true_and, macOfReply]
        · rw [if_neg hreply, if_neg fun h ↦ hreply h.1, Option.bind_none]
      · have hnone : arpReplyOf frame = none := by
          rw [List.length_drop] at hpayload
          exact dif_neg fun h ↦ hpayload (by omega)
        rw [ArpPacket.new_of_lt (not_le.mp hpayload), hnone, Option.bind_none, Option.bind_none]
    · rw [if_pos (show (EthernetPacket.mk frame hheader).getEthertype ≠ _ from hethertype),
        arpReplyOf_of_not_arp hethertype, Option.bind_none]
  · have hnone : arpReplyOf frame = none := dif_neg fun h ↦ hheader (by omega)
    rw [EthernetPacket.new_of_lt (not_le.mp hheader), hnone, Option.bind_eq_bind, Option.bind_none,
      Option.bind_none]

/-- Whatever is received, the loop of `probe_mac` answers with the first reply of the address. -/
theorem probeMac_eq (targetIp : Ipv4Addr) (receptions : List Reception) :
    probeMac targetIp receptions = receptions.findSome? fun reception ↦
      (reception.buffer.bind arpReplyOf).bind (macOfReply targetIp) := by
  have hbody : ∀ reception : Reception, reception.buffer.bind (probePacket targetIp) =
      (reception.buffer.bind arpReplyOf).bind (macOfReply targetIp) := by
    intro reception
    cases reception.buffer with
    | none => rfl
    | some frame => exact probePacket_eq targetIp frame
  unfold probeMac
  simp only [hbody]

/-! ### A truncated frame -/

/-- A reply to 10.0.0.9 from 10.0.0.1. -/
def replyFrame : List UInt8 :=
  [0x02, 0, 0, 0, 0, 9, 0xaa, 0, 0, 0, 0, 1, 0x08, 0x06,
    0, 1, 0x08, 0, 6, 4, 0, 2, 0xaa, 0, 0, 0, 0, 1, 10, 0, 0, 1, 0x02, 0, 0, 0, 0, 9, 10, 0, 0, 9]

example : listenForPackets ⟨[], [], []⟩ ⟨[10, 0, 0, 9], rfl⟩ [⟨some replyFrame, .epoch⟩] =
    some [buildDevice ⟨[], [], []⟩ "aa:00:00:00:00:01" "10.0.0.1" [] none .epoch] := by
  decide +kernel

/-- After that reply, a frame of which only the Ethernet header arrives, and which says ARP, ends
the loop: the device of the reply is lost as well. -/
theorem truncated_frame_ends_loop :
    listenForPackets ⟨[], [], []⟩ ⟨[10, 0, 0, 9], rfl⟩
      [⟨some replyFrame, .epoch⟩, ⟨some (replyFrame.take 14), .epoch⟩] = none := by
  decide +kernel

end Oott
