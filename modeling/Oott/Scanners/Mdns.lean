import Oott.Utils.Packets
import Mathlib.Tactic.Common

/-!
# Listening for mDNS announcements

`scanners/mdns/finder.rs` and the loop of `scanners/mdns/scanner.rs`, up to the hostname that is
passed on for the sender of a packet. That is the first name of an A record, for whatever address
the record is, so that a packet with records of several hosts can have another host's name stored
for its sender (`other_host_named`). When exactly the name is the sender's own is
`passedOn_belongs_iff`.

The parser of DNS messages (`simple_dns`) is a parameter, which returns the records of a packet in
their order. A name is taken as its text, and an address as its octets.
-/

set_option autoImplicit false
set_option relaxedAutoImplicit false

namespace Oott

/-- `RData`, as far as the finder tells it apart. -/
inductive RData
  | a (address : Ipv4Addr)
  | ptr (target : String)
  | other
deriving DecidableEq

namespace RData

/-- `matches!(rdata, RData::A(_))`. -/
def isA : RData → Bool
  | a _ => true
  | _ => false

/-- `matches!(rdata, RData::PTR(_))`. -/
def isPtr : RData → Bool
  | ptr _ => true
  | _ => false

end RData

/-- `ResourceRecord`. -/
structure ResourceRecord where
  name : String
  rdata : RData

/-- `Packet`, as far as the finder reads it. -/
structure DnsPacket where
  answers : List ResourceRecord
  additionalRecords : List ResourceRecord

/-- `Announcement` of the mDNS finder. -/
structure MdnsAnnouncement where
  hostnames : List String
  serviceTypes : List String

namespace Mdns

/-- The `records` of `parse_announcement`. -/
def records (packet : DnsPacket) : List ResourceRecord :=
  packet.answers ++ packet.additionalRecords

/-- `parse_announcement`, for a packet that has been parsed. -/
def announcement (packet : DnsPacket) : MdnsAnnouncement where
  hostnames := ((records packet).filter fun record ↦ record.rdata.isA)
    |>.map ResourceRecord.name |>.filter fun host ↦ host ≠ ""
  serviceTypes := ((records packet).filter fun record ↦ record.rdata.isPtr)
    |>.map ResourceRecord.name |>.filter fun service ↦ service ≠ ""

/-- `parse_announcement`, with the parser of messages. -/
def parseAnnouncement (parse : List UInt8 → Option DnsPacket) (buf : List UInt8) :
    MdnsAnnouncement :=
  match parse buf with
  | some packet => announcement packet
  | none => ⟨[], []⟩

/-- What `listen` passes on to `process_announcement` for a datagram; a source that is not of IPv4
is `none`. -/
def passedOn (parse : List UInt8 → Option DnsPacket) (src : Option Ipv4Addr) (buf : List UInt8) :
    Option (Ipv4Addr × String × List String) :=
  match src with
  | none => none
  | some srcIp =>
    let announcement := parseAnnouncement parse buf
    match announcement.hostnames with
    | host :: _ => some (srcIp, host, announcement.serviceTypes)
    | [] => none

/-! ### Whose name it is -/

section Names

variable {parse : List UInt8 → Option DnsPacket} {buf : List UInt8} {packet : DnsPacket}
  {src : Ipv4Addr}

/-- The A records with a name. -/
def namedRecords (packet : DnsPacket) : List ResourceRecord :=
  (records packet).filter fun record ↦ record.rdata.isA && record.name ≠ ""

/-- The first A record with a name for an address. -/
def firstFor (packet : DnsPacket) (address : Ipv4Addr) : Option ResourceRecord :=
  (namedRecords packet).find? fun record ↦ record.rdata = .a address

/-- The hostname that is passed on for a source. -/
def hostnameFor (parse : List UInt8 → Option DnsPacket) (src : Ipv4Addr) (buf : List UInt8) :
    Option String :=
  (passedOn parse (some src) buf).map fun passed ↦ passed.2.1

theorem hostnames_eq (packet : DnsPacket) :
    (announcement packet).hostnames = (namedRecords packet).map ResourceRecord.name := by
  simp only [announcement, namedRecords, List.filter_map, List.filter_filter]
  congr 1
  refine List.filter_congr fun record _ ↦ ?_
  simp [Bool.and_comm]

/-- The hostname that is passed on is the first one. -/
theorem hostnameFor_eq (hparse : parse buf = some packet) :
    hostnameFor parse src buf = (namedRecords packet).head?.map ResourceRecord.name := by
  simp only [hostnameFor, passedOn, parseAnnouncement, hparse, hostnames_eq]
  cases namedRecords packet <;> rfl

theorem mem_namedRecords {record : ResourceRecord} :
    record ∈ namedRecords packet ↔
      record ∈ records packet ∧ record.rdata.isA = true ∧ record.name ≠ "" := by
  simp [namedRecords]

theorem firstFor_eq_some {record : ResourceRecord} (hfirst : firstFor packet src = some record) :
    record ∈ records packet ∧ record.rdata = .a src ∧ record.name ≠ "" := by
  have hmem := mem_namedRecords.1 (List.mem_of_find?_eq_some hfirst)
  exact ⟨hmem.1, by simpa using List.find?_some hfirst, hmem.2.2⟩

/-- For every packet from an IPv4 address, the hostname that is passed on is that of an A record for
the address, and the first name of such a record where there is one, exactly when the first A
record with a name and the first one of them for the address have the same name, or there is none
of either. -/
theorem passedOn_belongs_iff (parse : List UInt8 → Option DnsPacket) (src : Ipv4Addr)
    (buf : List UInt8) {packet : DnsPacket} (hparse : parse buf = some packet) :
    ((∀ host, hostnameFor parse src buf = some host →
        ∃ record ∈ records packet, record.rdata = .a src ∧ record.name = host) ∧
      ∀ record, firstFor packet src = some record →
        hostnameFor parse src buf = some record.name) ↔
      (namedRecords packet).head?.map ResourceRecord.name =
        (firstFor packet src).map ResourceRecord.name := by
  rw [hostnameFor_eq hparse]
  constructor
  · rintro ⟨hbelongs, hfirst⟩
    cases hfor : firstFor packet src with
    | some record => exact hfirst record hfor
    | none =>
      -- A name that is passed on would be that of an A record for the address.
      by_contra hpassed
      obtain ⟨host, hhost⟩ := Option.ne_none_iff_exists'.1 hpassed
      obtain ⟨record, hrecord, hrdata, hname⟩ := hbelongs host hhost
      obtain ⟨first, hhead, hfirstName⟩ := Option.map_eq_some_iff.1 hhost
      have hnonempty : first.name ≠ "" :=
        (mem_namedRecords.1 (List.mem_of_head? hhead)).2.2
      have hnamed : record ∈ namedRecords packet :=
        mem_namedRecords.2 ⟨hrecord, by simp [hrdata, RData.isA], by rwa [hname, ← hfirstName]⟩
      have habsent := List.find?_eq_none.1 hfor record hnamed
      simp [hrdata] at habsent
  · intro hsame
    refine ⟨fun host hhost ↦ ?_, fun record hrecord ↦ ?_⟩
    · rw [hsame] at hhost
      obtain ⟨record, hrecord, rfl⟩ := Option.map_eq_some_iff.1 hhost
      obtain ⟨hmem, hrdata, -⟩ := firstFor_eq_some hrecord
      exact ⟨record, hmem, hrdata, rfl⟩
    · rw [hsame, hrecord]
      rfl

end Names

/-- The address of a printer. -/
def printerAddress : Ipv4Addr := ⟨[10, 0, 0, 7], rfl⟩

/-- The address of a router that reflects announcements. -/
def routerAddress : Ipv4Addr := ⟨[10, 0, 0, 1], rfl⟩

/-- The printer announces its service, with its own address among the additional records. -/
def ownPacket : DnsPacket where
  answers := [⟨"_ipp._tcp.local", .ptr "Printer._ipp._tcp.local"⟩]
  additionalRecords := [⟨"printer.local", .a printerAddress⟩]

theorem passedOn_belongs_iff_ownPacket :
    hostnameFor (fun _ ↦ some ownPacket) printerAddress [] = some "printer.local" := by
  have hbelongs := (passedOn_belongs_iff (fun _ ↦ some ownPacket) printerAddress [] rfl).2 rfl
  exact hbelongs.2 ⟨"printer.local", .a printerAddress⟩ rfl

/-- The router announces the printer and then itself. -/
def reflectedPacket : DnsPacket where
  answers := [⟨"printer.local", .a printerAddress⟩, ⟨"router.local", .a routerAddress⟩]
  additionalRecords := []

/-- The router is stored under the name of the printer. -/
theorem other_host_named :
    hostnameFor (fun _ ↦ some reflectedPacket) routerAddress [] = some "printer.local" ∧
      ∀ record ∈ records reflectedPacket, record.rdata = .a routerAddress →
        record.name = "router.local" := by
  decide

end Mdns

end Oott
