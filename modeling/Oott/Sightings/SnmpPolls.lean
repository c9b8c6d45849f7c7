import Oott.Scanners.Snmp
import Oott.Sightings.Scan

/-!
# Polling twice

A poll of the SNMP scanner looks up the stored address of each MAC, keeps it if the ARP table still
has it, and records a sighting for each MAC. The first poll of a table stores one of the addresses
that the table has for each of its MACs, so the second poll keeps that address, and finds every
device settled (`snmp_polls_settle`).
-/

set_option autoImplicit false
set_option relaxedAutoImplicit false

namespace Oott

open Effects Snmp

/-- One poll of the loop of `scanners/snmp/scanner.rs`, once the walk has given its rows. -/
def snmpPoll (settings : Settings) (databases : Databases) (csnmp : Csnmp)
    (base : csnmp.ObjectIdentifier)
    (rows : List (csnmp.ObjectIdentifier × csnmp.ObjectValue)) :
    Program backend (List DeviceChange) := do
  let devices ← find databases csnmp base rows
  recordSightings settings .snmp devices

section Polls

variable {settings : Settings} {databases : Databases} {csnmp : Csnmp}
  {base : csnmp.ObjectIdentifier}
  {rows rows' : List (csnmp.ObjectIdentifier × csnmp.ObjectValue)}
  {world first second last : World} {found again : List DeviceChange}

/-- A poll that returns has recorded a sighting of each collapsed pair. -/
theorem run_snmpPoll
    (hrun : (snmpPoll settings databases csnmp base rows).run clocked world =
      (some found, first)) :
    ∃ devices middle, middle.db = world.db ∧
      List.Forall₂ (BuiltFrom databases)
        (collapse (storedAddress world.db) (parseArpTable csnmp base rows)) devices ∧
      (recordSightings settings .snmp devices).run clocked middle = (some found, first) := by
  obtain ⟨devices, middle, hfind, hdb, hbuilt⟩ := @run_find databases csnmp base rows world
  unfold snmpPoll at hrun
  rw [Program.run_bind, hfind] at hrun
  exact ⟨devices, middle, hdb, hbuilt, hrun⟩

/-- A poll returns when the window never leaves the calendar. -/
theorem snmpPoll_returns (hsince : ∀ n, settings.since (world.clock n) ≠ none) :
    ∃ found first,
      (snmpPoll settings databases csnmp base rows).run clocked world = (some found, first) := by
  obtain ⟨devices, middle, hfind, -, -⟩ := @run_find databases csnmp base rows world
  obtain ⟨readings, hclock⟩ := clock_of_run (find databases csnmp base rows) world
  rw [hfind] at hclock
  obtain ⟨found, first, hrun⟩ := @recordSightings_returns settings .snmp middle devices fun n ↦ by
    rw [hclock]
    exact hsince _
  unfold snmpPoll
  rw [Program.run_bind, hfind]
  exact ⟨found, first, hrun⟩

/-- A member of the first of two corresponding lists has a member of the second. -/
theorem exists_of_forall₂ {α β : Type} {corresponds : α → β → Prop} {members : List α}
    {values : List β} (hlists : List.Forall₂ corresponds members values) {member : α}
    (hmember : member ∈ members) : ∃ value ∈ values, corresponds member value := by
  induction hlists with
  | nil => cases hmember
  | cons hfirst hrest ih =>
    rcases List.mem_cons.mp hmember with rfl | hlater
    · exact ⟨_, List.mem_cons_self, hfirst⟩
    · obtain ⟨value, hvalue, hown⟩ := ih hlater
      exact ⟨value, List.mem_cons_of_mem _ hvalue, hown⟩

section Built

variable {pairs : List (String × Ipv4Addr)} {devices : List Device}

/-- A built device comes from one of the pairs, and has an address. -/
theorem exists_pair_of_mem {device : Device}
    (hbuilt : List.Forall₂ (BuiltFrom databases) pairs devices) (hdevice : device ∈ devices) :
    ∃ pair ∈ pairs, BuiltFrom databases pair device := exists_of_forall₂ hbuilt.flip hdevice

theorem ipv4Address_ne_empty {pair : String × Ipv4Addr} {device : Device}
    (hbuilt : BuiltFrom databases pair device) : device.ipv4Address ≠ "" := by
  obtain ⟨instant, rfl⟩ := hbuilt
  exact pair.2.toText_ne_empty

/-- Devices built from collapsed pairs agree: no two of them have the same MAC. -/
theorem agree_of_built {stored : String → Option Ipv4Addr}
    (hbuilt : List.Forall₂ (BuiltFrom databases)
      (collapse stored (parseArpTable csnmp base rows)) devices) : Agree devices := by
  have hcollapsed := collapse_collapsesTo stored (parseArpTable csnmp base rows)
  have hformat : ∀ mac ip, (mac, ip) ∈ collapse stored (parseArpTable csnmp base rows) →
      ∃ bytes, mac = formatMac bytes := fun mac ip hpair ↦
    exists_formatMac ((hcollapsed.macs mac).mp (List.mem_map_of_mem hpair))
  intro device hdevice other hother hmac
  obtain ⟨⟨mac, ip⟩, hpair, instant, rfl⟩ := exists_pair_of_mem hbuilt hdevice
  obtain ⟨⟨mac', ip'⟩, hpair', instant', rfl⟩ := exists_pair_of_mem hbuilt hother
  change NocaseEq mac mac' at hmac
  obtain ⟨bytes, hbytes⟩ := hformat mac ip hpair
  obtain ⟨bytes', hbytes'⟩ := hformat mac' ip' hpair'
  rw [hbytes, hbytes', nocaseEq_formatMac_iff, ← hbytes, ← hbytes'] at hmac
  subst hmac
  obtain rfl := ip_eq_of_mem_collapse hpair hpair'
  exact ⟨rfl, rfl⟩

/-- What settles a device settles every device built from the same pair. -/
theorem Database.Settled.of_built {db : Database} {pair : String × Ipv4Addr}
    {device other : Device} (hdevice : BuiltFrom databases pair device)
    (hother : BuiltFrom databases pair other) (hsettled : db.Settled device) :
    db.Settled other := by
  obtain ⟨instant, rfl⟩ := hdevice
  obtain ⟨instant', rfl⟩ := hother
  obtain ⟨row, hrow, hipv4, hvendor⟩ := hsettled
  exact ⟨row, hrow, hipv4, hvendor⟩

/-- The stored address of a settled device is the one that it was built with. -/
theorem storedAddress_of_settled {db : Database} {mac : String} {ip : Ipv4Addr} {device : Device}
    (hdevice : BuiltFrom databases (mac, ip) device) (hsettled : db.Settled device) :
    storedAddress db mac = some ip := by
  obtain ⟨instant, rfl⟩ := hdevice
  obtain ⟨row, hrow, hipv4, -⟩ := hsettled
  change db.devices.select (normalizeMac mac) = some row at hrow
  change row.ipv4Address = ip.toText at hipv4
  unfold storedAddress
  rw [hrow, Option.bind_some, hipv4, Ipv4Addr.fromText_toText]

/-- Where the devices built from the collapse are settled, the next collapse is the same. -/
theorem collapse_eq_of_settled {db : Database} {stored : String → Option Ipv4Addr}
    {pairs' : List (String × Ipv4Addr)} (hpairs : ∀ pair, pair ∈ pairs' ↔ pair ∈ pairs)
    (hbuilt : List.Forall₂ (BuiltFrom databases) (collapse stored pairs) devices)
    (hsettled : ∀ device ∈ devices, db.Settled device) :
    collapse (storedAddress db) pairs' = collapse stored pairs := by
  have hcollapsed := collapse_collapsesTo stored pairs
  have hstored : ∀ mac ip, (mac, ip) ∈ collapse stored pairs → storedAddress db mac = some ip := by
    intro mac ip hpair
    obtain ⟨device, hdevice, hown⟩ := exists_of_forall₂ hbuilt hpair
    exact storedAddress_of_settled hown (hsettled device hdevice)
  have hkept : CollapsesTo (storedAddress db) pairs (collapse stored pairs) := by
    refine ⟨hcollapsed.increasing, hcollapsed.macs, fun mac ip hpair address haddress _ ↦ ?_,
      fun mac ip hpair hnone ↦ ?_⟩
    · rw [hstored mac ip hpair, Option.some.injEq] at haddress
      exact haddress
    · exact absurd (mem_of_mem_collapse hpair) (hnone ip (hstored mac ip hpair))
  exact (hkept.eq (collapse_collapsesTo (storedAddress db) pairs') hpairs)

end Built

/-- The second of two polls of the same rows is uneventful, and leaves every stored address as it
is. -/
theorem snmpPoll_again (hrows : ∀ row, row ∈ rows' ↔ row ∈ rows)
    (hfirst : (snmpPoll settings databases csnmp base rows).run clocked world =
      (some found, first)) (hdb : second.db = first.db)
    (hsecond : (snmpPoll settings databases csnmp base rows').run clocked second =
      (some again, last)) :
    Uneventful again ∧ last.db.addresses = first.db.addresses := by
  obtain ⟨devices, middle, -, hbuilt, hrun⟩ := run_snmpPoll hfirst
  obtain ⟨devices', middle', hmiddle', hbuilt', hrun'⟩ := run_snmpPoll hsecond
  have hipv4 : ∀ device ∈ devices, device.ipv4Address ≠ "" := fun device hdevice ↦
    let ⟨_, _, hown⟩ := exists_pair_of_mem hbuilt hdevice
    ipv4Address_ne_empty hown
  have hsettled : ∀ device ∈ devices, first.db.Settled device :=
    recordSightings_settles hipv4 (agree_of_built hbuilt) (List.forall_mem_nil _) hrun
  rw [hdb, collapse_eq_of_settled (mem_parseArpTable_congr hrows) hbuilt hsettled] at hbuilt'
  have hsettled' : ∀ device ∈ devices', middle'.db.Settled device := by
    intro device hdevice
    obtain ⟨pair, hpair, hown⟩ := exists_pair_of_mem hbuilt' hdevice
    obtain ⟨earlier, hearlier, hbefore⟩ := exists_of_forall₂ hbuilt hpair
    rw [hmiddle', hdb]
    exact (hsettled earlier hearlier).of_built hbefore hown
  have hipv4' : ∀ device ∈ devices', device.ipv4Address ≠ "" := fun device hdevice ↦
    let ⟨_, _, hown⟩ := exists_pair_of_mem hbuilt' hdevice
    ipv4Address_ne_empty hown
  obtain ⟨huneventful, haddresses⟩ :=
    recordSightings_uneventful hipv4' (agree_of_built hbuilt') hsettled' hrun'
  exact ⟨huneventful, haddresses.trans (congrArg _ (hmiddle'.trans hdb))⟩

end Polls

/-- Polling does not flap. The collapse gives each MAC one address, the stored one or the lowest, in
increasing order of the MACs, whatever the order and the number of the rows; and the second of two
polls of the same rows, with nothing written in between, returns no `New` and no `Changed` entry and
leaves every stored address as the first one left it. -/
theorem snmp_polls_settle (settings : Settings) (databases : Databases) (csnmp : Csnmp)
    (base : csnmp.ObjectIdentifier) :
    (∀ (pairs : List (String × Ipv4Addr)) (stored : String → Option Ipv4Addr),
      CollapsesTo stored pairs (dedupByMac (m := Id) pairs fun mac ↦ pure (stored mac)).run ∧
        ∀ pairs' : List (String × Ipv4Addr), (∀ pair, pair ∈ pairs' ↔ pair ∈ pairs) →
          (dedupByMac (m := Id) pairs' fun mac ↦ pure (stored mac)).run =
            (dedupByMac (m := Id) pairs fun mac ↦ pure (stored mac)).run) ∧
      (∀ (rows : List (csnmp.ObjectIdentifier × csnmp.ObjectValue)) (world : World),
        (∀ n, settings.since (world.clock n) ≠ none) → ∃ found first,
          (snmpPoll settings databases csnmp base rows).run clocked world = (some found, first)) ∧
      ∀ (rows rows' : List (csnmp.ObjectIdentifier × csnmp.ObjectValue))
        (world first second last : World) (found again : List DeviceChange),
        (∀ row, row ∈ rows' ↔ row ∈ rows) →
        (snmpPoll settings databases csnmp base rows).run clocked world = (some found, first) →
        second.db = first.db →
        (snmpPoll settings databases csnmp base rows').run clocked second = (some again, last) →
          Uneventful again ∧ last.db.addresses = first.db.addresses := by
  refine ⟨fun pairs stored ↦ ?_, fun rows world hsince ↦ snmpPoll_returns hsince,
    fun rows rows' world first second last found again hrows hfirst hdb hsecond ↦
      snmpPoll_again hrows hfirst hdb hsecond⟩
  have hcollapsed := collapse_collapsesTo stored
  refine ⟨?_, fun pairs' hpairs ↦ ?_⟩
  · rw [dedupByMac_pure]
    exact hcollapsed pairs
  · rw [dedupByMac_pure, dedupByMac_pure]
    exact (hcollapsed pairs).eq (hcollapsed pairs') hpairs

/-- Identifiers that are lists, below an empty base, and values that are strings. -/
def plainCsnmp : Csnmp where
  ObjectIdentifier := List UInt32
  ObjectValue := List UInt8
  relativeTo := fun identifier base ↦
    if identifier.take base.length = base then some (identifier.drop base.length) else none
  string := some

/-- A router's table that has one MAC at two addresses. -/
def twoAddresses : List (List UInt32 × List UInt8) := [
  ([1, 10, 10, 238, 249], [0x8c, 0x16, 0x45, 0xbc, 0xb2, 0x79]),
  ([1, 10, 10, 2, 211], [0x8c, 0x16, 0x45, 0xbc, 0xb2, 0x79])]

example : collapse (fun _ ↦ none) (parseArpTable plainCsnmp ([] : List UInt32) twoAddresses) =
    [("8c:16:45:bc:b2:79", ⟨[10, 10, 2, 211], rfl⟩)] := by decide +kernel

/-- The table is polled, and a day later once more, the rows in the other order. -/
theorem snmp_polls_settle_twoAddresses : ∃ found first again last,
    (snmpPoll .default ⟨[], [], []⟩ plainCsnmp [] twoAddresses).run clocked
        (.still .empty .epoch) = (some found, first) ∧
      (snmpPoll .default ⟨[], [], []⟩ plainCsnmp [] twoAddresses.reverse).run clocked
        (.still first.db .nextDay) = (some again, last) ∧
      Uneventful again ∧ last.db.addresses = first.db.addresses := by
  have hsettle := snmp_polls_settle .default ⟨[], [], []⟩ plainCsnmp []
  obtain ⟨found, first, hfirst⟩ := hsettle.2.1 twoAddresses (.still .empty .epoch)
    fun _ ↦ (show Settings.default.since .epoch ≠ none by decide)
  obtain ⟨again, last, hsecond⟩ := hsettle.2.1 twoAddresses.reverse (.still first.db .nextDay)
    fun _ ↦ (show Settings.default.since .nextDay ≠ none by decide)
  exact ⟨found, first, again, last, hfirst, hsecond, hsettle.2.2 twoAddresses twoAddresses.reverse
    _ first (.still first.db .nextDay) last found again (fun _ ↦ List.mem_reverse) hfirst rfl
    hsecond⟩

end Oott
