import Oott.Effects.Lists
import Oott.Scanners.Enrichment
import Oott.Database.Calls
import Oott.Utils.Addresses
import Mathlib.Data.List.Forall2

/-!
# Polling an SNMP agent

`find` of `scanners/snmp/finder.rs`, from the rows of the walk on: the rows are decoded into pairs
of a MAC and an address, the pairs are collapsed to one address for each MAC, and the devices are
built. What the code uses of the crate `csnmp` is a parameter. The `BTreeMap` is Lean's tree map,
and an entry of it carries that it has an address, so that `choose_ip` always finds one. The lookup
of the stored address is injected, as in the source: `dedupByMac` is over any monad.

The collapse is determined by the set of the pairs and the stored addresses (`CollapsesTo.eq`).
-/

set_option autoImplicit false
set_option relaxedAutoImplicit false

namespace Oott

open Effects

/-- What the code uses of `csnmp`: `relative_to`, which gives the sub-identifiers after the base,
and the bytes of an `ObjectValue::String`. -/
structure Csnmp where
  ObjectIdentifier : Type
  ObjectValue : Type
  relativeTo : ObjectIdentifier → ObjectIdentifier → Option (List UInt32)
  string : ObjectValue → Option (List UInt8)

/-- The addresses seen for one MAC. -/
structure IpGroup where
  ips : List Ipv4Addr
  nonempty : ips ≠ []

namespace Snmp

/-- One turn of the loop of `parse_arp_table`: nothing is a `continue`. -/
def parseArpRow (csnmp : Csnmp) (base : csnmp.ObjectIdentifier)
    (row : csnmp.ObjectIdentifier × csnmp.ObjectValue) : Option (String × Ipv4Addr) := do
  let parts ← csnmp.relativeTo row.1 base
  if h : parts.length < 4 then none
  else
    let octets := parts.drop (parts.length - 4)
    if octets.any (· > 255) then none
    else
      let ip : Ipv4Addr := ⟨octets.map UInt32.toUInt8, by
        rw [List.length_map, List.length_drop]
        omega⟩
      let bytes ← csnmp.string row.2
      if bytes.length = 6 then some (formatMac bytes, ip) else none

/-- `parse_arp_table`. -/
def parseArpTable (csnmp : Csnmp) (base : csnmp.ObjectIdentifier)
    (rows : List (csnmp.ObjectIdentifier × csnmp.ObjectValue)) : List (String × Ipv4Addr) :=
  rows.filterMap (parseArpRow csnmp base)

/-- `by_mac.entry(mac).or_default()`, and the address pushed unless it is there. -/
def insertIp (ip : Ipv4Addr) : Option IpGroup → IpGroup
  | none => ⟨[ip], List.cons_ne_nil _ _⟩
  | some group =>
    if ip ∈ group.ips then group else ⟨group.ips ++ [ip], List.append_ne_nil_of_right_ne_nil _
      (List.cons_ne_nil _ _)⟩

/-- The map that `dedup_by_mac` builds. -/
def groupByMac (pairs : List (String × Ipv4Addr)) : Std.TreeMap String IpGroup :=
  pairs.foldl (fun byMac pair ↦ byMac.alter pair.1 fun group ↦ some (insertIp pair.2 group)) ∅

/-- `choose_ip`. -/
def chooseIp (candidates : IpGroup) (stored : Option Ipv4Addr) : Ipv4Addr :=
  match stored with
  | some stored =>
    if stored ∈ candidates.ips then stored else candidates.ips.min candidates.nonempty
  | none => candidates.ips.min candidates.nonempty

/-- `dedup_by_mac`. -/
def dedupByMac {m : Type → Type} [Monad m] (pairs : List (String × Ipv4Addr))
    (storedIp : String → m (Option Ipv4Addr)) : m (List (String × Ipv4Addr)) :=
  (groupByMac pairs).toList.mapM fun entry ↦ do
    let stored ← storedIp entry.1
    return (entry.1, chooseIp entry.2 stored)

/-- The lookup that `find` supplies. -/
def storedIp (mac : String) : Program backend (Option Ipv4Addr) := do
  return (← Db.Devices.read mac).bind fun device ↦ Ipv4Addr.fromText device.ipv4Address

/-- `find`, once the walk has given its rows. -/
def find (databases : Databases) (csnmp : Csnmp) (base : csnmp.ObjectIdentifier)
    (rows : List (csnmp.ObjectIdentifier × csnmp.ObjectValue)) : Program backend (List Device) := do
  let pairs ← dedupByMac (parseArpTable csnmp base rows) storedIp
  pairs.mapM fun pair ↦ do
    return buildDevice databases pair.1 pair.2.toText [] none (← now)

/-! ### The collapse -/

/-- Each MAC of the pairs has one address, in increasing order of the MACs: the stored one if it is
among its pairs, and otherwise the lowest of them. -/
structure CollapsesTo (stored : String → Option Ipv4Addr) (pairs collapsed :
    List (String × Ipv4Addr)) : Prop where
  increasing : (collapsed.map Prod.fst).Pairwise (· < ·)
  macs : ∀ mac, mac ∈ collapsed.map Prod.fst ↔ mac ∈ pairs.map Prod.fst
  keepsStored : ∀ mac ip, (mac, ip) ∈ collapsed →
    ∀ address, stored mac = some address → (mac, address) ∈ pairs → ip = address
  takesLowest : ∀ mac ip, (mac, ip) ∈ collapsed →
    (∀ address, stored mac = some address → (mac, address) ∉ pairs) →
      (mac, ip) ∈ pairs ∧ ∀ other, (mac, other) ∈ pairs → ip.value ≤ other.value

section Collapse

variable {stored : String → Option Ipv4Addr} {pairs collapsed : List (String × Ipv4Addr)}
  {mac : String} {ip : Ipv4Addr}

theorem mem_insertIp {other : Ipv4Addr} {group : Option IpGroup} :
    other ∈ (insertIp ip group).ips ↔ other = ip ∨ ∃ old, group = some old ∧ other ∈ old.ips := by
  cases group with
  | none => simp [insertIp]
  | some old =>
    unfold insertIp
    simp only
    split_ifs with hmem
    · simp only [Option.some.injEq, exists_eq_left']
      exact ⟨Or.inr, fun h ↦ h.elim (fun heq ↦ heq ▸ hmem) id⟩
    · simp [or_comm]

theorem mem_foldl_alter (byMac : Std.TreeMap String IpGroup) :
    (∃ group, (pairs.foldl (fun byMac pair ↦ byMac.alter pair.1 fun group ↦
        some (insertIp pair.2 group)) byMac)[mac]? = some group ∧ ip ∈ group.ips) ↔
      (∃ group, byMac[mac]? = some group ∧ ip ∈ group.ips) ∨ (mac, ip) ∈ pairs := by
  induction pairs generalizing byMac with
  | nil => simp
  | cons pair rest ih =>
    rw [List.foldl_cons, ih, List.mem_cons, ← or_assoc]
    refine or_congr_left ?_
    rw [Std.TreeMap.getElem?_alter]
    obtain ⟨key, address⟩ := pair
    by_cases hkey : key = mac
    · subst hkey
      rw [if_pos (Std.compare_self)]
      simp only [Option.some.injEq, exists_eq_left', mem_insertIp, Prod.mk.injEq, true_and]
      exact or_comm
    · rw [if_neg fun heq ↦ hkey (Std.compare_eq_iff_eq.mp heq)]
      refine (or_iff_left fun heq ↦ hkey ?_).symm
      exact (Prod.mk.inj heq).1.symm

/-- The addresses of a MAC in the map are those of its pairs. -/
theorem getElem?_groupByMac :
    (∃ group, (groupByMac pairs)[mac]? = some group ∧ ip ∈ group.ips) ↔ (mac, ip) ∈ pairs := by
  unfold groupByMac
  rw [mem_foldl_alter]
  simp

/-- The choice is the stored address if it is a candidate. -/
theorem chooseIp_stored {candidates : IpGroup} {address : Ipv4Addr}
    (hmem : address ∈ candidates.ips) : chooseIp candidates (some address) = address := if_pos hmem

/-- The choice is the lowest candidate if the stored address is none. -/
theorem chooseIp_lowest {candidates : IpGroup} {stored : Option Ipv4Addr}
    (hstored : ∀ address, stored = some address → address ∉ candidates.ips) :
    chooseIp candidates stored = candidates.ips.min candidates.nonempty := by
  cases stored with
  | none => rfl
  | some address => exact if_neg (hstored address rfl)

/-- The pairs that the lookup makes of the map. -/
def collapse (stored : String → Option Ipv4Addr) (pairs : List (String × Ipv4Addr)) :
    List (String × Ipv4Addr) :=
  (groupByMac pairs).toList.map fun entry ↦ (entry.1, chooseIp entry.2 (stored entry.1))

/-- With a pure lookup, `dedup_by_mac` is the collapse. -/
theorem dedupByMac_pure :
    (dedupByMac (m := Id) pairs fun mac ↦ pure (stored mac)).run = collapse stored pairs := by
  unfold dedupByMac collapse
  rw [List.idRun_mapM]
  rfl

/-- An entry of the collapse comes from the addresses of its MAC. -/
theorem mem_collapse :
    (mac, ip) ∈ collapse stored pairs ↔
      ∃ group, (groupByMac pairs)[mac]? = some group ∧ ip = chooseIp group (stored mac) := by
  unfold collapse
  rw [List.mem_map]
  constructor
  · rintro ⟨⟨key, group⟩, hmem, heq⟩
    obtain ⟨rfl, rfl⟩ := Prod.mk.inj heq
    exact ⟨group, Std.TreeMap.mem_toList_iff_getElem?_eq_some.mp hmem, rfl⟩
  · rintro ⟨group, hgroup, rfl⟩
    exact ⟨(mac, group), Std.TreeMap.mem_toList_iff_getElem?_eq_some.mpr hgroup, rfl⟩

/-- A MAC has one address in the collapse. -/
theorem ip_eq_of_mem_collapse {other : Ipv4Addr} (hip : (mac, ip) ∈ collapse stored pairs)
    (hother : (mac, other) ∈ collapse stored pairs) : ip = other := by
  obtain ⟨group, hgroup, rfl⟩ := mem_collapse.mp hip
  obtain ⟨group', hgroup', rfl⟩ := mem_collapse.mp hother
  rw [hgroup, Option.some.injEq] at hgroup'
  rw [hgroup']

theorem collapse_collapsesTo (stored : String → Option Ipv4Addr)
    (pairs : List (String × Ipv4Addr)) : CollapsesTo stored pairs (collapse stored pairs) where
  increasing := by
    unfold collapse
    rw [List.map_map, List.pairwise_map]
    refine Std.TreeMap.ordered_keys_toList.imp fun {first second} hlt ↦ ?_
    exact compareOfLessAndEq_eq_lt.mp hlt
  macs := by
    intro mac
    constructor
    · intro hmem
      obtain ⟨⟨key, ip⟩, hpair, rfl⟩ := List.mem_map.mp hmem
      obtain ⟨group, hgroup, -⟩ := mem_collapse.mp hpair
      obtain ⟨address, haddress⟩ := List.exists_mem_of_ne_nil group.ips group.nonempty
      exact List.mem_map.mpr ⟨(key, address), getElem?_groupByMac.mp ⟨group, hgroup, haddress⟩, rfl⟩
    · intro hmem
      obtain ⟨⟨key, ip⟩, hpair, rfl⟩ := List.mem_map.mp hmem
      obtain ⟨group, hgroup, -⟩ := getElem?_groupByMac.mpr hpair
      exact List.mem_map.mpr ⟨_, mem_collapse.mpr ⟨group, hgroup, rfl⟩, rfl⟩
  keepsStored := by
    intro mac ip hmem address hstored haddress
    obtain ⟨group, hgroup, rfl⟩ := mem_collapse.mp hmem
    obtain ⟨other, hother, hcandidate⟩ := getElem?_groupByMac.mpr haddress
    rw [hgroup, Option.some.injEq] at hother
    rw [hstored]
    exact chooseIp_stored (hother ▸ hcandidate)
  takesLowest := by
    intro mac ip hmem hstored
    obtain ⟨group, hgroup, rfl⟩ := mem_collapse.mp hmem
    have hpair : ∀ address, address ∈ group.ips ↔ (mac, address) ∈ pairs := by
      intro address
      rw [← getElem?_groupByMac, hgroup]
      simp
    have hlowest := chooseIp_lowest fun address haddress hcandidate ↦
      hstored address haddress ((hpair address).mp hcandidate)
    rw [hlowest]
    refine ⟨(hpair _).mp (List.min_mem _), fun other hother ↦ ?_⟩
    exact (Ipv4Addr.le_iff _ _).mp (List.min_le_of_mem ((hpair other).mpr hother))

/-- Collapses of pairs with the same members have the same members. -/
theorem CollapsesTo.mem_of_mem {pairs' collapsed' : List (String × Ipv4Addr)}
    (hcollapsed : CollapsesTo stored pairs collapsed)
    (hcollapsed' : CollapsesTo stored pairs' collapsed')
    (hpairs : ∀ pair, pair ∈ pairs' ↔ pair ∈ pairs) (hmem : (mac, ip) ∈ collapsed') :
    (mac, ip) ∈ collapsed := by
  have hmac : mac ∈ collapsed.map Prod.fst := by
    obtain ⟨⟨key, address⟩, haddress, rfl⟩ :=
      List.mem_map.mp ((hcollapsed'.macs mac).mp (List.mem_map_of_mem hmem))
    exact (hcollapsed.macs key).mpr (List.mem_map_of_mem ((hpairs _).mp haddress))
  obtain ⟨⟨key, other⟩, hother, rfl⟩ := List.mem_map.mp hmac
  -- Both have chosen the same address.
  suffices hsame : ip = other by
    rw [hsame]
    exact hother
  change (key, ip) ∈ collapsed' at hmem
  by_cases hstored : ∃ address, stored key = some address ∧ (key, address) ∈ pairs
  · obtain ⟨address, haddress, hpair⟩ := hstored
    rw [hcollapsed.keepsStored key other hother address haddress hpair]
    exact hcollapsed'.keepsStored key ip hmem address haddress ((hpairs _).mpr hpair)
  · have hnone : ∀ address, stored key = some address → (key, address) ∉ pairs :=
      fun address haddress hpair ↦ hstored ⟨address, haddress, hpair⟩
    obtain ⟨hpair, hle⟩ := hcollapsed.takesLowest key other hother hnone
    obtain ⟨hpair', hle'⟩ := hcollapsed'.takesLowest key ip hmem fun address haddress hpair ↦
      hnone address haddress ((hpairs _).mp hpair)
    refine Ipv4Addr.value_strictMono.injective (Nat.le_antisymm ?_ ?_)
    · exact hle' other ((hpairs _).mpr hpair)
    · exact hle ip ((hpairs _).mp hpair')

/-- The chosen address is one of the pairs. -/
theorem mem_of_mem_collapse (hmem : (mac, ip) ∈ collapse stored pairs) : (mac, ip) ∈ pairs := by
  have hcollapsed := collapse_collapsesTo stored pairs
  by_cases hstored : ∃ address, stored mac = some address ∧ (mac, address) ∈ pairs
  · obtain ⟨address, haddress, hpair⟩ := hstored
    rw [hcollapsed.keepsStored mac ip hmem address haddress hpair]
    exact hpair
  · exact (hcollapsed.takesLowest mac ip hmem fun address haddress hpair ↦
      hstored ⟨address, haddress, hpair⟩).1

/-- A collapse is determined by the set of the pairs and the stored addresses. -/
theorem CollapsesTo.eq {pairs' collapsed' : List (String × Ipv4Addr)}
    (hcollapsed : CollapsesTo stored pairs collapsed)
    (hcollapsed' : CollapsesTo stored pairs' collapsed')
    (hpairs : ∀ pair, pair ∈ pairs' ↔ pair ∈ pairs) : collapsed' = collapsed := by
  have hsorted := List.pairwise_map.mp hcollapsed.increasing
  have hsorted' := List.pairwise_map.mp hcollapsed'.increasing
  have hperm : collapsed'.Perm collapsed := by
    refine (List.perm_ext_iff_of_nodup (hsorted'.imp ?_) (hsorted.imp ?_)).mpr fun pair ↦ ⟨?_, ?_⟩
    · exact fun hlt heq ↦ String.lt_irrefl _ (heq ▸ hlt)
    · exact fun hlt heq ↦ String.lt_irrefl _ (heq ▸ hlt)
    · exact hcollapsed.mem_of_mem hcollapsed' hpairs
    · exact hcollapsed'.mem_of_mem hcollapsed fun other ↦ (hpairs other).symm
  refine hperm.eq_of_pairwise (fun first second _ _ hlt hgt ↦ ?_) hsorted' hsorted
  exact absurd (String.lt_trans hlt hgt) (String.lt_irrefl _)

end Collapse

/-! ### The devices -/

section Find

variable {databases : Databases} {csnmp : Csnmp} {base : csnmp.ObjectIdentifier}
  {rows : List (csnmp.ObjectIdentifier × csnmp.ObjectValue)} {world : World}

/-- The stored address of a MAC, if it has one that can be read. -/
def storedAddress (db : Database) (mac : String) : Option Ipv4Addr :=
  (db.devices.select (normalizeMac mac)).bind fun device ↦ Ipv4Addr.fromText device.ipv4Address

/-- The device of a pair, built at some instant. -/
def BuiltFrom (databases : Databases) (pair : String × Ipv4Addr) (device : Device) : Prop :=
  ∃ instant, device = buildDevice databases pair.1 pair.2.toText [] none instant

theorem run_storedIp (mac : String) :
    (storedIp mac).run clocked world = (some (storedAddress world.db mac), world) := rfl

/-- The collapse reads the stored addresses and leaves the world as it is. -/
theorem run_dedupByMac (pairs : List (String × Ipv4Addr)) :
    (dedupByMac pairs storedIp).run clocked world =
      (some (collapse (storedAddress world.db) pairs), world) := by
  have hentry : ∀ entry ∈ (groupByMac pairs).toList, ∀ state, state = world →
      ∃ pair after, ((storedIp entry.1 >>= fun stored ↦
          (pure (entry.1, chooseIp entry.2 stored) : Program backend _)).run clocked state) =
            (some pair, after) ∧
        (entry.1, chooseIp entry.2 (storedAddress world.db entry.1)) = pair ∧ after = world := by
    rintro entry - state rfl
    refine ⟨(entry.1, chooseIp entry.2 (storedAddress state.db entry.1)), state, ?_, rfl, rfl⟩
    rw [Program.run_bind, run_storedIp]
    rfl
  obtain ⟨collapsed, after, hrun, hpairs, rfl⟩ := Program.run_mapM hentry rfl
  have hmap : collapse (storedAddress after.db) pairs = collapsed := by
    rw [← List.forall₂_eq_eq_eq, collapse, List.forall₂_map_left_iff]
    exact hpairs
  rw [hmap]
  exact hrun

/-- What `find` returns: the devices of the collapsed pairs. The tables stay as they are. -/
theorem run_find :
    ∃ devices after, (find databases csnmp base rows).run clocked world = (some devices, after) ∧
      after.db = world.db ∧
        List.Forall₂ (BuiltFrom databases)
          (collapse (storedAddress world.db) (parseArpTable csnmp base rows)) devices := by
  have hbuild : ∀ pair ∈ collapse (storedAddress world.db) (parseArpTable csnmp base rows),
      ∀ state : World, state.db = world.db → ∃ device after,
        ((now >>= fun instant ↦ (pure (buildDevice databases pair.1 pair.2.toText [] none instant) :
          Program backend _)).run clocked state) = (some device, after) ∧
        BuiltFrom databases pair device ∧ after.db = world.db := by
    intro pair _ state hstate
    exact ⟨_, _, rfl, ⟨_, rfl⟩, hstate⟩
  obtain ⟨devices, after, hrun, hbuilt, hdb⟩ := Program.run_mapM hbuild rfl
  refine ⟨devices, after, ?_, hdb, hbuilt⟩
  unfold find
  rw [Program.run_bind, run_dedupByMac]
  exact hrun

/-- The MACs of an ARP table are what `format_mac` writes. -/
theorem exists_formatMac {mac : String}
    (hmac : mac ∈ (parseArpTable csnmp base rows).map Prod.fst) :
    ∃ bytes, mac = formatMac bytes := by
  obtain ⟨⟨mac, ip⟩, hmem, rfl⟩ := List.mem_map.mp hmac
  obtain ⟨row, -, hrow⟩ := List.mem_filterMap.mp hmem
  unfold parseArpRow at hrow
  obtain ⟨parts, -, hparts⟩ := Option.bind_eq_some_iff.mp hrow
  split_ifs at hparts with hshort
  dsimp only at hparts
  split_ifs at hparts
  obtain ⟨bytes, -, hbytes⟩ := Option.bind_eq_some_iff.mp hparts
  split_ifs at hbytes
  exact ⟨bytes, (Prod.mk.inj (Option.some.inj hbytes)).1.symm⟩

/-- Rows with the same members are decoded into pairs with the same members. -/
theorem mem_parseArpTable_congr {rows' : List (csnmp.ObjectIdentifier × csnmp.ObjectValue)}
    (hrows : ∀ row, row ∈ rows' ↔ row ∈ rows) (pair : String × Ipv4Addr) :
    pair ∈ parseArpTable csnmp base rows' ↔ pair ∈ parseArpTable csnmp base rows := by
  unfold parseArpTable
  simp only [List.mem_filterMap, hrows]

end Find

end Snmp

end Oott
