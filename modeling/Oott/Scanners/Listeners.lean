import Oott.Scanners.Dhcp
import Oott.Scanners.Mdns
import Oott.Scanners.Ssdp
import Oott.Sightings.Scan

/-!
# The passive listeners

The loops of `dhcp/scanner.rs`, `mdns/scanner.rs` and `ssdp/scanner.rs`. They share one task, so a
run is a list of datagrams in the order in which they are worked on, whichever socket each has come
in on. A datagram that its parser rejects, one from an IPv6 source and one whose source has no MAC
are skipped; every other one is one sighting (`Received.sighted`).

From an empty database, when no database call fails, the row of a device is what its sightings say
together: the first name, the last address and the last vendor that are not empty, and the first
type that is not (`listeners_summarize`). So the passive listeners invent no device and lose none,
whatever arrives.
-/

set_option autoImplicit false
set_option relaxedAutoImplicit false

namespace Oott

open Effects

/-! ### What is received -/

/-- The three listeners. -/
inductive PassiveScanner
  | dhcp
  | mdns
  | ssdp
deriving DecidableEq

/-- The scanner that a listener records its sightings for. -/
def PassiveScanner.asScanner : PassiveScanner → DeviceEventScanner
  | dhcp => .dhcp
  | mdns => .mdns
  | ssdp => .ssdp

/-- A datagram: the listener whose socket it has come in on, its source, its bytes, and what
`resolve_mac_address` answers for the source. A source that is not of IPv4 is `none`. -/
structure Received where
  scanner : PassiveScanner
  src : Option Ipv4Addr
  buf : List UInt8
  resolved : Option MacAddr

/-- What a listener passes to `build_device`. -/
structure Sighted where
  mac : String
  ipv4 : String
  serviceHints : List String
  name : Option String

/-- `process_discovery`, up to `build_device`. -/
def processDiscovery (discovery : DhcpDiscovery) : Sighted :=
  ⟨discovery.mac, (discovery.ipHint.map Ipv4Addr.toText).getD "", [], discovery.hostname⟩

/-- The two `process_announcement`, up to `build_device`: nothing when the MAC is not resolved. -/
def processAnnouncement (resolved : Option MacAddr) (srcIp : Ipv4Addr) (name : Option String)
    (serviceHints : List String) : Option Sighted :=
  resolved.map fun mac ↦ ⟨mac.toText, srcIp.toText, serviceHints, name⟩

/-- What a listener makes of a datagram: a panic, nothing, or a sighting. -/
def Received.sighted (parse : List UInt8 → Option DnsPacket) (received : Received) :
    Option (Option Sighted) :=
  match received.scanner with
  | .dhcp => (parsePacket received.buf).map (Option.map processDiscovery)
  | .mdns => some <|
    match Mdns.passedOn parse received.src received.buf with
    | some (srcIp, hostname, serviceTypes) =>
      processAnnouncement received.resolved srcIp (some hostname) serviceTypes
    | none => none
  | .ssdp => some <|
    match received.src with
    | none => none
    | some srcIp =>
      match Ssdp.parseAnnouncement received.buf with
      | some announcement =>
        processAnnouncement received.resolved srcIp announcement.server announcement.deviceTypes
      | none => none

/-! ### No datagram makes a listener panic -/

theorem walkOptions_ne_none (buf : List UInt8) (i : ℕ) (fields : OptionFields) :
    walkOptions buf i fields ≠ none := by
  fun_induction walkOptions buf i fields with
  | case1 i fields hi ihPad ihWhole =>
    simp only [List.getElem?_eq_getElem hi, Option.bind_eq_bind, Option.bind_some]
    split_ifs with hend hpad hlength
    · exact Option.some_ne_none _
    · exact ihPad
    · exact Option.some_ne_none _
    · rw [List.getElem?_eq_getElem (not_le.mp hlength), Option.bind_some]
      split_ifs with hoverrun
      · exact Option.some_ne_none _
      · rw [slice, if_pos ⟨Nat.le_add_right _ _, not_lt.mp hoverrun⟩, Option.bind_some]
        exact ihWhole _ hlength _ hoverrun _
  | case2 i fields hi => exact Option.some_ne_none _

theorem parsePacket_ne_none (buf : List UInt8) : parsePacket buf ≠ none := by
  unfold parsePacket
  split_ifs with hshort
  · exact Option.some_ne_none _
  · have hbyte (i : ℕ) (hi : i < Dhcp.optionsOffset) : ∃ b, buf[i]? = some b :=
      ⟨_, List.getElem?_eq_getElem (hi.trans_le (not_lt.mp hshort))⟩
    have hslice (start stop : ℕ) (hle : start ≤ stop) (hstop : stop ≤ Dhcp.optionsOffset) :
        ∃ value, slice buf start stop = some value :=
      ⟨_, if_pos ⟨hle, hstop.trans (not_lt.mp hshort)⟩⟩
    obtain ⟨op, hop⟩ := hbyte Dhcp.opOffset (by decide)
    obtain ⟨htype, hhtype⟩ := hbyte Dhcp.htypeOffset (by decide)
    obtain ⟨hlen, hhlen⟩ := hbyte Dhcp.hlenOffset (by decide)
    obtain ⟨first, hfirst⟩ := hbyte Dhcp.ciaddrOffset (by decide)
    obtain ⟨second, hsecond⟩ := hbyte (Dhcp.ciaddrOffset + 1) (by decide)
    obtain ⟨third, hthird⟩ := hbyte (Dhcp.ciaddrOffset + 2) (by decide)
    obtain ⟨fourth, hfourth⟩ := hbyte (Dhcp.ciaddrOffset + 3) (by decide)
    obtain ⟨cookie, hcookie⟩ := hslice Dhcp.magicCookieOffset Dhcp.optionsOffset (by decide) le_rfl
    obtain ⟨mac, hmac⟩ := hslice Dhcp.chaddrOffset (Dhcp.chaddrOffset + 6) (by decide) (by decide)
    obtain ⟨fields, hfields⟩ := Option.ne_none_iff_exists'.mp
      (walkOptions_ne_none buf Dhcp.optionsOffset {})
    simp only [hop, hhtype, hhlen, hfirst, hsecond, hthird, hfourth, hcookie, hmac, hfields,
      Option.bind_eq_bind, Option.bind_some]
    split_ifs <;> exact Option.some_ne_none _

theorem Received.sighted_ne_none (parse : List UInt8 → Option DnsPacket) (received : Received) :
    received.sighted parse ≠ none := by
  unfold sighted
  split
  · simpa using parsePacket_ne_none received.buf
  · exact Option.some_ne_none _
  · exact Option.some_ne_none _

/-! ### The loops -/

/-- What a listener has recorded: the MAC and the time it gives to its status, and the changes that
go to `notify`. -/
structure Discovered where
  scanner : PassiveScanner
  mac : String
  discoveredAt : Instant
  changes : List DeviceChange

/-- `build_device` of a sighting. -/
def Sighted.build (databases : Databases) (sighted : Sighted) (instant : Instant) : Device :=
  buildDevice databases sighted.mac sighted.ipv4 sighted.serviceHints sighted.name instant

@[simp] theorem Sighted.build_macAddress (databases : Databases) (sighted : Sighted)
    (instant : Instant) : (sighted.build databases instant).macAddress = sighted.mac := rfl

section Loops

variable (settings : Settings) (databases : Databases) (parse : List UInt8 → Option DnsPacket)

/-- A sighting is recorded, and the status of its listener told. -/
def recordSighted (scanner : PassiveScanner) (sighted : Sighted) : Program backend Discovered := do
  let builtAt ← now
  let changes ← recordSighting settings (sighted.build databases builtAt) scanner.asScanner
  return ⟨scanner, sighted.mac, ← now, changes⟩

/-- The turns of the loops of `listen`, until the shutdown. A datagram that could not be received is
none of the list. -/
def listen : List Received → Program backend (List Discovered)
  | [] => return []
  | received :: rest => do
    match ← Program.orAbort (received.sighted parse) with
    | none => listen rest
    | some sighted =>
      let discovered ← recordSighted settings databases received.scanner sighted
      return discovered :: (← listen rest)

/-- The sightings among the datagrams, in order. -/
def sightings (datagrams : List Received) : List (PassiveScanner × Sighted) :=
  datagrams.filterMap fun received ↦
    (received.sighted parse).join.map fun sighted ↦ (received.scanner, sighted)

end Loops

/-! ### What the sightings of a device say together -/

/-- The first text that is not empty. -/
def firstNonempty (texts : List String) : String := (texts.find? (· ≠ "")).getD ""

/-- The last text that is not empty. -/
def lastNonempty (texts : List String) : String := firstNonempty texts.reverse

theorem firstNonempty_append (texts : List String) (text : String) :
    firstNonempty (texts ++ [text]) =
      if firstNonempty texts = "" then text else firstNonempty texts := by
  unfold firstNonempty
  rw [List.find?_append]
  cases hfound : texts.find? (· ≠ "") with
  | none =>
    by_cases htext : text = ""
    · simp [htext]
    · simp [htext]
  | some found =>
    have hne : found ≠ "" := by simpa using List.find?_some hfound
    simp [hne]

theorem lastNonempty_append (texts : List String) (text : String) :
    lastNonempty (texts ++ [text]) = if text = "" then lastNonempty texts else text := by
  unfold lastNonempty firstNonempty
  rw [List.reverse_append, List.reverse_singleton, List.singleton_append, List.find?_cons]
  by_cases htext : text = ""
  · simp [htext]
  · simp [htext]

/-- A row says what its sightings say together. -/
structure Summarizes (databases : Databases) (sighted : List Sighted) (row : Device) : Prop where
  name : row.name = sighted.findSome? Sighted.name
  ipv4Address : row.ipv4Address = lastNonempty (sighted.map Sighted.ipv4)
  vendor : row.vendor = lastNonempty (sighted.map fun seen ↦
    deducedVendor databases seen.mac seen.serviceHints)
  deviceType : row.deviceType = firstNonempty (sighted.map fun seen ↦
    findDeviceType databases.deviceTypes (deducedVendor databases seen.mac seen.serviceHints))
  isRegistered : row.isRegistered = false
  owner : row.owner = ""

section Summaries

variable {databases : Databases} {earlier : List Sighted} {sighted : Sighted} {recorded : Device}

/-- The row of a first sighting. -/
theorem summarizes_singleton (instant : Instant) :
    Summarizes databases [sighted] { sighted.build databases instant with
      macAddress := normalizeMac sighted.mac } := by
  have htext (text : String) : firstNonempty [text] = text := by
    unfold firstNonempty
    by_cases hempty : text = ""
    · simp [hempty]
    · simp [hempty]
  refine ⟨?_, (htext _).symm, (htext _).symm, (htext _).symm, rfl, rfl⟩
  show sighted.name = _
  rw [List.findSome?_singleton]

/-- A sighting of a known device adds to its row what it says. -/
theorem Summarizes.append (hsummarizes : Summarizes databases earlier recorded)
    (hmac : NocaseEq recorded.macAddress sighted.mac)
    (hempty : findDeviceType databases.deviceTypes "" = "") (builtAt seenAt : Instant) :
    Summarizes databases (earlier ++ [sighted])
      ((sightingClause recorded (sighted.build databases builtAt) seenAt).apply recorded) := by
  have htype : (sighted.build databases builtAt).vendor = "" →
      (sighted.build databases builtAt).deviceType = "" := by
    intro hdeduced
    show findDeviceType databases.deviceTypes (sighted.build databases builtAt).vendor = ""
    rw [hdeduced, hempty]
  have hagrees : (reconcile recorded (sighted.build databases builtAt)).AgreesWith
      ((sightingClause recorded (sighted.build databases builtAt) seenAt).apply recorded) :=
    reconcile_agreesWith seenAt hmac htype
  refine ⟨?_, ?_, ?_, ?_, hsummarizes.isRegistered, hsummarizes.owner⟩
  · rw [← hagrees.name, reconcile_name, hsummarizes.name, List.findSome?_append,
      List.findSome?_singleton]
    rfl
  · rw [List.map_append, List.map_singleton, lastNonempty_append, ← hsummarizes.ipv4Address]
    show (if sighted.ipv4.isEmpty = true then recorded.ipv4Address else sighted.ipv4) = _
    simp only [String.isEmpty_iff]
  · rw [List.map_append, List.map_singleton, lastNonempty_append, ← hsummarizes.vendor,
      ← hagrees.vendor]
    show (if (deducedVendor databases sighted.mac sighted.serviceHints).isEmpty = true then
      recorded.vendor else _) = _
    simp only [String.isEmpty_iff]
    rfl
  · rw [List.map_append, List.map_singleton, firstNonempty_append, ← hsummarizes.deviceType,
      ← hagrees.deviceType]
    show (if recorded.deviceType.isEmpty = true then _ else recorded.deviceType) = _
    simp only [String.isEmpty_iff]
    rfl

end Summaries

/-! ### One sighting -/

section Sighting

variable {settings : Settings} {device : Device} {scanner : DeviceEventScanner} {world : World}

/-- The row that a sighting of a new device leaves. -/
theorem row_of_recordSighting_new
    (hnew : world.db.devices.select (normalizeMac device.macAddress) = none) :
    ((recordSighting settings device scanner).run clocked world).2.db.devices.select
        (normalizeMac device.macAddress) =
      some { device with macAddress := normalizeMac device.macAddress } := by
  obtain ⟨table, hinsert, hrun⟩ := @run_recordSighting_new settings device scanner world hnew
  have hkept := devices_of_recordsEvents
    (Program.exec_run Faulty.allows_clocked _ (world.withDb { world.db with devices := table }))
    (answerInsert_always settings device scanner (.ok 1))
  rw [hrun]
  refine (congrArg (DevicesTable.select · _) hkept).trans ?_
  refine DevicesTable.select_eq_some_iff.mpr ⟨?_, NocaseEq.refl _⟩
  change _ ∈ table.rows
  rw [(DevicesTable.rows_of_insert hinsert).1]
  exact List.mem_append_right _ (List.mem_singleton_self _)

/-- A sighting leaves the lookups of other MACs. -/
theorem select_recordSighting_other {mac : String} (hother : ¬ NocaseEq mac device.macAddress) :
    ((recordSighting settings device scanner).run clocked world).2.db.devices.select mac =
      world.db.devices.select mac := by
  have hkey : ¬ NocaseEq mac (normalizeMac device.macAddress) := fun h ↦
    hother (h.trans (nocaseEq_normalizeMac _))
  rcases devices_of_recordSighting (Program.exec_run Faulty.allows_clocked
    (recordSighting settings device scanner) world) with
    hsame | ⟨recorded, instant, -, hupdate⟩ | hinsert
  · rw [hsame]
  · rw [hupdate, DevicesTable.select_update_other _ hkey]
  · exact DevicesTable.select_insert_other hinsert hkey

end Sighting

/-! ### All of them -/

/-- The sightings of one MAC, in order. -/
def sightingsOf (mac : String) (history : List (PassiveScanner × Sighted)) : List Sighted :=
  (history.filter fun seen ↦ NocaseEq seen.2.mac mac).map Prod.snd

/-- The table has a row for each MAC that was sighted, with what its sightings say together, and no
other. -/
def TableSummarizes (databases : Databases) (history : List (PassiveScanner × Sighted))
    (table : DevicesTable) : Prop :=
  ∀ mac, match table.select mac with
    | none => sightingsOf mac history = []
    | some row => sightingsOf mac history ≠ [] ∧
        Summarizes databases (sightingsOf mac history) row

section Histories

variable {settings : Settings} {databases : Databases} {scanner : PassiveScanner}
  {sighted : Sighted} {history : List (PassiveScanner × Sighted)} {mac : String}

theorem sightingsOf_append_same (hmac : NocaseEq sighted.mac mac) :
    sightingsOf mac (history ++ [(scanner, sighted)]) = sightingsOf mac history ++ [sighted] := by
  unfold sightingsOf
  rw [List.filter_append, List.filter_cons_of_pos (by simpa using hmac), List.map_append]
  rfl

theorem sightingsOf_append_other (hmac : ¬ NocaseEq sighted.mac mac) :
    sightingsOf mac (history ++ [(scanner, sighted)]) = sightingsOf mac history := by
  unfold sightingsOf
  rw [List.filter_append, List.filter_cons_of_neg (by simpa using hmac), List.filter_nil,
    List.append_nil]

/-- A recorded sighting is one more of those that the table summarizes. -/
theorem TableSummarizes.record {world : World} {builtAt : Instant}
    (hsummarizes : TableSummarizes databases history world.db.devices)
    (hempty : findDeviceType databases.deviceTypes "" = "") :
    TableSummarizes databases (history ++ [(scanner, sighted)])
      ((recordSighting settings (sighted.build databases builtAt) scanner.asScanner).run clocked
        world).2.db.devices := by
  intro mac
  by_cases hmac : NocaseEq sighted.mac mac
  · have hkey : NocaseEq mac (normalizeMac sighted.mac) :=
      hmac.symm.trans (nocaseEq_normalizeMac _).symm
    have hbefore := hsummarizes mac
    rw [DevicesTable.select_congr hkey] at hbefore ⊢
    rw [sightingsOf_append_same hmac]
    cases hselect : world.db.devices.select (normalizeMac sighted.mac) with
    | none =>
      rw [hselect] at hbefore
      have hrow := @row_of_recordSighting_new settings (sighted.build databases builtAt)
        scanner.asScanner world hselect
      change DevicesTable.select _ (normalizeMac sighted.mac) = _ at hrow
      rw [hrow, hbefore]
      exact ⟨List.cons_ne_nil _ _, summarizes_singleton builtAt⟩
    | some recorded =>
      rw [hselect] at hbefore
      have hrow := @row_of_recordSighting_known settings (sighted.build databases builtAt)
        recorded scanner.asScanner world hselect
      change DevicesTable.select _ (normalizeMac sighted.mac) = _ at hrow
      rw [hrow]
      have hrecorded : NocaseEq recorded.macAddress sighted.mac :=
        (DevicesTable.nocaseEq_of_select hselect).trans (nocaseEq_normalizeMac _)
      exact ⟨List.append_ne_nil_of_left_ne_nil hbefore.1 _,
        hbefore.2.append hrecorded hempty builtAt _⟩
  · have hother : ¬ NocaseEq mac (sighted.build databases builtAt).macAddress := by
      rw [Sighted.build_macAddress]
      exact fun h ↦ hmac h.symm
    rw [sightingsOf_append_other hmac, select_recordSighting_other hother]
    exact hsummarizes mac

end Histories

section Listen

variable {settings : Settings} {databases : Databases} {parse : List UInt8 → Option DnsPacket}

/-- A sighting is recorded whole: it returns, and the clock has moved on. -/
theorem run_recordSighted {scanner : PassiveScanner} {sighted : Sighted} {world : World}
    {history : List (PassiveScanner × Sighted)}
    (hsince : ∀ n, settings.since (world.clock n) ≠ none)
    (hsummarizes : TableSummarizes databases history world.db.devices)
    (hempty : findDeviceType databases.deviceTypes "" = "") :
    ∃ discovered after,
      (recordSighted settings databases scanner sighted).run clocked world =
        (some discovered, after) ∧
      discovered.scanner = scanner ∧ discovered.mac = sighted.mac ∧
      (∀ n, settings.since (after.clock n) ≠ none) ∧
      TableSummarizes databases (history ++ [(scanner, sighted)]) after.db.devices := by
  have hbuilt : ∀ n, settings.since (world.tick.clock n) ≠ none := fun n ↦ hsince (n + 1)
  obtain ⟨changes, middle, hrun⟩ := @recordSighting_returns settings
    (sighted.build databases (world.clock 0)) scanner.asScanner world.tick hbuilt
  obtain ⟨readings, hclock⟩ := clock_of_run (recordSighting settings
    (sighted.build databases (world.clock 0)) scanner.asScanner) world.tick
  have htable : TableSummarizes databases (history ++ [(scanner, sighted)]) middle.db.devices := by
    have hrecorded := @TableSummarizes.record settings databases scanner sighted history world.tick
      (world.clock 0) hsummarizes hempty
    rwa [hrun] at hrecorded
  rw [hrun] at hclock
  refine ⟨⟨scanner, sighted.mac, middle.clock 0, changes⟩, middle.tick, ?_, rfl, rfl, fun n ↦ ?_,
    htable⟩
  · unfold recordSighted
    change (recordSighting settings (sighted.build databases (world.clock 0)) scanner.asScanner >>=
      _).run clocked world.tick = _
    rw [Program.run_bind, hrun]
    rfl
  · rw [World.tick_clock, hclock]
    exact hbuilt _

theorem listen_summarizes {datagrams : List Received} {world : World}
    {history : List (PassiveScanner × Sighted)}
    (hsince : ∀ n, settings.since (world.clock n) ≠ none)
    (hsummarizes : TableSummarizes databases history world.db.devices)
    (hempty : findDeviceType databases.deviceTypes "" = "") :
    ∃ discovered after,
      (listen settings databases parse datagrams).run clocked world = (some discovered, after) ∧
      discovered.map (fun found ↦ (found.scanner, found.mac)) =
        (sightings parse datagrams).map (fun seen ↦ (seen.1, seen.2.mac)) ∧
      TableSummarizes databases (history ++ sightings parse datagrams) after.db.devices := by
  induction datagrams generalizing world history with
  | nil =>
    refine ⟨[], world, rfl, rfl, ?_⟩
    rw [sightings, List.filterMap_nil, List.append_nil]
    exact hsummarizes
  | cons received rest ih =>
    obtain ⟨sighted, hsighted⟩ := Option.ne_none_iff_exists'.mp (received.sighted_ne_none parse)
    cases sighted with
    | none =>
      have hskipped : sightings parse (received :: rest) = sightings parse rest := by
        unfold sightings
        rw [List.filterMap_cons, hsighted]
        rfl
      obtain ⟨discovered, after, hrun, hmacs, htable⟩ := ih hsince hsummarizes
      refine ⟨discovered, after, ?_, ?_, ?_⟩
      · rw [listen, hsighted]
        exact hrun
      · rw [hskipped, hmacs]
      · rw [hskipped]
        exact htable
    | some sighted =>
      have hkept : sightings parse (received :: rest) =
          (received.scanner, sighted) :: sightings parse rest := by
        unfold sightings
        rw [List.filterMap_cons, hsighted]
        rfl
      obtain ⟨first, middle, hfirst, hscanner, hmac, hclock, hmiddle⟩ :=
        @run_recordSighted settings databases received.scanner sighted world history hsince
          hsummarizes hempty
      obtain ⟨discovered, after, hrun, hmacs, htable⟩ := ih hclock hmiddle
      refine ⟨first :: discovered, after, ?_, ?_, ?_⟩
      · rw [listen, hsighted]
        change (recordSighted settings databases received.scanner sighted >>= _).run clocked world =
          _
        rw [Program.run_bind, hfirst]
        change (listen settings databases parse rest >>= _).run clocked middle = _
        rw [Program.run_bind, hrun]
        rfl
      · rw [hkept, List.map_cons, List.map_cons, hmacs, hscanner, hmac]
      · rw [hkept, List.append_cons]
        exact htable

end Listen

/-- The passive listeners invent no device and lose none. Whatever datagrams arrive at the three of
them, in any order, and as long as the deduplication window stays in the calendar and no database
call fails: none of them stops the loops; each that its parser accepts, and whose source has a MAC,
is told to the status of its listener once, in order; and the table has a row for exactly the MACs
sighted, with the first name, the last address and vendor that are not empty, and the first type
that is not. -/
theorem listeners_summarize (settings : Settings) (databases : Databases)
    (parse : List UInt8 → Option DnsPacket) (datagrams : List Received) (clock : ℕ → Instant)
    (hsince : ∀ n, settings.since (clock n) ≠ none)
    (hempty : findDeviceType databases.deviceTypes "" = "") :
    ∃ discovered after,
      (listen settings databases parse datagrams).run clocked ⟨.empty, clock⟩ =
        (some discovered, after) ∧
      discovered.map (fun found ↦ (found.scanner, found.mac)) =
        (sightings parse datagrams).map (fun seen ↦ (seen.1, seen.2.mac)) ∧
      TableSummarizes databases (sightings parse datagrams) after.db.devices :=
  @listen_summarizes settings databases parse datagrams ⟨.empty, clock⟩ [] hsince (fun _ ↦ rfl)
    hempty

/-- An announcement of the printer over IPv4, and one over IPv6. -/
def printerAnnounced : List Received := [
  ⟨.mdns, some Mdns.printerAddress, [], some ⟨[0xaa, 0, 0, 0, 0, 1], rfl⟩⟩,
  ⟨.mdns, none, [], some ⟨[0xaa, 0, 0, 0, 0, 2], rfl⟩⟩]

/-- The first is recorded, and the second is skipped. -/
theorem listeners_summarize_printerAnnounced :
    ∃ discovered after,
      (listen .default ⟨[], [], []⟩ (fun _ ↦ some Mdns.ownPacket) printerAnnounced).run clocked
        ⟨.empty, fun _ ↦ .epoch⟩ = (some discovered, after) ∧
      discovered.map (fun found ↦ (found.scanner, found.mac)) =
        [(PassiveScanner.mdns, "aa:00:00:00:00:01")] ∧
      TableSummarizes ⟨[], [], []⟩
        (sightings (fun _ ↦ some Mdns.ownPacket) printerAnnounced) after.db.devices :=
  listeners_summarize .default ⟨[], [], []⟩ (fun _ ↦ some Mdns.ownPacket) printerAnnounced
    (fun _ ↦ .epoch) (fun _ ↦ by decide) rfl

end Oott
