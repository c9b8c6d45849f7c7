import Oott.Scanners.ArpRequests
import Oott.Scanners.Listeners
import Oott.Text.Columns
import Oott.Text.Lines

/-!
# The host that an announcement comes from

`resolve_mac_address`: the MAC of an address is looked up in the neighbor cache of the system, which
is a table in text, and a host that the cache does not have is asked for with one request. However
the table lays its columns out, the entry that is read is the first one of the address
(`parseProcNetArp_eq`). When the cache and the answers are those of the hosts, an announcement is
recorded under the MAC of the host that it comes from, or not at all (`announcer_resolved`).
-/

set_option autoImplicit false
set_option relaxedAutoImplicit false

namespace Oott

/-! ### The neighbor cache -/

/-- The loop of `parse_proc_net_arp`, over the columns of the lines. -/
def macOfRows (ipStr : List Char) : List (List (List Char)) → Option String
  | [] => none
  | (first :: _ :: flags :: mac :: _) :: rest =>
    if first = ipStr then
      if flags = "0x0".toList ∨ mac = "00:00:00:00:00:00".toList then none
      else some (String.ofList mac)
    else macOfRows ipStr rest
  | _ :: rest => macOfRows ipStr rest

/-- `parse_proc_net_arp`. The first line is a header. The empty line after the last line feed, which
`lines` does not give, has no columns. -/
def parseProcNetArp (contents : String) (ip : Ipv4Addr) : Option String :=
  macOfRows ip.toText.toList
    (((Lines.lines contents.toList).drop 1).map (Columns.split isWhiteSpace))

/-- An entry of the cache. -/
structure NeighborEntry where
  address : Ipv4Addr
  flags : ℕ
  mac : MacAddr

namespace NeighborEntry

/-- The entry has been answered. -/
def Complete (entry : NeighborEntry) : Prop := entry.flags ≠ 0 ∧ entry.mac ≠ .zero

instance (entry : NeighborEntry) : Decidable entry.Complete := inferInstanceAs (Decidable (_ ∧ _))

/-- The columns of an entry: after the address the type of the hardware, and after the MAC the mask
and the interface. -/
def columns (entry : NeighborEntry) (hwType : List Char) (others : List (List Char)) :
    List (List Char) :=
  entry.address.toText.toList :: hwType :: ('0' :: 'x' :: Nat.toDigits 16 entry.flags) ::
    entry.mac.toText.toList :: others

/-- A line shows the entry. -/
def Shown (entry : NeighborEntry) (line : List Char) : Prop :=
  ∃ hwType others, Columns.Laid isWhiteSpace (entry.columns hwType others) line

end NeighborEntry

/-- `/proc/net/arp` with these entries: a header, and a line for each of them. -/
def IsNeighborTable (entries : List NeighborEntry) (contents : String) : Prop :=
  ∃ header lines, (∀ line ∈ header :: lines, '\n' ∉ line) ∧
    List.Forall₂ NeighborEntry.Shown entries lines ∧
    contents.toList = ['\n'].intercalate (header :: (lines ++ [[]]))

/-- The entry of the cache for an address, if it is complete. -/
def neighborOf (entries : List NeighborEntry) (ip : Ipv4Addr) : Option MacAddr :=
  ((entries.find? (·.address = ip)).filter (·.Complete)).map NeighborEntry.mac

section Table

variable {entries : List NeighborEntry} {ip : Ipv4Addr}

theorem toDigits_sixteen_eq_zero {n : ℕ} : Nat.toDigits 16 n = ['0'] ↔ n = 0 := by
  constructor
  · intro hdigits
    have hsmall : n < 16 := by
      have hlength := (Nat.length_toDigits_le_iff (n := n) (k := 1) (b := 16) (by decide)
        (by decide)).mp (by rw [hdigits]; exact le_rfl)
      simpa using hlength
    have hall : ∀ digit < 16, Nat.toDigits 16 digit = ['0'] → digit = 0 := by decide
    exact hall n hsmall hdigits
  · rintro rfl
    rfl

theorem Ipv4Addr.toText_injective : Function.Injective Ipv4Addr.toText :=
  fun first second htext ↦ by
    have hread := congrArg fromText htext
    rwa [fromText_toText, fromText_toText, Option.some.injEq] at hread

/-- A row is read as its entry says. -/
theorem macOfRows_columns (entry : NeighborEntry) (hwType : List Char)
    (others : List (List Char)) (rest : List (List (List Char))) :
    macOfRows ip.toText.toList (entry.columns hwType others :: rest) =
      if entry.address = ip then
        if entry.Complete then some entry.mac.toText else none
      else macOfRows ip.toText.toList rest := by
  have haddress : entry.address.toText.toList = ip.toText.toList ↔ entry.address = ip := by
    rw [String.toList_inj]
    exact Ipv4Addr.toText_injective.eq_iff
  have hflags : '0' :: 'x' :: Nat.toDigits 16 entry.flags = "0x0".toList ↔ entry.flags = 0 := by
    rw [← toDigits_sixteen_eq_zero]
    simp
  have hzero : entry.mac.toText.toList = "00:00:00:00:00:00".toList ↔ entry.mac = .zero := by
    rw [String.toList_inj]
    exact MacAddr.toText_injective.eq_iff (b := .zero)
  rw [NeighborEntry.columns, macOfRows]
  simp only [haddress, hflags, hzero, String.ofList_toList]
  by_cases hsame : entry.address = ip
  · rw [if_pos hsame, if_pos hsame]
    by_cases hcomplete : entry.Complete
    · rw [if_pos hcomplete, if_neg (not_or.mpr hcomplete)]
    · rw [if_neg hcomplete, if_pos]
      by_contra hneither
      exact hcomplete (not_or.mp hneither)
  · rw [if_neg hsame, if_neg hsame]

/-- Without a complete entry that comes first, there is none. -/
theorem neighborOf_cons (entry : NeighborEntry) (rest : List NeighborEntry) :
    neighborOf (entry :: rest) ip =
      if entry.address = ip then if entry.Complete then some entry.mac else none
      else neighborOf rest ip := by
  unfold neighborOf
  by_cases hsame : entry.address = ip
  · rw [List.find?_cons_of_pos (by simpa using hsame), if_pos hsame, Option.filter_some]
    by_cases hcomplete : entry.Complete
    · rw [if_pos hcomplete, if_pos (decide_eq_true hcomplete), Option.map_some]
    · rw [if_neg hcomplete, if_neg (by simpa using hcomplete), Option.map_none]
  · rw [List.find?_cons_of_neg (by simpa using hsame), if_neg hsame]

/-- What is read of the lines of a table is the entry of the address. -/
theorem macOfRows_shown {lines : List (List Char)}
    (hshown : List.Forall₂ NeighborEntry.Shown entries lines) :
    macOfRows ip.toText.toList ((lines ++ [[]]).map (Columns.split isWhiteSpace)) =
      (neighborOf entries ip).map MacAddr.toText := by
  induction hshown with
  | nil => rfl
  | @cons entry line entries lines hline _ ih =>
    obtain ⟨hwType, others, hlaid⟩ := hline
    rw [List.cons_append, List.map_cons, Columns.split_eq_iff_laid.mpr hlaid,
      macOfRows_columns, neighborOf_cons, ih]
    split_ifs with hsame hcomplete
    · rfl
    · rfl
    · rfl

/-- Of a table, the parser reads the first entry of the address, if it is complete. -/
theorem parseProcNetArp_eq {contents : String} (htable : IsNeighborTable entries contents) :
    parseProcNetArp contents ip = (neighborOf entries ip).map MacAddr.toText := by
  obtain ⟨header, lines, hlines, hshown, hcontents⟩ := htable
  have hended : ∀ line ∈ header :: lines ++ [[]], '\n' ∉ line := by
    intro line hline
    rcases List.mem_append.mp hline with hline | hline
    · exact hlines line hline
    · rw [List.mem_singleton.mp hline]
      exact List.not_mem_nil
  have hreturn : ∀ line, Columns.split isWhiteSpace (line ++ ['\r']) =
      Columns.split isWhiteSpace line := fun line ↦ Columns.split_append_gap line (by decide)
  unfold parseProcNetArp
  rw [List.map_drop, Lines.map_lines hreturn, hcontents, ← List.cons_append,
    List.splitOn_intercalate '\n' hended (by simp), List.cons_append, List.map_cons,
    List.drop_one, List.tail_cons, macOfRows_shown hshown]

end Table

/-! ### The lookup -/

/-- `probe_mac`, with what comes in on the interface that it takes. -/
def probe (allInterfaces : List NetworkInterface) (interface : Option String)
    (channel : NetworkInterface → Option (List Reception)) (targetIp : Ipv4Addr) :
    Option MacAddr := do
  let iface ← selectInterface allInterfaces interface
  let _ ← iface.mac
  let _ ← iface.ipv4Net
  let receptions ← channel iface
  probeMac targetIp receptions

/-- `resolve_mac_address`, with the contents of the cache, if it can be read, and what the probe
gives. -/
def resolveMacAddress (contents : Option String) (probed : Option MacAddr) (ip : Ipv4Addr) :
    Option MacAddr :=
  match contents.bind (parseProcNetArp · ip) with
  | some mac => MacAddr.fromText mac
  | none => probed

/-- The cache is asked first, when it can be read. -/
theorem resolveMacAddress_eq {entries : List NeighborEntry} {contents : Option String}
    (htable : ∀ text ∈ contents, IsNeighborTable entries text) (probed : Option MacAddr)
    (ip : Ipv4Addr) :
    resolveMacAddress contents probed ip =
      (contents.bind fun _ ↦ neighborOf entries ip).or probed := by
  cases contents with
  | none => rfl
  | some text =>
    unfold resolveMacAddress
    rw [Option.bind_some, Option.bind_some, parseProcNetArp_eq (htable text rfl)]
    cases neighborOf entries ip with
    | none => rfl
    | some mac => exact MacAddr.fromText_toText mac

section Truthful

variable {hosts : Ipv4Addr → Option MacAddr} {entries : List NeighborEntry} {ip : Ipv4Addr}
  {mac : MacAddr} {askerIp : Ipv4Addr} {receptions : List Reception}

theorem neighborOf_truthful
    (hcache : ∀ entry ∈ entries, entry.Complete → hosts entry.address = some entry.mac)
    {found : MacAddr} (hfound : neighborOf entries ip = some found) : hosts ip = some found := by
  obtain ⟨entry, hentry, rfl⟩ := Option.map_eq_some_iff.mp hfound
  obtain ⟨hfirst, hcomplete⟩ := Option.filter_eq_some_iff.mp hentry
  have hsame : entry.address = ip := by simpa using List.find?_some hfirst
  rw [← hsame]
  exact hcache entry (List.mem_of_find?_eq_some hfirst) (of_decide_eq_true hcomplete)

/-- What a probe receives for an address is the host's answer. -/
theorem probeMac_truthful
    (hheard : ∀ reception ∈ receptions, Heard hosts [requestFrame mac askerIp ip] reception.buffer)
    {found : MacAddr} (hfound : probeMac ip receptions = some found) : hosts ip = some found := by
  rw [probeMac_eq] at hfound
  obtain ⟨reception, hreception, hreply⟩ := List.exists_of_findSome?_eq_some hfound
  obtain ⟨reply, hreply, hmac⟩ := Option.bind_eq_some_iff.mp hreply
  obtain ⟨frame, hbuffer, hframe⟩ := Option.bind_eq_some_iff.mp hreply
  unfold macOfReply at hmac
  split at hmac
  next hsame =>
    cases hmac
    rw [← hsame]
    exact (hheard reception hreception).truthful
      (fun frame hframe ↦ ⟨ip, List.mem_singleton.mp hframe⟩) frame hbuffer reply hframe
  next => cases hmac

/-- An answer ends the probe. -/
theorem probeMac_isSome {host : MacAddr} {padding : List UInt8} {reception : Reception}
    (hreception : reception ∈ receptions)
    (hbuffer : reception.buffer = some (answerFrame host ip mac askerIp ++ padding)) :
    (probeMac ip receptions).isSome := by
  rw [probeMac_eq, List.findSome?_isSome_iff]
  refine ⟨reception, hreception, ?_⟩
  rw [hbuffer, Option.bind_some, arpReplyOf_answerFrame, Option.bind_some, macOfReply, if_pos rfl,
    Option.isSome_some]

end Truthful

/-- An interface is chosen that has a MAC and an IPv4 address, and this is received on it. -/
def Probes (allInterfaces : List NetworkInterface) (interface : Option String)
    (channel : NetworkInterface → Option (List Reception)) (mac : MacAddr) (askerIp : Ipv4Addr)
    (receptions : List Reception) : Prop :=
  ∃ iface network, selectInterface allInterfaces interface = some iface ∧ iface.mac = some mac ∧
    iface.ipv4Net = some network ∧ network.ip = askerIp ∧ channel iface = some receptions

section Probe

variable {allInterfaces : List NetworkInterface} {interface : Option String}
  {channel : NetworkInterface → Option (List Reception)} {mac found : MacAddr}
  {askerIp ip : Ipv4Addr} {receptions : List Reception}

theorem Probes.probe_eq
    (hprobes : Probes allInterfaces interface channel mac askerIp receptions) :
    probe allInterfaces interface channel ip = probeMac ip receptions := by
  obtain ⟨iface, network, hchosen, hmac, hnetwork, -, hchannel⟩ := hprobes
  unfold probe
  simp only [hchosen, hmac, hnetwork, hchannel, Option.bind_eq_bind, Option.bind_some]

theorem exists_probes (hfound : probe allInterfaces interface channel ip = some found) :
    ∃ mac askerIp receptions, Probes allInterfaces interface channel mac askerIp receptions := by
  unfold probe at hfound
  simp only [Option.bind_eq_bind] at hfound
  obtain ⟨iface, hchosen, hfound⟩ := Option.bind_eq_some_iff.mp hfound
  obtain ⟨mac, hmac, hfound⟩ := Option.bind_eq_some_iff.mp hfound
  obtain ⟨network, hnetwork, hfound⟩ := Option.bind_eq_some_iff.mp hfound
  obtain ⟨receptions, hchannel, -⟩ := Option.bind_eq_some_iff.mp hfound
  exact ⟨mac, network.ip, receptions, iface, network, hchosen, hmac, hnetwork, rfl, hchannel⟩

end Probe

/-- For every cache whose complete entries are those of hosts, and every probe during which the
hosts answer as they are asked, with whatever else is received there: an announcement is passed on
under the MAC of the host of its address, or not at all, and it is passed on when the first entry of
the address is complete, or the host's answer is received. -/
theorem announcer_resolved {hosts : Ipv4Addr → Option MacAddr} {entries : List NeighborEntry}
    {contents : Option String} {allInterfaces : List NetworkInterface} {interface : Option String}
    {channel : NetworkInterface → Option (List Reception)} {srcIp : Ipv4Addr}
    (htable : ∀ text ∈ contents, IsNeighborTable entries text)
    (hcache : ∀ entry ∈ entries, entry.Complete → hosts entry.address = some entry.mac)
    (hheard : ∀ mac askerIp receptions,
      Probes allInterfaces interface channel mac askerIp receptions →
      ∀ reception ∈ receptions, Heard hosts [requestFrame mac askerIp srcIp] reception.buffer)
    (name : Option String) (serviceHints : List String) :
    let announced := processAnnouncement
      (resolveMacAddress contents (probe allInterfaces interface channel srcIp) srcIp) srcIp name
      serviceHints
    (∀ sighted, announced = some sighted → ∃ host, hosts srcIp = some host ∧
      sighted = ⟨host.toText, srcIp.toText, serviceHints, name⟩) ∧
    (contents.isSome → (∃ entry, entries.find? (·.address = srcIp) = some entry ∧ entry.Complete) →
      announced.isSome) ∧
    ∀ mac askerIp receptions, Probes allInterfaces interface channel mac askerIp receptions →
      (∃ reception ∈ receptions, ∃ host padding,
        reception.buffer = some (answerFrame host srcIp mac askerIp ++ padding)) →
      announced.isSome := by
  intro announced
  have hannounced : announced = processAnnouncement ((contents.bind fun _ ↦
      neighborOf entries srcIp).or (probe allInterfaces interface channel srcIp)) srcIp name
      serviceHints := by
    unfold announced
    rw [resolveMacAddress_eq htable]
  refine ⟨fun sighted hsighted ↦ ?_, fun hread hentry ↦ ?_, ?_⟩
  · rw [hannounced] at hsighted
    obtain ⟨found, hfound, rfl⟩ := Option.map_eq_some_iff.mp hsighted
    refine ⟨found, ?_, rfl⟩
    rcases Option.or_eq_some_iff.mp hfound with hcached | ⟨-, hprobed⟩
    · obtain ⟨-, -, hneighbor⟩ := Option.bind_eq_some_iff.mp hcached
      exact neighborOf_truthful hcache hneighbor
    · obtain ⟨mac, askerIp, receptions, hprobes⟩ := exists_probes hprobed
      rw [hprobes.probe_eq] at hprobed
      exact probeMac_truthful (hheard mac askerIp receptions hprobes) hprobed
  · obtain ⟨entry, hfirst, hcomplete⟩ := hentry
    obtain ⟨text, rfl⟩ := Option.isSome_iff_exists.mp hread
    rw [hannounced, processAnnouncement, Option.isSome_map, Option.bind_some, neighborOf, hfirst,
      Option.filter_some, if_pos (decide_eq_true hcomplete)]
    rfl
  · rintro mac askerIp receptions hprobes ⟨reception, hreception, host, padding, hbuffer⟩
    rw [hannounced, processAnnouncement, Option.isSome_map, Option.isSome_or, hprobes.probe_eq,
      probeMac_isSome hreception hbuffer, Bool.or_true]

/-- The first line of the table. -/
def cacheHeader : String :=
  "IP address       HW type     Flags       HW address            Mask     Device"

/-- The line of the host 192.168.7.10. -/
def cacheLine : String :=
  "192.168.7.10     0x1         0x2         ac:00:00:00:00:07     *        eth0"

/-- What a probe receives: a frame that ends within its header, and the host's padded answer. -/
def probeReceptions : List Reception := [⟨some [0xff, 0xff], .epoch⟩, smallAnswer]

theorem heard_probeReceptions :
    ∀ mac askerIp receptions,
      Probes [smallInterface] none (fun _ ↦ some probeReceptions) mac askerIp receptions →
      ∀ reception ∈ receptions,
        Heard smallHosts [requestFrame mac askerIp ⟨[192, 168, 7, 10], rfl⟩] reception.buffer := by
  rintro mac askerIp receptions ⟨iface, network, hchosen, hmac, hnetwork, rfl, ⟨⟩⟩
  obtain rfl : smallInterface = iface := Option.some.inj hchosen
  obtain rfl : (⟨[2, 0, 0, 0, 7, 9], rfl⟩ : MacAddr) = mac := Option.some.inj hmac
  obtain rfl : smallNetwork = network := Option.some.inj hnetwork
  simp only [probeReceptions, List.forall_mem_cons, List.not_mem_nil, false_implies,
    implies_true, and_true]
  refine ⟨.other ?_, .answer _ List.mem_cons_self (answerTo_requestFrame.trans rfl)⟩
  rintro reply ⟨⟩

/-- The host is in the cache. Where the cache cannot be read, it answers the probe. -/
theorem announcer_resolved_cached :
    (processAnnouncement (resolveMacAddress (some (cacheHeader ++ "\n" ++ cacheLine ++ "\n"))
        (probe [smallInterface] none (fun _ ↦ some probeReceptions) ⟨[192, 168, 7, 10], rfl⟩)
        ⟨[192, 168, 7, 10], rfl⟩) ⟨[192, 168, 7, 10], rfl⟩ (some "printer") []).isSome ∧
      (processAnnouncement (resolveMacAddress none
        (probe [smallInterface] none (fun _ ↦ some probeReceptions) ⟨[192, 168, 7, 10], rfl⟩)
        ⟨[192, 168, 7, 10], rfl⟩) ⟨[192, 168, 7, 10], rfl⟩ (some "printer") []).isSome := by
  have htable : IsNeighborTable [⟨⟨[192, 168, 7, 10], rfl⟩, 2, ⟨[0xac, 0, 0, 0, 0, 7], rfl⟩⟩]
      (cacheHeader ++ "\n" ++ cacheLine ++ "\n") := by
    refine ⟨cacheHeader.toList, [cacheLine.toList], by decide +kernel,
      .cons ⟨"0x1".toList, ["*".toList, "eth0".toList], ?_⟩ .nil, by decide +kernel⟩
    decide +kernel
  have hcache : ∀ entry ∈ [(⟨⟨[192, 168, 7, 10], rfl⟩, 2, ⟨[0xac, 0, 0, 0, 0, 7], rfl⟩⟩ :
      NeighborEntry)], entry.Complete → smallHosts entry.address = some entry.mac := by
    intro entry hentry _
    rw [List.mem_singleton.mp hentry]
    rfl
  obtain ⟨-, hcached, -⟩ := announcer_resolved (fun text htext ↦ Option.some.inj htext ▸ htable)
    hcache heard_probeReceptions (some "printer") []
  obtain ⟨-, -, hprobed⟩ := announcer_resolved
    (fun text (htext : text ∈ (none : Option String)) ↦ nomatch htext) hcache heard_probeReceptions
    (some "printer") []
  exact ⟨hcached rfl ⟨_, rfl, by decide⟩,
    hprobed _ _ _ ⟨_, smallNetwork, rfl, rfl, rfl, rfl, rfl⟩
      ⟨_, List.mem_cons_of_mem _ List.mem_cons_self, _, _, rfl⟩⟩

end Oott
