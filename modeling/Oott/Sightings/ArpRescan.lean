import Oott.Scanners.Arp
import Oott.Sightings.Scan
import Oott.Utils.Addresses

/-!
# Rescanning with ARP

The ARP scanner hands every reply to `record_sighting`, also when one MAC has replied several times.
The scanner for SNMP collapses its rows to one address for each MAC, because persisting each in turn
"makes the stored IP flap back and forth, emitting a `DeviceChanged` every scan". The ARP scanner
has no such step: once the events of a first pass are older than the deduplication window, a second
pass over the same replies is uneventful exactly when each MAC has replied from one address only
(`arp_rescan_uneventful_iff`).
-/

set_option autoImplicit false
set_option relaxedAutoImplicit false

namespace Oott

open Effects

/-! ### The devices of the receive loop -/

section Replies

variable {databases : Databases} {ip : Ipv4Addr} {receptions : List Reception}
  {devices : List Device} {device other : Device}

/-- Each device that the loop returns is built from a reply. -/
theorem exists_reply_of_mem (hlisten : listenForPackets databases ip receptions = some devices)
    (hdevice : device ∈ devices) : ∃ (mac : MacAddr) (address : Ipv4Addr) (instant : Instant),
      device = buildDevice databases mac.toText address.toText [] none instant := by
  by_cases hlong : ∀ reception ∈ receptions, reception.LongEnough
  · rw [(listenForPackets_eq_iff databases ip receptions).mpr hlong, Option.some.injEq] at hlisten
    rw [← hlisten] at hdevice
    obtain ⟨reception, -, hreply⟩ := List.mem_filterMap.mp hdevice
    obtain ⟨reply, -, hreply⟩ := Option.bind_eq_some_iff.mp hreply
    unfold deviceOfReply at hreply
    split_ifs at hreply
    cases hreply
    exact ⟨_, _, _, rfl⟩
  · have hshort : ∃ reception ∈ receptions, ¬ reception.LongEnough := by
      simpa only [not_forall, exists_prop] using hlong
    have hnone : listenForPackets databases ip receptions = none :=
      foldlM_listenOnce_eq_none hshort []
    rw [hlisten] at hnone
    cases hnone

theorem ipv4Address_ne_empty_of_reply
    (hlisten : listenForPackets databases ip receptions = some devices)
    (hdevice : device ∈ devices) : device.ipv4Address ≠ "" := by
  obtain ⟨mac, address, instant, rfl⟩ := exists_reply_of_mem hlisten hdevice
  exact address.toText_ne_empty

/-- Replies of one MAC, in any letter case, have its text and its vendor. -/
theorem macAddress_eq_of_reply
    (hlisten : listenForPackets databases ip receptions = some devices) (hdevice : device ∈ devices)
    (hother : other ∈ devices) (hmac : NocaseEq device.macAddress other.macAddress) :
    device.macAddress = other.macAddress ∧ device.vendor = other.vendor := by
  obtain ⟨mac, address, instant, rfl⟩ := exists_reply_of_mem hlisten hdevice
  obtain ⟨mac', address', instant', rfl⟩ := exists_reply_of_mem hlisten hother
  have hsame : mac.toText = mac'.toText := nocaseEq_formatMac_iff.mp hmac
  refine ⟨hsame, ?_⟩
  change deducedVendor databases mac.toText [] = deducedVendor databases mac'.toText []
  rw [hsame]

end Replies

/-! ### Events of a scan -/

section Events

variable {settings : Settings} {scanner : DeviceEventScanner} {device : Device}
  {devices : List Device} {world after : World} {changes : List DeviceChange}

/-- A sighting keeps the events that there are. -/
theorem event_of_recordSighting {event : DeviceEvent} (hevent : event ∈ world.db.deviceEvents) :
    event ∈ ((recordSighting settings device scanner).run clocked world).2.db.deviceEvents := by
  have hkept {reported : Device} : KeptByRecording settings reported scanner
      fun world ↦ event ∈ world.db.deviceEvents :=
    ⟨fun _ hmem ↦ hmem, fun _ _ _ hmem _ _ ↦ List.mem_append_left _ hmem⟩
  cases hselect : world.db.devices.select (normalizeMac device.macAddress) with
  | some recorded =>
    rw [run_recordSighting_known hselect]
    exact recordKnownDevice_keeps hkept recorded _ hevent
  | none =>
    obtain ⟨table, -, hrun⟩ := @run_recordSighting_new settings device scanner world hselect
    rw [hrun]
    exact (recordNewDevice_keeps hkept).bind (fun _ ↦ .ret _) _ hevent

/-- When a sighting returns, there is an event of the device. -/
theorem exists_event_of_recordSighting
    (hrun : (recordSighting settings device scanner).run clocked world = (some changes, after)) :
    ∃ event ∈ after.db.deviceEvents, NocaseEq event.macAddress device.macAddress := by
  cases hselect : world.db.devices.select (normalizeMac device.macAddress) with
  | some recorded =>
    rw [run_recordSighting_known hselect] at hrun
    have hevent := exists_event_of_recordKnownDevice hrun
    exact hevent
  | none =>
    obtain ⟨table, -, hnew⟩ := @run_recordSighting_new settings device scanner world hselect
    rw [hnew] at hrun
    obtain ⟨change, middle, hrun, hret⟩ := Program.run_bind_eq_some _ hrun
    cases hret
    obtain ⟨recorded, middle, hrun, hret⟩ := Program.run_bind_eq_some _ hrun
    cases hret
    obtain ⟨since, inserted, -, hrecords, hevent⟩ := recordDeviceEvent_spec hrun
    rw [hrecords.deviceEvents]
    rcases hevent with ⟨-, -, row, hrow, hmatches⟩ | ⟨-, -, event, hevent, hdescribes, -⟩
    · exact ⟨row, List.mem_append_left _ hrow, hmatches.1.trans (nocaseEq_normalizeMac _)⟩
    · refine ⟨event, List.mem_append_right _ (hevent ▸ List.mem_singleton_self event), ?_⟩
      rw [hdescribes.macAddress]
      exact nocaseEq_normalizeMac _

/-- When a scan returns, there is an event of each of its devices. -/
theorem exists_event_of_recordSightings
    (hrun : (recordSightings settings scanner devices).run clocked world = (some changes, after)) :
    ∀ device ∈ devices, ∃ event ∈ after.db.deviceEvents,
      NocaseEq event.macAddress device.macAddress := by
  induction devices generalizing world changes with
  | nil => exact List.forall_mem_nil _
  | cons device rest ih =>
    obtain ⟨first, middle, later, hfirst, hrest, -⟩ := run_recordSightings_cons hrun
    refine List.forall_mem_cons.mpr ⟨?_, ih hrest⟩
    obtain ⟨event, hevent, hmac⟩ := exists_event_of_recordSighting hfirst
    have hkept : (recordSightings settings scanner rest).Keeps clocked
        fun world ↦ event ∈ world.db.deviceEvents :=
      recordSightings_keeps (fun _ _ hmem ↦ event_of_recordSighting hmem) rest
    have hlast := hkept middle hevent
    rw [hrest] at hlast
    exact ⟨event, hlast, hmac⟩

end Events

/-! ### A second pass -/

/-- The device has a row with an address, and with its vendor where it has one. -/
def Database.Knows (db : Database) (device : Device) : Prop :=
  ∃ row, db.devices.select (normalizeMac device.macAddress) = some row ∧ row.ipv4Address ≠ "" ∧
    (device.vendor = "" ∨ row.vendor = device.vendor)

/-- Every `DeviceChanged` event of the device is older than the window, at every reading of the
clock. -/
def World.NoneChanged (settings : Settings) (macAddress : String) (world : World) : Prop :=
  ∀ n, ∀ event ∈ world.db.deviceEvents, event.eventType = .deviceChanged →
    NocaseEq event.macAddress macAddress →
      event.createdOn.nanos + settings.deduplicationWindow.nanos < (world.clock n).nanos

section SecondPass

variable {settings : Settings} {scanner : DeviceEventScanner} {device other : Device}
  {devices : List Device} {world after : World} {changes : List DeviceChange}

/-- What settles a device makes every device with its MAC and its vendor known. -/
theorem Database.Settled.knows {db : Database} (hipv4 : device.ipv4Address ≠ "")
    (hmac : NocaseEq other.macAddress device.macAddress) (hvendor : other.vendor = device.vendor)
    (hsettled : db.Settled device) : db.Knows other := by
  obtain ⟨row, hrow, hsettles⟩ := hsettled
  refine ⟨row, (DevicesTable.select_congr (normalizeMac_congr hmac)).trans hrow, ?_, ?_⟩
  · rw [hsettles.ipv4Address]
    exact hipv4
  · rw [hvendor]
    exact hsettles.vendor

/-- A sighting makes its device known, and leaves known those that are. -/
theorem knows_of_recordSighting (hipv4 : device.ipv4Address ≠ "")
    (hvendor : NocaseEq other.macAddress device.macAddress → other.vendor = device.vendor)
    (hknows : NocaseEq other.macAddress device.macAddress ∨ world.db.Knows other)
    (hrun : (recordSighting settings device scanner).run clocked world = (some changes, after)) :
    after.db.Knows other := by
  by_cases hmac : NocaseEq other.macAddress device.macAddress
  · have hown : ((recordSighting settings device scanner).run clocked world).2.db.Settled device :=
      settled_of_recordSighting hipv4
    rw [hrun] at hown
    exact hown.knows hipv4 hmac (hvendor hmac)
  · obtain ⟨row, hrow, hrest⟩ := hknows.resolve_left hmac
    have hkey : ¬ NocaseEq (normalizeMac other.macAddress) device.macAddress :=
      fun h ↦ hmac ((nocaseEq_normalizeMac _).symm.trans h)
    have hkept := @recordSighting_other settings device scanner world _ row hkey hrow
    rw [hrun] at hkept
    exact ⟨row, hkept, hrest⟩

/-- A scan makes its devices known, and leaves known those that are. -/
theorem knows_of_recordSightings (hipv4 : ∀ device ∈ devices, device.ipv4Address ≠ "")
    (hvendor : ∀ device ∈ devices, NocaseEq other.macAddress device.macAddress →
      other.vendor = device.vendor)
    (hknows : (∃ device ∈ devices, NocaseEq other.macAddress device.macAddress) ∨
      world.db.Knows other)
    (hrun : (recordSightings settings scanner devices).run clocked world = (some changes, after)) :
    after.db.Knows other := by
  induction devices generalizing world changes with
  | nil =>
    cases hrun
    exact hknows.resolve_left fun ⟨_, hmem, _⟩ ↦ List.not_mem_nil hmem
  | cons device rest ih =>
    obtain ⟨first, middle, later, hfirst, hrest, -⟩ := run_recordSightings_cons hrun
    obtain ⟨hdevice, hothers⟩ := List.forall_mem_cons.mp hipv4
    obtain ⟨hown, hlater⟩ := List.forall_mem_cons.mp hvendor
    refine ih hothers hlater ?_ hrest
    by_cases hmac : ∃ device ∈ rest, NocaseEq other.macAddress device.macAddress
    · exact Or.inl hmac
    · refine Or.inr (knows_of_recordSighting hdevice hown (hknows.imp_left ?_) hfirst)
      rintro ⟨found, hfound, hsame⟩
      rcases List.mem_cons.mp hfound with rfl | hrest
      · exact hsame
      · exact absurd ⟨found, hrest, hsame⟩ hmac

/-- Tables with the same addresses have the same address for each MAC. -/
theorem ipv4Address_of_addresses {db later : Database} (haddresses : later.addresses = db.addresses)
    (macAddress : String) :
    (later.devices.select macAddress).map Device.ipv4Address =
      (db.devices.select macAddress).map Device.ipv4Address := by
  have hselect (table : Database) : (table.devices.select macAddress).map Device.ipv4Address =
      (table.addresses.find? fun pair ↦ NocaseEq pair.1 macAddress).map Prod.snd := by
    unfold Database.addresses DevicesTable.select
    rw [List.find?_map, Option.map_map]
    rfl
  rw [hselect, hselect, haddresses]

/-- With every `DeviceChanged` event of the device older than the window, an uneventful sighting of
a known device has the stored address, leaves every stored address as it is, and adds no
`DeviceChanged` event. -/
theorem unchanged_of_uneventful {row : Device} (hipv4 : device.ipv4Address ≠ "")
    (hrow : world.db.devices.select (normalizeMac device.macAddress) = some row)
    (hstored : row.ipv4Address ≠ "") (hnone : world.NoneChanged settings device.macAddress)
    (hrun : (recordSighting settings device scanner).run clocked world = (some changes, after))
    (huneventful : Uneventful changes) :
    row.ipv4Address = device.ipv4Address ∧ after.db.addresses = world.db.addresses ∧
      ∀ event ∈ after.db.deviceEvents, event.eventType = .deviceChanged →
        event ∈ world.db.deviceEvents := by
  have hreconciled : (reconcile row device).ipv4Address = device.ipv4Address := by
    simp [reconcile, hipv4]
  have hknown := hrun
  rw [run_recordSighting_known hrow] at hknown
  obtain ⟨inserted, readings, -, -, hannounced⟩ := recordKnownDevice_spec hknown
  have hsame : row.ipv4Address = device.ipv4Address := by
    by_contra hne
    have hchanged : ipChanged row.ipv4Address (reconcile row device).ipv4Address = true := by
      rw [hreconciled]
      exact (ipChanged_iff _ _).mpr ⟨hstored, hipv4, hne⟩
    rcases hannounced _ (changed_mem_changesAt.mpr ⟨Or.inl hchanged, rfl, rfl, rfl, rfl⟩) with
      ⟨hmem, -⟩ | ⟨n, -, since, hstart, event, hevent, hmatches⟩
    · exact absurd (huneventful _ hmem).2 (by simp [DeviceChange.isChanged])
    · have hold := hnone (n + 1) event hevent hmatches.2.2.1
        (hmatches.1.trans (nocaseEq_normalizeMac _))
      have hage := Settings.age_le_of_since hstart hmatches.2.2.2
      change (world.clock (n + 1)).nanos - event.createdOn.nanos ≤ _ at hage
      omega
  have haddresses := @addresses_of_recordSighting settings device scanner world row hrow
    (hreconciled.trans hsame.symm)
  rw [hrun] at haddresses
  refine ⟨hsame, haddresses, fun event hevent htype ↦ ?_⟩
  rcases eventType_of_recordKnownDevice hknown event hevent with hold | hseen | ⟨change, hmem, hown⟩
  · exact hold
  · rw [htype] at hseen
    cases hseen
  · rw [htype] at hown
    cases change with
    | new device => cases hown
    | backOnline device absentFor => cases hown
    | changed old seen ipFlag vendorFlag => exact absurd (huneventful _ hmem).2 Bool.noConfusion

/-- With every `DeviceChanged` event of its devices older than the window, an uneventful scan of
known devices has the stored addresses. -/
theorem stored_of_uneventful (hipv4 : ∀ device ∈ devices, device.ipv4Address ≠ "")
    (hvendor : ∀ device ∈ devices, ∀ other ∈ devices,
      NocaseEq device.macAddress other.macAddress → device.vendor = other.vendor)
    (hknows : ∀ device ∈ devices, world.db.Knows device)
    (hnone : ∀ device ∈ devices, world.NoneChanged settings device.macAddress)
    (hrun : (recordSightings settings scanner devices).run clocked world = (some changes, after))
    (huneventful : Uneventful changes) :
    ∀ device ∈ devices, (world.db.devices.select (normalizeMac device.macAddress)).map
      Device.ipv4Address = some device.ipv4Address := by
  induction devices generalizing world changes with
  | nil => exact List.forall_mem_nil _
  | cons device rest ih =>
    obtain ⟨first, middle, later, hfirst, hrest, rfl⟩ := run_recordSightings_cons hrun
    obtain ⟨hfirstUneventful, hlater⟩ := List.forall_mem_append.mp huneventful
    obtain ⟨hdevice, hothers⟩ := List.forall_mem_cons.mp hipv4
    obtain ⟨row, hrow, hstored, -⟩ := hknows device List.mem_cons_self
    obtain ⟨hsame, haddresses, hevents⟩ := unchanged_of_uneventful hdevice hrow hstored
      (hnone device List.mem_cons_self) hfirst hfirstUneventful
    obtain ⟨readings, hclock⟩ := clock_of_run (recordSighting settings device scanner) world
    rw [hfirst] at hclock
    refine List.forall_mem_cons.mpr ⟨?_, fun other hother ↦ ?_⟩
    · rw [hrow, Option.map_some, hsame]
    · rw [← ipv4Address_of_addresses haddresses]
      refine ih hothers (fun one hone two htwo ↦ hvendor one (List.mem_cons_of_mem _ hone) two
        (List.mem_cons_of_mem _ htwo)) (fun known hmem ↦ ?_) (fun known hmem n event hevent htype
        hmac ↦ ?_) hrest hlater other hother
      · exact knows_of_recordSighting hdevice (hvendor known (List.mem_cons_of_mem _ hmem) device
          List.mem_cons_self) (Or.inr (hknows known (List.mem_cons_of_mem _ hmem))) hfirst
      · rw [hclock]
        exact hnone known (List.mem_cons_of_mem _ hmem) (n + readings) event
          (hevents event hevent htype) htype hmac

end SecondPass

/-- The ARP scanner records the same replies twice, the second time when every event of their
devices is older than the deduplication window, with nothing written in between. The second pass
returns no `New` and no `Changed` entry exactly when each MAC has replied from one address only. -/
theorem arp_rescan_uneventful_iff (settings : Settings) {databases : Databases} {ip : Ipv4Addr}
    {receptions : List Reception} {devices : List Device} {world first second : World}
    {found : List DeviceChange}
    (hlisten : listenForPackets databases ip receptions = some devices)
    (hfirst : (recordSightings settings .arp devices).run clocked world = (some found, first))
    (hdb : second.db = first.db)
    (houtside : ∀ device ∈ devices, second.OutsideWindow settings device.macAddress) :
    ∃ again last,
      (recordSightings settings .arp devices).run clocked second = (some again, last) ∧
        (Uneventful again ↔ ∀ device ∈ devices, ∀ other ∈ devices,
          device.macAddress = other.macAddress → device.ipv4Address = other.ipv4Address) := by
  have hipv4 : ∀ device ∈ devices, device.ipv4Address ≠ "" :=
    fun device hdevice ↦ ipv4Address_ne_empty_of_reply hlisten hdevice
  have hreplies : ∀ device ∈ devices, ∀ other ∈ devices,
      NocaseEq device.macAddress other.macAddress →
        device.macAddress = other.macAddress ∧ device.vendor = other.vendor :=
    fun device hdevice other hother ↦ macAddress_eq_of_reply hlisten hdevice hother
  have hreturns : ∃ again last,
      (recordSightings settings .arp devices).run clocked second = (some again, last) := by
    cases devices with
    | nil => exact ⟨_, _, rfl⟩
    | cons device rest =>
      obtain ⟨event, hevent, hmac⟩ := exists_event_of_recordSightings hfirst device
        List.mem_cons_self
      rw [← hdb] at hevent
      exact recordSightings_returns _ fun n ↦
        (houtside device List.mem_cons_self).since_ne_none hevent hmac n
  obtain ⟨again, last, hsecond⟩ := hreturns
  refine ⟨again, last, hsecond, fun huneventful device hdevice other hother hmac ↦ ?_,
    fun hone ↦ ?_⟩
  · have hknows : ∀ device ∈ devices, second.db.Knows device := by
      rw [hdb]
      exact fun device hdevice ↦ knows_of_recordSightings hipv4
        (fun other hother hmac ↦ (hreplies device hdevice other hother hmac).2)
        (Or.inl ⟨device, hdevice, NocaseEq.refl _⟩) hfirst
    have hstored := stored_of_uneventful hipv4
      (fun one hone two htwo hmac ↦ (hreplies one hone two htwo hmac).2) hknows
      (fun known hmem n event hevent _ ↦ houtside known hmem n event hevent) hsecond huneventful
    have hsame := (hstored device hdevice).symm.trans (hmac ▸ hstored other hother)
    exact Option.some.inj hsame
  · have hagree : Agree devices := fun one hmem two hmem' hmac ↦
      let ⟨hsame, hvendor⟩ := hreplies one hmem two hmem' hmac
      ⟨hone one hmem two hmem' hsame, hvendor⟩
    have hsettled : ∀ device ∈ devices, second.db.Settled device := by
      rw [hdb]
      exact recordSightings_settles hipv4 (show Agree ([] ++ devices) from hagree)
        (List.forall_mem_nil _) hfirst
    exact (recordSightings_uneventful hipv4 hagree hsettled hsecond).1

/-- A reply to 10.0.0.9 from 10.0.0.2, with the MAC of the reply from 10.0.0.1. -/
def secondReplyFrame : List UInt8 :=
  [0x02, 0, 0, 0, 0, 9, 0xaa, 0, 0, 0, 0, 1, 0x08, 0x06,
    0, 1, 0x08, 0, 6, 4, 0, 2, 0xaa, 0, 0, 0, 0, 1, 10, 0, 0, 2, 0x02, 0, 0, 0, 0, 9, 10, 0, 0, 9]

/-- What the receive loop has of the frames, all received at the epoch. -/
def repliesOf (frames : List (List UInt8)) : List Device :=
  (listenForPackets ⟨[], [], []⟩ ⟨[10, 0, 0, 9], rfl⟩
    (frames.map fun frame ↦ ⟨some frame, .epoch⟩)).getD []

/-- The world after a first pass over the replies at the epoch, when the next day has begun. -/
def nextDayAfter (frames : List (List UInt8)) : World :=
  .still ((recordSightings .default .arp (repliesOf frames)).run clocked
    (.still .empty .epoch)).2.db .nextDay

theorem outsideWindow_nextDayAfter {frames : List (List UInt8)} {macAddress : String}
    (hevents : ∀ event ∈ (nextDayAfter frames).db.deviceEvents, event.createdOn = .epoch) :
    (nextDayAfter frames).OutsideWindow .default macAddress := by
  intro n event hevent _
  rw [hevents event hevent]
  exact (by decide : Instant.epoch.nanos + Settings.default.deduplicationWindow.nanos <
    Instant.nextDay.nanos)

theorem exists_firstPass {frames : List (List UInt8)}
    (hreturned : ((recordSightings .default .arp (repliesOf frames)).run clocked
      (.still .empty .epoch)).1.isSome = true) :
    ∃ found first, (recordSightings .default .arp (repliesOf frames)).run clocked
      (.still .empty .epoch) = (some found, first) ∧ (nextDayAfter frames).db = first.db := by
  obtain ⟨found, hfound⟩ := Option.isSome_iff_exists.mp hreturned
  exact ⟨found, _, Prod.ext hfound rfl, rfl⟩

/-- One MAC that replies from one address: the next day's pass is uneventful. -/
theorem arp_rescan_uneventful_iff_oneAddress : ∃ again last,
    (recordSightings .default .arp (repliesOf [replyFrame])).run clocked
      (nextDayAfter [replyFrame]) = (some again, last) ∧ Uneventful again := by
  have hlisten : listenForPackets ⟨[], [], []⟩ ⟨[10, 0, 0, 9], rfl⟩ [⟨some replyFrame, .epoch⟩] =
      some (repliesOf [replyFrame]) := by decide +kernel
  have hevents : ∀ event ∈ (nextDayAfter [replyFrame]).db.deviceEvents,
      event.createdOn = .epoch := by decide +kernel
  have hreturned : ((recordSightings .default .arp (repliesOf [replyFrame])).run clocked
      (.still .empty .epoch)).1.isSome = true := by decide +kernel
  obtain ⟨found, first, hfirst, hdb⟩ := exists_firstPass hreturned
  obtain ⟨again, last, hsecond, hiff⟩ := arp_rescan_uneventful_iff .default hlisten hfirst hdb
    fun _ _ ↦ outsideWindow_nextDayAfter hevents
  exact ⟨again, last, hsecond, hiff.mpr (by decide +kernel)⟩

/-- One MAC that replies from two addresses: the next day's pass, outside the window and long before
the absence threshold, returns a `Changed` entry. -/
theorem two_addresses_rescan_eventful :
    ¬ ∀ (settings : Settings) (databases : Databases) (ip : Ipv4Addr)
      (receptions : List Reception) (devices : List Device) (world first second : World)
      (found : List DeviceChange),
      listenForPackets databases ip receptions = some devices →
      (recordSightings settings .arp devices).run clocked world = (some found, first) →
      second.db = first.db →
      (∀ device ∈ devices, second.OutsideWindow settings device.macAddress) →
      (∀ n, ∀ row ∈ second.db.devices.rows,
        (second.clock n).elapsedSince row.lastSeen < settings.notifyWhenNotSeenFor) →
      ∃ again last,
        (recordSightings settings .arp devices).run clocked second = (some again, last) ∧
          Uneventful again := by
  intro hall
  have hlisten : listenForPackets ⟨[], [], []⟩ ⟨[10, 0, 0, 9], rfl⟩
      [⟨some replyFrame, .epoch⟩, ⟨some secondReplyFrame, .epoch⟩] =
        some (repliesOf [replyFrame, secondReplyFrame]) := by decide +kernel
  have hevents : ∀ event ∈ (nextDayAfter [replyFrame, secondReplyFrame]).db.deviceEvents,
      event.createdOn = .epoch := by decide +kernel
  have hreturned : ((recordSightings .default .arp
      (repliesOf [replyFrame, secondReplyFrame])).run clocked
        (.still .empty .epoch)).1.isSome = true := by decide +kernel
  have hrecent : ∀ row ∈ (nextDayAfter [replyFrame, secondReplyFrame]).db.devices.rows,
      Instant.nextDay.elapsedSince row.lastSeen < Settings.default.notifyWhenNotSeenFor := by
    decide +kernel
  have hchanged : ∀ again ∈ ((recordSightings .default .arp
      (repliesOf [replyFrame, secondReplyFrame])).run clocked
        (nextDayAfter [replyFrame, secondReplyFrame])).1,
      ∃ change ∈ again, change.isChanged = true := by decide +kernel
  obtain ⟨found, first, hfirst, hdb⟩ := exists_firstPass hreturned
  obtain ⟨again, last, hagain, huneventful⟩ := hall .default _ _ _ _ _ _
    (nextDayAfter [replyFrame, secondReplyFrame]) found hlisten hfirst hdb
    (fun _ _ ↦ outsideWindow_nextDayAfter hevents) fun _ row hrow ↦ hrecent row hrow
  obtain ⟨change, hmem, htrue⟩ := hchanged again (congrArg Prod.fst hagain)
  rw [(huneventful change hmem).2] at htrue
  cases htrue

end Oott
