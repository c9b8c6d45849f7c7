import Oott.Sightings.Scan
import Oott.Notifications.Consolidation
import Mathlib.Data.List.Basic

/-!
# The order of the replies

The sightings of a scan are recorded one after the other, and each of them reads and writes the two
tables. What a sighting does depends on what the tables hold of its own MAC only, and it leaves what
they hold of every other MAC (`recordSighting_alike`, `recordSighting_frame`). So with all sightings
at one instant, and one sighting for each MAC, every order of a scan gives the same devices, the
same events but for their ids, and the same changes (`scan_order_irrelevant`).
-/

set_option autoImplicit false
set_option relaxedAutoImplicit false

namespace Oott

open Effects

namespace Database

/-- The events without their ids. -/
def eventsUpToIds (db : Database) : List DeviceEvent :=
  db.deviceEvents.map fun row ↦ { row with id := 0 }

/-- The events of one MAC without their ids. -/
def eventsOf (db : Database) (macAddress : String) : List DeviceEvent :=
  db.eventsUpToIds.filter fun row ↦ NocaseEq row.macAddress macAddress

variable {db : Database} {macAddress : String}

theorem eventsOf_congr {other : String} (hmac : NocaseEq macAddress other) :
    db.eventsOf macAddress = db.eventsOf other := by
  unfold eventsOf
  congr 1
  funext row
  exact decide_eq_decide.mpr ⟨fun h ↦ h.trans hmac, fun h ↦ h.trans hmac.symm⟩

theorem eventsOf_insertEvent (event : DeviceEvent) :
    (db.insertEvent event).eventsOf macAddress = db.eventsOf macAddress ++
      if NocaseEq event.macAddress macAddress then [{ event with id := 0 }] else [] := by
  unfold eventsOf eventsUpToIds insertEvent
  rw [List.map_append, List.filter_append]
  congr 1
  by_cases hmac : NocaseEq event.macAddress macAddress
  · simp [hmac]
  · simp [hmac]

/-- Whether an event has a duplicate is seen in the events of its MAC. -/
theorem exists_matches_eventsOf_iff {scanner : DeviceEventScanner} {eventType : DeviceEventType}
    {since : Instant} :
    (∃ row ∈ db.deviceEvents, row.Matches (normalizeMac macAddress) scanner eventType since) ↔
      ∃ row ∈ db.eventsOf macAddress,
        row.Matches (normalizeMac macAddress) scanner eventType since := by
  unfold eventsOf eventsUpToIds
  constructor
  · intro ⟨row, hrow, hmatches⟩
    refine ⟨{ row with id := 0 }, List.mem_filter.mpr ⟨List.mem_map.mpr ⟨row, hrow, rfl⟩, ?_⟩,
      hmatches⟩
    exact decide_eq_true (hmatches.1.trans (nocaseEq_normalizeMac _))
  · intro ⟨row, hrow, hmatches⟩
    obtain ⟨stored, hstored, hsame⟩ := List.mem_map.mp (List.mem_filter.mp hrow).1
    rw [← hsame] at hmatches
    exact ⟨stored, hstored, hmatches⟩

end Database

/-- Worlds that show the same time, and of one MAC the same row and the same events. -/
structure SameOf (macAddress : String) (world other : World) : Prop where
  clock : world.clock = other.clock
  row : world.db.devices.select macAddress = other.db.devices.select macAddress
  events : world.db.eventsOf macAddress = other.db.eventsOf macAddress

section Locality

variable {settings : Settings} {scanner : DeviceEventScanner} {device : Device}
  {macAddress : String} {world other third : World}

theorem SameOf.symm (hsame : SameOf macAddress world other) : SameOf macAddress other world :=
  ⟨hsame.clock.symm, hsame.row.symm, hsame.events.symm⟩

theorem SameOf.trans (hsame : SameOf macAddress world other)
    (hsame' : SameOf macAddress other third) : SameOf macAddress world third :=
  ⟨hsame.clock.trans hsame'.clock, hsame.row.trans hsame'.row, hsame.events.trans hsame'.events⟩

theorem SameOf.tick (hsame : SameOf macAddress world other) :
    SameOf macAddress world.tick other.tick :=
  ⟨funext fun n ↦ congrFun hsame.clock (n + 1), hsame.row, hsame.events⟩

/-- An event is recorded in both of two such worlds or in neither. -/
theorem recordDeviceEvent_sameOf (eventType : DeviceEventType) :
    Program.Alike clocked (SameOf device.macAddress) (· = ·)
      (recordDeviceEvent settings device eventType scanner)
      (recordDeviceEvent settings device eventType scanner) := by
  refine recordDeviceEvent_alike_of SameOf.clock SameOf.tick (fun hsame since ↦ ?_)
    fun hsame instant ↦ ⟨hsame.clock, hsame.row, ?_⟩
  · rw [Database.exists_matches_eventsOf_iff, Database.exists_matches_eventsOf_iff, hsame.events]
  · rw [World.withDb_db, World.withDb_db, Database.eventsOf_insertEvent,
      Database.eventsOf_insertEvent, hsame.events]

/-- Recordings look at the row and the events of the device. -/
theorem sameOf_alikeInRecording :
    AlikeInRecording settings device scanner (SameOf device.macAddress) where
  clock := SameOf.clock
  tick := SameOf.tick
  seen := (recordDeviceEvent_sameOf .deviceSeen).mono fun _ _ _ ↦ trivial
  event := fun _ ↦ recordDeviceEvent_sameOf _

/-- What a sighting does depends on what the world shows of its MAC. -/
theorem recordSighting_alike :
    Program.Alike clocked (SameOf device.macAddress) (· = ·)
      (recordSighting settings device scanner) (recordSighting settings device scanner) := by
  intro world other hsame
  have hkey := NocaseEq.symm (nocaseEq_normalizeMac device.macAddress)
  cases hselect : world.db.devices.select (normalizeMac device.macAddress) with
  | some recorded =>
    have hother := hselect
    rw [← DevicesTable.select_congr hkey, hsame.row, DevicesTable.select_congr hkey] at hother
    rw [run_recordSighting_known hselect, run_recordSighting_known hother]
    refine sameOf_alikeInRecording.knownDevice recorded _ _ ⟨hsame.tick.clock, ?_, hsame.events⟩
    change (world.db.devices.update _ _).select device.macAddress =
      (other.db.devices.update _ _).select device.macAddress
    rw [DevicesTable.select_update_same _ hkey, DevicesTable.select_update_same _ hkey, hsame.row,
      hsame.clock]
  | none =>
    have hother := hselect
    rw [← DevicesTable.select_congr hkey, hsame.row, DevicesTable.select_congr hkey] at hother
    obtain ⟨table, hinsert, hrun⟩ := @run_recordSighting_new settings device scanner world hselect
    obtain ⟨table', hinsert', hrun'⟩ := @run_recordSighting_new settings device scanner other hother
    rw [hrun, hrun']
    refine sameOf_alikeInRecording.newDevice.bind (fun change _ hchange ↦ .ret ?_) _ _
      ⟨hsame.clock, ?_, hsame.events⟩
    · rw [hchange]
    · -- Both tables have the inserted row.
      have hown : ∀ (before after : DevicesTable), before.insert
          { device with macAddress := normalizeMac device.macAddress } = some after →
            after.select device.macAddress =
              some { device with macAddress := normalizeMac device.macAddress } := by
        intro before after hinsert
        rw [DevicesTable.select_eq_some_iff, (DevicesTable.rows_of_insert hinsert).1]
        exact ⟨List.mem_append_right _ (List.mem_singleton_self _), hkey.symm⟩
      exact (hown _ table hinsert).trans (hown _ table' hinsert').symm

/-- A sighting leaves what the tables hold of another MAC. -/
theorem recordSighting_frame (hmac : ¬ NocaseEq macAddress device.macAddress) (db : Database)
    (instant : Instant) :
    SameOf macAddress ((recordSighting settings device scanner).run clocked (.still db instant)).2
      (.still db instant) := by
  have hkey : ¬ NocaseEq macAddress (normalizeMac device.macAddress) :=
    fun h ↦ hmac (h.trans (nocaseEq_normalizeMac _))
  have hevents {reported : Device} (hreported : reported.macAddress = device.macAddress) :
      KeptByRecording settings reported scanner
        fun world ↦ world.db.eventsOf macAddress = db.eventsOf macAddress := by
    refine ⟨fun _ hkept ↦ hkept, fun world eventType since hkept _ _ ↦ ?_⟩
    have hevent : ¬ NocaseEq (normalizeMac reported.macAddress) macAddress := by
      rw [hreported]
      exact fun h ↦ hkey h.symm
    rw [World.withDb_db, Database.eventsOf_insertEvent]
    exact (congrArg _ (if_neg hevent)).trans ((List.append_nil _).trans hkept)
  refine ⟨?_, ?_, ?_⟩
  · rw [run_still]
    rfl
  · rcases devices_of_recordSighting (Program.exec_run Faulty.allows_clocked
      (recordSighting settings device scanner) (.still db instant)) with
      hsame | ⟨recorded, seenAt, -, hupdate⟩ | hinsert
    · rw [hsame]
    · rw [hupdate]
      exact DevicesTable.select_update_other _ hkey
    · exact DevicesTable.select_insert_other hinsert hkey
  · cases hselect : db.devices.select (normalizeMac device.macAddress) with
    | some recorded =>
      rw [run_recordSighting_known hselect]
      have hreported : (reconcile recorded device).macAddress = device.macAddress := rfl
      exact recordKnownDevice_keeps (hevents hreported) recorded _ rfl
    | none =>
      obtain ⟨table, -, hrun⟩ :=
        @run_recordSighting_new settings device scanner (.still db instant) hselect
      rw [hrun]
      exact (recordNewDevice_keeps (hevents rfl)).bind (fun _ ↦ .ret _) _ rfl

end Locality

/-! ### A scan in any order -/

section Order

variable {settings : Settings} {scanner : DeviceEventScanner} {devices devices' : List Device}
  {db : Database} {instant : Instant} {after after' : World} {changes changes' : List DeviceChange}

/-- A sighting that is recorded alone. -/
def alone (settings : Settings) (scanner : DeviceEventScanner) (db : Database) (instant : Instant)
    (device : Device) : Option (List DeviceChange) × World :=
  (recordSighting settings device scanner).run clocked (.still db instant)

/-- No two sightings of one MAC, in whichever case its digits are. -/
def DistinctMacs (devices : List Device) : Prop :=
  devices.Pairwise fun first second ↦ ¬ NocaseEq first.macAddress second.macAddress

/-- A scan at one instant, with one sighting for each MAC: it returns what the sightings alone
return, leaves of their MACs what they alone leave, and of other MACs what was there. -/
theorem recordSightings_alone (hdistinct : DistinctMacs devices)
    (hrun : (recordSightings settings scanner devices).run clocked (.still db instant) =
      (some changes, after)) :
    changes = devices.flatMap (fun device ↦
        (alone settings scanner db instant device).1.getD []) ∧
      (∀ device ∈ devices,
        SameOf device.macAddress after (alone settings scanner db instant device).2) ∧
      ∀ mac, (∀ device ∈ devices, ¬ NocaseEq mac device.macAddress) →
        SameOf mac after (.still db instant) := by
  induction devices generalizing db changes with
  | nil =>
    cases hrun
    exact ⟨rfl, List.forall_mem_nil _, fun _ _ ↦ ⟨rfl, rfl, rfl⟩⟩
  | cons device rest ih =>
    obtain ⟨hapart, hrestDistinct⟩ := List.pairwise_cons.mp hdistinct
    obtain ⟨first, middle, later, hfirst, hrest, rfl⟩ := run_recordSightings_cons hrun
    have hmiddle : middle = .still middle.db instant := by
      have hstill := run_still (recordSighting settings device scanner) db instant
      rw [hfirst] at hstill
      exact hstill
    have hframe : ∀ mac, ¬ NocaseEq mac device.macAddress →
        SameOf mac middle (.still db instant) := by
      intro mac hmac
      have hkept := @recordSighting_frame settings scanner device mac hmac db instant
      rw [hfirst] at hkept
      exact hkept
    rw [hmiddle] at hrest
    obtain ⟨hchanges, hown, hothers⟩ := ih hrestDistinct hrest
    -- After the first sighting, another one alone does what it would have done before.
    have halike : ∀ other ∈ rest,
        (alone settings scanner middle.db instant other).1 =
          (alone settings scanner db instant other).1 ∧
        SameOf other.macAddress (alone settings scanner middle.db instant other).2
          (alone settings scanner db instant other).2 := by
      intro other hother
      have hsame : SameOf other.macAddress (.still middle.db instant) (.still db instant) := by
        rw [← hmiddle]
        exact hframe _ fun h ↦ hapart other hother h.symm
      exact ⟨recordSighting_alike.outcome_eq hsame, (recordSighting_alike _ _ hsame).2⟩
    refine ⟨?_, List.forall_mem_cons.mpr ⟨?_, fun other hother ↦ ?_⟩, fun mac hmac ↦ ?_⟩
    · rw [List.flatMap_cons, hchanges]
      congr 1
      · unfold alone
        rw [hfirst]
        rfl
      · exact List.flatMap_congr fun other hother ↦ by rw [(halike other hother).1]
    · have hlast := hothers device.macAddress hapart
      rw [← hmiddle] at hlast
      unfold alone
      rw [hfirst]
      exact hlast
    · exact (hown other hother).trans (halike other hother).2
    · obtain ⟨hdevice, hlater⟩ := List.forall_mem_cons.mp hmac
      have hlast := hothers mac hlater
      rw [← hmiddle] at hlast
      exact hlast.trans (hframe mac hdevice)

/-- Scans of the same sightings leave the same of every MAC. -/
theorem sameOf_of_perm (hperm : devices.Perm devices') (hdistinct : DistinctMacs devices)
    (hdistinct' : DistinctMacs devices')
    (hrun : (recordSightings settings scanner devices).run clocked (.still db instant) =
      (some changes, after))
    (hrun' : (recordSightings settings scanner devices').run clocked (.still db instant) =
      (some changes', after')) (mac : String) : SameOf mac after' after := by
  obtain ⟨-, hown, hothers⟩ := recordSightings_alone hdistinct hrun
  obtain ⟨-, hown', hothers'⟩ := recordSightings_alone hdistinct' hrun'
  by_cases hmac : ∃ device ∈ devices, NocaseEq mac device.macAddress
  · obtain ⟨device, hdevice, hmac⟩ := hmac
    have hsame := (hown' device (hperm.subset hdevice)).trans (hown device hdevice).symm
    refine ⟨hsame.clock, ?_, ?_⟩
    · rw [DevicesTable.select_congr hmac, DevicesTable.select_congr hmac]
      exact hsame.row
    · rw [Database.eventsOf_congr hmac, Database.eventsOf_congr hmac]
      exact hsame.events
  · have hnone : ∀ device ∈ devices, ¬ NocaseEq mac device.macAddress :=
      fun device hdevice h ↦ hmac ⟨device, hdevice, h⟩
    exact (hothers' mac fun device hdevice ↦ hnone device (hperm.mem_iff.mpr hdevice)).trans
      (hothers mac hnone).symm

/-- Tables with the same row for each MAC have the same rows. -/
theorem DevicesTable.perm_of_select {table table' : DevicesTable}
    (hselect : ∀ mac, table'.select mac = table.select mac) : table'.rows.Perm table.rows := by
  have hnodup (any : DevicesTable) : any.rows.Nodup :=
    any.primaryKey.imp fun {first second} hne (heq : first = second) ↦
      hne (heq ▸ NocaseEq.refl _)
  refine (List.perm_ext_iff_of_nodup (hnodup table') (hnodup table)).mpr fun row ↦ ?_
  have hmem (any : DevicesTable) : row ∈ any.rows ↔ any.select row.macAddress = some row := by
    rw [DevicesTable.select_eq_some_iff]
    exact (and_iff_left (NocaseEq.refl _)).symm
  rw [hmem, hmem, hselect]

/-- Tables with the same events of each MAC have the same events. -/
theorem Database.perm_of_eventsOf {later : Database}
    (hevents : ∀ mac, later.eventsOf mac = db.eventsOf mac) :
    later.eventsUpToIds.Perm db.eventsUpToIds := by
  refine List.perm_iff_count.mpr fun event ↦ ?_
  have hcount (any : Database) :
      any.eventsUpToIds.count event = (any.eventsOf event.macAddress).count event := by
    unfold Database.eventsOf
    rw [List.count_filter]
    exact decide_eq_true (NocaseEq.refl _)
  rw [hcount, hcount, hevents]

/-- A sighting that returns has found the start of the window in the calendar. -/
theorem since_ne_none_of_recordSighting {device : Device}
    (hrun : (recordSighting settings device scanner).run clocked (.still db instant) =
      (some changes, after)) : settings.since instant ≠ none := by
  cases hselect : db.devices.select (normalizeMac device.macAddress) with
  | some recorded =>
    rw [run_recordSighting_known hselect] at hrun
    unfold recordKnownDevice at hrun
    obtain ⟨recorded, middle, hseen, -⟩ := Program.run_bind_eq_some _ hrun
    obtain ⟨since, -, hsince, -⟩ := recordDeviceEvent_spec hseen
    change settings.since instant = some since at hsince
    rw [hsince]
    exact Option.some_ne_none _
  | none =>
    obtain ⟨table, -, hnew⟩ :=
      @run_recordSighting_new settings device scanner (.still db instant) hselect
    rw [hnew] at hrun
    obtain ⟨change, middle, hrun, -⟩ := Program.run_bind_eq_some _ hrun
    obtain ⟨recorded, middle, hrun, -⟩ := Program.run_bind_eq_some _ hrun
    obtain ⟨since, -, hsince, -⟩ := recordDeviceEvent_spec hrun
    change settings.since instant = some since at hsince
    rw [hsince]
    exact Option.some_ne_none _

/-- A scan returns in every order if it returns in one. -/
theorem recordSightings_returns_of_perm (hperm : devices.Perm devices')
    (hrun : (recordSightings settings scanner devices).run clocked (.still db instant) =
      (some changes, after)) :
    ∃ changes' after',
      (recordSightings settings scanner devices').run clocked (.still db instant) =
        (some changes', after') := by
  cases devices with
  | nil =>
    rw [List.nil_perm.mp hperm]
    exact ⟨_, _, rfl⟩
  | cons device rest =>
    obtain ⟨first, middle, later, hfirst, -⟩ := run_recordSightings_cons hrun
    exact recordSightings_returns devices' fun _ ↦ since_ne_none_of_recordSighting hfirst

end Order

/-! ### The notifications -/

/-- The type and the title of a notification. -/
def Notice.heading (notice : Notice) : NotificationType × String :=
  (notice.notificationType, notice.title)

section Headings

variable {durationString : StdDuration → String}

/-- A kind of change has the same heading for its members in any order: the title of a summary
shows their number only. -/
theorem Consolidates.heading_of_perm {α : Type} {notificationType : NotificationType}
    {device : α → Device} {kind : List α → Option Notice}
    (hkind : Consolidates notificationType device kind) {members members' : List α}
    (hperm : members.Perm members') :
    (kind members').map Notice.heading = (kind members).map Notice.heading := by
  match members, members', hperm with
  | [], members', hperm => rw [List.nil_perm.mp hperm]
  | [member], members', hperm => rw [List.singleton_perm.mp hperm]
  | first :: second :: rest, first' :: second' :: rest', hperm =>
    have hlength := hperm.length_eq
    simp only [List.length_cons, Nat.add_right_cancel_iff] at hlength
    rw [hkind.several, hkind.several, hlength]
    rfl
  | first :: second :: rest, [member], hperm => cases hperm.length_eq
  | first :: second :: rest, [], hperm => cases hperm.length_eq

/-- Changes in any order give notifications of the same types with the same titles. -/
theorem headings_of_perm {changes changes' : List DeviceChange} (hperm : changes.Perm changes') :
    (notices durationString changes').map Notice.heading =
      (notices durationString changes).map Notice.heading := by
  have hkind {kind kind' : Option Notice}
      (hheading : kind'.map Notice.heading = kind.map Notice.heading) :
      kind'.toList.map Notice.heading = kind.toList.map Notice.heading := by
    rw [← Option.toList_map, ← Option.toList_map, hheading]
  have hnew := notifyNewDevices_consolidates.heading_of_perm
    (hperm.filterMap DeviceChange.asNew)
  have hbackOnline := (notifyBackOnline_consolidates durationString).heading_of_perm
    (hperm.filterMap DeviceChange.asBackOnline)
  have hchanged := notifyChanged_consolidates.heading_of_perm
    (hperm.filterMap DeviceChange.asChanged)
  rw [notices_eq, notices_eq]
  simp only [List.map_append]
  rw [hkind hnew, hkind hbackOnline, hkind hchanged]

end Headings

/-! ### Any order -/

/-- The order of the replies does not matter. A scan at one instant of sightings of pairwise
distinct MACs returns in every order if it does in one, and gives the same devices, the same events
but for their ids, the same changes up to their order, and notifications of the same types with the
same titles. -/
theorem scan_order_irrelevant (settings : Settings) (scanner : DeviceEventScanner) (db : Database)
    (instant : Instant) {devices devices' : List Device} (hperm : devices.Perm devices')
    (hdistinct : DistinctMacs devices) {changes : List DeviceChange} {after : World}
    (hrun : (recordSightings settings scanner devices).run clocked (.still db instant) =
      (some changes, after)) :
    ∃ changes' after',
      (recordSightings settings scanner devices').run clocked (.still db instant) =
        (some changes', after') ∧
      after'.db.devices.rows.Perm after.db.devices.rows ∧
      after'.db.eventsUpToIds.Perm after.db.eventsUpToIds ∧
      changes'.Perm changes ∧
      ∀ durationString, (notices durationString changes').map Notice.heading =
        (notices durationString changes).map Notice.heading := by
  have hdistinct' : DistinctMacs devices' :=
    hperm.pairwise hdistinct fun {_ _} happart hmac ↦ happart hmac.symm
  obtain ⟨changes', after', hrun'⟩ := recordSightings_returns_of_perm hperm hrun
  have hsame := sameOf_of_perm hperm hdistinct hdistinct' hrun hrun'
  have hchanges : changes.Perm changes' := by
    rw [(recordSightings_alone hdistinct hrun).1, (recordSightings_alone hdistinct' hrun').1]
    exact hperm.flatMap_right _
  exact ⟨changes', after', hrun', DevicesTable.perm_of_select fun mac ↦ (hsame mac).row,
    Database.perm_of_eventsOf fun mac ↦ (hsame mac).events, hchanges.symm,
    fun _ ↦ headings_of_perm hchanges⟩

/-- A scan that has seen two devices. -/
def twoSeen : List Device :=
  [.new "aa:bb:cc:dd:ee:01" "10.0.0.1" "Acme" .epoch, .new "aa:bb:cc:dd:ee:02" "10.0.0.2" "" .epoch]

/-- Two new devices in either order. -/
theorem scan_order_irrelevant_twoSeen : ∃ changes after changes' after',
    (recordSightings .default .arp twoSeen).run clocked (.still .empty .epoch) =
        (some changes, after) ∧
      (recordSightings .default .arp twoSeen.reverse).run clocked (.still .empty .epoch) =
        (some changes', after') ∧
      after'.db.devices.rows.Perm after.db.devices.rows ∧
      after'.db.eventsUpToIds.Perm after.db.eventsUpToIds ∧ changes'.Perm changes := by
  obtain ⟨changes, after, hrun⟩ := @recordSightings_returns .default .arp
    (.still .empty .epoch) twoSeen fun _ ↦ (show Settings.default.since .epoch ≠ none by decide)
  have hdistinct : DistinctMacs twoSeen := by
    refine List.pairwise_pair.mpr ?_
    decide
  obtain ⟨changes', after', hrun', hdevices, hevents, hchanges, -⟩ :=
    scan_order_irrelevant .default .arp .empty .epoch (List.reverse_perm twoSeen).symm hdistinct
      hrun
  exact ⟨changes, after, changes', after', hrun, hrun', hdevices, hevents, hchanges⟩

end Oott
