import Oott.Effects.Sequential
import Oott.Operations
import Oott.Sightings.FieldOwnership
import Oott.Sightings.Reconciliation

/-!
# Changes of address and vendor

A sighting overwrites the stored address and vendor before it asks whether the change is a
duplicate, and the question looks at the MAC, the scanner and the type of the event only. So a
sighting that replaces an address or a vendor announces the change, or the same scanner announced
some change of the device within the window (`replaced_change_announced`). That earlier change can
have been to another address: then the new one is stored without a trace (`second_change_absorbed`).
-/

set_option autoImplicit false
set_option relaxedAutoImplicit false

namespace Oott

open Effects

/-- A stored text has been replaced by a different one, neither of them empty. -/
def Replaces (stored written : String) : Prop := stored ≠ "" ∧ written ≠ "" ∧ stored ≠ written

/-- The clock was read at the instant, between the two worlds. -/
def World.Reads (before after : World) (instant : Instant) : Prop :=
  ∃ n readings, n < readings ∧ before.clock n = instant ∧
    ∀ k, after.clock k = before.clock (k + readings)

/-- The sighting inserted a `DeviceChanged` event carrying the address and the vendor of the row,
and returned a `Changed` entry carrying them. -/
def ChangeAnnounced (mac : String) (scanner : DeviceEventScanner) (row : Device)
    (before after : World) (outcome : Option (List DeviceChange)) : Prop :=
  (∃ inserted, after.db.deviceEvents = before.db.deviceEvents ++ inserted ∧
    ∃ event ∈ inserted, event.eventType = .deviceChanged ∧ NocaseEq event.macAddress mac ∧
      event.scanner = scanner ∧ event.ipv4Address = row.ipv4Address ∧ event.vendor = row.vendor) ∧
  ∃ changes, outcome = some changes ∧ ∃ old seen ipFlag vendorFlag,
    .changed old seen ipFlag vendorFlag ∈ changes ∧ seen.ipv4Address = row.ipv4Address ∧
      seen.vendor = row.vendor

/-- Before the sighting there was a `DeviceChanged` event of the same scanner for the same MAC, no
older than the deduplication window at an instant at which the sighting read the clock. -/
def ChangeInWindow (settings : Settings) (mac : String) (scanner : DeviceEventScanner)
    (before after : World) : Prop :=
  ∃ instant, before.Reads after instant ∧ ∃ event ∈ before.db.deviceEvents,
    event.eventType = .deviceChanged ∧ NocaseEq event.macAddress mac ∧ event.scanner = scanner ∧
      instant.nanos - event.createdOn.nanos ≤ settings.deduplicationWindow.nanos

section Sighting

variable {settings : Settings} {device : Device} {scanner : DeviceEventScanner} {world : World}

/-- A sighting leaves the rows of other devices as they are. -/
theorem recordSighting_other {mac : String} {row : Device}
    (hother : ¬ NocaseEq mac device.macAddress)
    (hselect : world.db.devices.select mac = some row) :
    ((recordSighting settings device scanner).run clocked world).2.db.devices.select mac =
      some row := by
  have hexec := Program.exec_run Faulty.allows_clocked (recordSighting settings device scanner)
    world
  rcases devices_of_recordSighting hexec with hsame | ⟨recorded, instant, -, hupdate⟩ | hinsert
  · rw [hsame, hselect]
  · have hkey : ¬ NocaseEq mac (normalizeMac device.macAddress) := fun h ↦
      hother (h.trans (nocaseEq_normalizeMac _))
    rw [hupdate, DevicesTable.select_update_other _ hkey, hselect]
  · exact DevicesTable.select_insert_of_some hinsert hselect

/-- A sighting that replaces the address or the vendor of a known device shows a change. -/
theorem changed_mem_of_replaces {recorded : Device} {instant seenAt : Instant}
    (hreplaced : Replaces recorded.ipv4Address
        ((sightingClause recorded device seenAt).apply recorded).ipv4Address ∨
      Replaces recorded.vendor ((sightingClause recorded device seenAt).apply recorded).vendor) :
    .changed recorded (reconcile recorded device)
        (ipChanged recorded.ipv4Address (reconcile recorded device).ipv4Address)
        (vendorChanged recorded.vendor (reconcile recorded device).vendor) ∈
      changesAt settings recorded (reconcile recorded device) instant := by
  rw [changed_mem_changesAt]
  refine ⟨?_, rfl, rfl, rfl, rfl⟩
  rw [ipChanged_iff, vendorChanged_iff]
  rw [reconcile_vendor] at hreplaced
  exact hreplaced

/-- One sighting that replaces the address or the vendor of a known device announces the change, or
finds an announced change in the window. -/
theorem recordSighting_announces {recorded : Device}
    (hsince : ∀ n, settings.since (world.clock n) ≠ none)
    (hknown : world.db.devices.select (normalizeMac device.macAddress) = some recorded)
    (hreplaced : Replaces recorded.ipv4Address
        ((sightingClause recorded device (world.clock 0)).apply recorded).ipv4Address ∨
      Replaces recorded.vendor
        ((sightingClause recorded device (world.clock 0)).apply recorded).vendor) :
    ChangeAnnounced device.macAddress scanner
        ((sightingClause recorded device (world.clock 0)).apply recorded) world
        ((recordSighting settings device scanner).run clocked world).2
        ((recordSighting settings device scanner).run clocked world).1 ∨
      ChangeInWindow settings device.macAddress scanner world
        ((recordSighting settings device scanner).run clocked world).2 := by
  rw [run_recordSighting_known hknown]
  obtain ⟨returned, after, hrun⟩ := recordKnownDevice_returns settings scanner
    (reconcile recorded device) recorded (world.afterSeen recorded device) fun n ↦ hsince (n + 1)
  obtain ⟨inserted, readings, hrecords, -, hannounced⟩ := recordKnownDevice_spec hrun
  rw [hrun]
  rcases hannounced _ (changed_mem_of_replaces hreplaced) with
    ⟨hmem, event, hevent, hdescribes⟩ | ⟨n, hn, since, hstart, row, hrow, hmatches⟩
  · refine Or.inl ⟨⟨inserted, hrecords.deviceEvents, event, hevent, hdescribes.eventType, ?_,
      hdescribes.scanner, hdescribes.ipv4Address, ?_⟩, returned, rfl, _, _, _, _, hmem, rfl, ?_⟩
    · rw [hdescribes.macAddress]
      exact nocaseEq_normalizeMac _
    · rw [hdescribes.vendor, reconcile_vendor]
    · rw [reconcile_vendor]
  · refine Or.inr ⟨_, ⟨n + 1, readings + 1, by omega, rfl, hrecords.clock⟩, row, hrow,
      hmatches.2.2.1, hmatches.1.trans (nocaseEq_normalizeMac _), hmatches.2.1, ?_⟩
    exact Settings.age_le_of_since hstart hmatches.2.2.2

end Sighting

/-- No change is silently absorbed but within the window of another one: in every run of operations
whose database calls succeed, a sighting that replaces a stored address or vendor by a different
one, neither empty, announces the change, unless a `DeviceChanged` event of the same scanner for the
same MAC was in the deduplication window, whatever its address and vendor. -/
theorem replaced_change_announced (settings : Settings) {start last : World}
    {history : List (Completed Operation Operation.Outcome World)}
    (hrun : Sequential (fun operation ↦ Program.Exec Reliable (operation.program settings)) start
      history last)
    (hcalendar : ∀ n, settings.since (start.clock n) ≠ none) {before after : World}
    {device : Device} {scanner : DeviceEventScanner} {outcome : Option (List DeviceChange)}
    (hmem : ⟨before, .sighting device scanner, outcome, after⟩ ∈ history)
    {mac : String} {old new : Device} (hold : before.db.devices.select mac = some old)
    (hnew : after.db.devices.select mac = some new)
    (hreplaced : Replaces old.ipv4Address new.ipv4Address ∨ Replaces old.vendor new.vendor) :
    ChangeAnnounced mac scanner new before after outcome ∨
      ChangeInWindow settings mac scanner before after := by
  obtain ⟨earlier, hearlier, hexec⟩ := hrun.reached hmem
  simp only at hearlier hexec
  have hclock : ∃ readings, ∀ n, before.clock n = start.clock (n + readings) := by
    refine hearlier.invariant
      (fun world ↦ ∃ readings, ∀ n, world.clock n = start.clock (n + readings)) (fun _ ↦ True)
      ⟨0, fun _ ↦ rfl⟩ ?_ fun _ _ ↦ trivial
    intro completed hperform _ ⟨readings, hbefore⟩
    obtain ⟨more, hmore⟩ := clock_of_run (completed.activity.program settings) completed.before
    rw [Program.exec_ofMachine_iff] at hperform
    rw [hperform] at hmore
    refine ⟨more + readings, fun n ↦ ?_⟩
    rw [hmore, hbefore, Nat.add_assoc]
  have hsince : ∀ n, settings.since (before.clock n) ≠ none := by
    obtain ⟨readings, hreadings⟩ := hclock
    intro n
    rw [hreadings]
    exact hcalendar _
  have hsighting : (recordSighting settings device scanner).run clocked before =
      (outcome, after) := Program.exec_ofMachine_iff.mp hexec
  by_cases hmac : NocaseEq mac device.macAddress
  · have hsame : before.db.devices.select (normalizeMac device.macAddress) = some old := by
      rw [← hold]
      exact DevicesTable.select_congr ((nocaseEq_normalizeMac _).trans hmac.symm)
    have hrow : some new = some ((sightingClause old device (before.clock 0)).apply old) := by
      rw [← hnew, ← @row_of_recordSighting_known settings _ _ scanner _ hsame,
        hsighting]
      exact DevicesTable.select_congr (hmac.trans (nocaseEq_normalizeMac _).symm)
    rw [Option.some.inj hrow] at hreplaced ⊢
    have hannounces := @recordSighting_announces settings device scanner before old hsince hsame
      hreplaced
    rw [hsighting] at hannounces
    have hmacs : ∀ event : DeviceEvent,
        NocaseEq event.macAddress device.macAddress ↔ NocaseEq event.macAddress mac :=
      fun event ↦ ⟨fun h ↦ h.trans hmac.symm, fun h ↦ h.trans hmac⟩
    simpa only [ChangeAnnounced, ChangeInWindow, hmacs] using hannounces
  · have hkept := @recordSighting_other settings device scanner before mac old hmac hold
    rw [hsighting, hnew] at hkept
    rw [Option.some.inj hkept] at hreplaced
    rcases hreplaced with ⟨-, -, hne⟩ | ⟨-, -, hne⟩
    · exact absurd rfl hne
    · exact absurd rfl hne

/-- A device without vendor, seen at the given address. -/
def seenAt (ipv4Address : String) : Device :=
  buildDevice ⟨[], [], []⟩ "aa:00:00:00:00:01" ipv4Address [] none .epoch

/-- The database after the device has been seen by the ARP scanner at each of the addresses. -/
def afterAddresses (addresses : List String) : World :=
  (performAll clocked (Operation.program .default) ⟨Database.empty, fun _ ↦ .epoch⟩
    (addresses.map fun ipv4Address ↦ .sighting (seenAt ipv4Address) .arp)).2

/-- The device of the first address, seen at the second: the change is announced. -/
theorem replaced_change_announced_twoAddresses :
    ChangeAnnounced "aa:00:00:00:00:01" .arp (seenAt "10.0.0.2") (afterAddresses ["10.0.0.1"])
        ((recordSighting .default (seenAt "10.0.0.2") .arp).run clocked
          (afterAddresses ["10.0.0.1"])).2
        ((recordSighting .default (seenAt "10.0.0.2") .arp).run clocked
          (afterAddresses ["10.0.0.1"])).1 ∨
      ChangeInWindow .default "aa:00:00:00:00:01" .arp (afterAddresses ["10.0.0.1"])
        ((recordSighting .default (seenAt "10.0.0.2") .arp).run clocked
          (afterAddresses ["10.0.0.1"])).2 := by
  have hold : (afterAddresses ["10.0.0.1"]).db.devices.select "aa:00:00:00:00:01" =
      some (seenAt "10.0.0.1") := by decide +kernel
  have hnew : ((recordSighting .default (seenAt "10.0.0.2") .arp).run clocked
      (afterAddresses ["10.0.0.1"])).2.db.devices.select "aa:00:00:00:00:01" =
        some (seenAt "10.0.0.2") := by decide +kernel
  have hfirst := Sequential.performAll clocked (Operation.program .default)
    (Transition.allows_ofMachine clocked) ⟨Database.empty, fun _ ↦ .epoch⟩
    (["10.0.0.1"].map fun ipv4Address ↦ .sighting (seenAt ipv4Address) .arp)
  have hcalendar : Settings.default.since .epoch ≠ none := by decide
  have hreplaced : Replaces (seenAt "10.0.0.1").ipv4Address (seenAt "10.0.0.2").ipv4Address := by
    unfold Replaces
    decide
  change Sequential _ _ _ (afterAddresses ["10.0.0.1"]) at hfirst
  generalize afterAddresses ["10.0.0.1"] = world at hfirst hold hnew ⊢
  generalize seenAt "10.0.0.2" = moved at hnew hreplaced ⊢
  generalize seenAt "10.0.0.1" = found at hold hreplaced
  have hsecond := Program.exec_run (Transition.allows_ofMachine clocked)
    (Operation.program .default (.sighting moved .arp)) world
  exact replaced_change_announced .default (hfirst.extend hsecond) (fun _ ↦ hcalendar)
    List.mem_cons_self hold hnew (Or.inl hreplaced)

/-- The device moves from the second address to the third within the window of its move to the
second: the row carries the third address, nothing is returned, and no event names the address. -/
theorem second_change_absorbed :
    (afterAddresses ["10.0.0.1", "10.0.0.2"]).db.devices.select "aa:00:00:00:00:01" =
        some (seenAt "10.0.0.2") ∧
      (afterAddresses ["10.0.0.1", "10.0.0.2", "10.0.0.3"]).db.devices.select
        "aa:00:00:00:00:01" = some (seenAt "10.0.0.3") ∧
      ((recordSighting .default (seenAt "10.0.0.3") .arp).run clocked
        (afterAddresses ["10.0.0.1", "10.0.0.2"])).1 = some [] ∧
      ∀ event ∈ (afterAddresses ["10.0.0.1", "10.0.0.2", "10.0.0.3"]).db.deviceEvents,
        event.ipv4Address ≠ "10.0.0.3" := by
  decide +kernel

end Oott
