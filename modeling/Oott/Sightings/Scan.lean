import Oott.Sightings.AbsorbedChange
import Oott.Sightings.UserEdit

/-!
# The sightings of a scan

The loop in which both active scanners hand the devices of a scan to `record_sighting`, one after
the other. A sighting with an address settles the row of its device (`Settles`): the row has the
address of the sighting, and its vendor where the sighting deduces one. A sighting of a settled
device returns no `New` and no `Changed` entry and leaves every stored address as it is, so a scan
in which the replies of one MAC agree settles all its devices, and the next one is uneventful
(`recordSightings_settles`, `recordSightings_uneventful`).
-/

set_option autoImplicit false
set_option relaxedAutoImplicit false

namespace Oott

open Effects

/-- The loop over the devices of a scan. -/
def recordSightings (settings : Settings) (scanner : DeviceEventScanner) :
    List Device → Program backend (List DeviceChange)
  | [] => return []
  | device :: rest => do
    let changes ← recordSighting settings device scanner
    return changes ++ (← recordSightings settings scanner rest)

/-- There is no `New` and no `Changed` entry. -/
def Uneventful (changes : List DeviceChange) : Prop :=
  ∀ change ∈ changes, (∀ device, change ≠ .new device) ∧ change.isChanged = false

/-- The row has the address of the sighting, and its vendor where the sighting deduces one. -/
structure Settles (device row : Device) : Prop where
  ipv4Address : row.ipv4Address = device.ipv4Address
  vendor : device.vendor = "" ∨ row.vendor = device.vendor

/-- The device has a row, which its sighting has settled. -/
def Database.Settled (db : Database) (device : Device) : Prop :=
  ∃ row, db.devices.select (normalizeMac device.macAddress) = some row ∧ Settles device row

/-- The MAC and the address of each row. -/
def Database.addresses (db : Database) : List (String × String) :=
  db.devices.rows.map fun row ↦ (row.macAddress, row.ipv4Address)

/-- Sightings of one MAC have one address and one vendor. -/
def Agree (devices : List Device) : Prop :=
  ∀ device ∈ devices, ∀ other ∈ devices, NocaseEq device.macAddress other.macAddress →
    device.ipv4Address = other.ipv4Address ∧ device.vendor = other.vendor

/-! ### One sighting -/

section Sighting

variable {settings : Settings} {device : Device} {scanner : DeviceEventScanner} {world : World}

/-- A sighting returns when the window never leaves the calendar. -/
theorem recordSighting_returns (hsince : ∀ n, settings.since (world.clock n) ≠ none) :
    ∃ changes after,
      (recordSighting settings device scanner).run clocked world = (some changes, after) := by
  cases hselect : world.db.devices.select (normalizeMac device.macAddress) with
  | some recorded =>
    rw [run_recordSighting_known hselect]
    exact recordKnownDevice_returns settings scanner _ recorded _ fun n ↦ hsince (n + 1)
  | none =>
    obtain ⟨table, -, hrun⟩ := @run_recordSighting_new settings device scanner world hselect
    rw [hrun]
    obtain ⟨recorded, after, hrecorded⟩ := recordDeviceEvent_returns settings scanner
      (world.withDb { world.db with devices := table }) device .newDevice (hsince 1)
    change ∃ changes after, ((recordDeviceEvent settings device .newDevice scanner >>= _) >>=
      _).run clocked _ = (some changes, after)
    rw [Program.run_bind, Program.run_bind, hrecorded]
    exact ⟨_, _, rfl⟩

/-- A sighting with an address settles the row of its device. -/
theorem settled_of_recordSighting (hipv4 : device.ipv4Address ≠ "") :
    ((recordSighting settings device scanner).run clocked world).2.db.Settled device := by
  cases hselect : world.db.devices.select (normalizeMac device.macAddress) with
  | some recorded =>
    refine ⟨_, row_of_recordSighting_known hselect, ?_, ?_⟩
    · change (reconcile recorded device).ipv4Address = _
      simp [reconcile, hipv4]
    · rw [reconcile_vendor]
      by_cases hvendor : device.vendor = ""
      · exact Or.inl hvendor
      · exact Or.inr (reconcile_vendor_of_ne hvendor)
  | none =>
    obtain ⟨table, hinsert, hrun⟩ := @run_recordSighting_new settings device scanner world hselect
    have hrows := (DevicesTable.rows_of_insert hinsert).1
    have hkept := devices_of_recordsEvents
      (Program.exec_run Faulty.allows_clocked _ (world.withDb { world.db with devices := table }))
      (answerInsert_always settings device scanner (.ok 1))
    refine ⟨{ device with macAddress := normalizeMac device.macAddress }, ?_, rfl, Or.inr rfl⟩
    rw [hrun]
    refine (congrArg (DevicesTable.select · _) hkept).trans ?_
    refine DevicesTable.select_eq_some_iff.mpr ⟨?_, NocaseEq.refl _⟩
    change _ ∈ table.rows
    rw [hrows]
    exact List.mem_append_right _ (List.mem_singleton_self _)

/-- A sighting leaves the rows of other devices settled. -/
theorem Database.Settled.other {other : Device} (hsettled : world.db.Settled other)
    (hmac : ¬ NocaseEq other.macAddress device.macAddress) :
    ((recordSighting settings device scanner).run clocked world).2.db.Settled other := by
  obtain ⟨row, hrow, hsettles⟩ := hsettled
  have hkey : ¬ NocaseEq (normalizeMac other.macAddress) device.macAddress :=
    fun h ↦ hmac ((nocaseEq_normalizeMac _).symm.trans h)
  exact ⟨row, recordSighting_other hkey hrow, hsettles⟩

/-- What a sighting says of the vendor is no change to a settled row. -/
theorem vendorChanged_of_settled {row : Device}
    (hvendor : device.vendor = "" ∨ row.vendor = device.vendor) :
    vendorChanged row.vendor (reconcile row device).vendor = false := by
  rw [vendorChanged_reconcile]
  rcases hvendor with hnone | hsame
  · rw [hnone, vendorChanged_empty]
  · rw [hsame]
    simp [vendorChanged]

/-- What is returned of a known device is uneventful, unless it shows another address or vendor. -/
theorem uneventful_of_unchanged {recorded : Device} {changes : List DeviceChange} {after : World}
    (hknown : world.db.devices.select (normalizeMac device.macAddress) = some recorded)
    (hipv4 : ipChanged recorded.ipv4Address (reconcile recorded device).ipv4Address = false)
    (hvendor : vendorChanged recorded.vendor (reconcile recorded device).vendor = false)
    (hrun : (recordSighting settings device scanner).run clocked world = (some changes, after)) :
    Uneventful changes := by
  rw [run_recordSighting_known hknown] at hrun
  obtain ⟨inserted, readings, -, hsublist, -⟩ := recordKnownDevice_spec hrun
  intro change hchange
  have hfound := hsublist.subset hchange
  cases change with
  | new found => exact absurd hfound new_not_mem_changesAt
  | backOnline found absentFor => exact ⟨fun _ hnew ↦ DeviceChange.noConfusion hnew, rfl⟩
  | changed old seen ipFlag vendorFlag =>
    obtain ⟨hflags, -⟩ := changed_mem_changesAt.mp hfound
    rw [hipv4, hvendor, or_self] at hflags
    exact absurd hflags Bool.false_ne_true

/-- A sighting at the stored address leaves every stored address as it is. -/
theorem addresses_of_recordSighting {row : Device}
    (hknown : world.db.devices.select (normalizeMac device.macAddress) = some row)
    (hipv4 : (reconcile row device).ipv4Address = row.ipv4Address) :
    ((recordSighting settings device scanner).run clocked world).2.db.addresses =
      world.db.addresses := by
  rw [run_recordSighting_known hknown]
  have hkept := devices_of_recordsEvents
    (Program.exec_run Faulty.allows_clocked _ (world.afterSeen row device))
    (recordKnownDevice_always settings scanner row (reconcile row device))
  unfold Database.addresses
  rw [hkept]
  change (world.db.devices.update _ _).rows.map _ = _
  unfold DevicesTable.update
  rw [List.map_map]
  refine List.map_congr_left fun other hother ↦ ?_
  rw [Function.comp_apply, DevicesTable.updateRow_macAddress]
  unfold DevicesTable.updateRow
  split_ifs with hmac
  · -- The updated row is the one that the sighting found.
    have hsame : other = row := Option.some.inj
      ((DevicesTable.select_eq_some_iff.mpr ⟨hother, hmac⟩).symm.trans hknown)
    rw [hsame]
    exact congrArg _ hipv4
  · rfl

variable {changes : List DeviceChange} {after : World}

/-- A sighting of a settled device is uneventful, and leaves every stored address as it is. -/
theorem uneventful_of_settled (hipv4 : device.ipv4Address ≠ "") (hsettled : world.db.Settled device)
    (hrun : (recordSighting settings device scanner).run clocked world = (some changes, after)) :
    Uneventful changes ∧ after.db.addresses = world.db.addresses := by
  obtain ⟨row, hrow, hsettles⟩ := hsettled
  have hreconciled : (reconcile row device).ipv4Address = row.ipv4Address := by
    rw [hsettles.ipv4Address]
    simp [reconcile, hipv4]
  refine ⟨uneventful_of_unchanged hrow ?_ (vendorChanged_of_settled hsettles.vendor) hrun, ?_⟩
  · rw [hreconciled]
    simp [ipChanged]
  · have haddresses := @addresses_of_recordSighting settings device scanner world row hrow
      hreconciled
    rw [hrun] at haddresses
    exact haddresses

end Sighting

/-! ### A scan -/

section Scan

variable {settings : Settings} {scanner : DeviceEventScanner} {devices : List Device}
  {world after : World} {changes : List DeviceChange}

/-- A scan that returns has recorded its first sighting, and then the others. -/
theorem run_recordSightings_cons {device : Device}
    (hrun : (recordSightings settings scanner (device :: devices)).run clocked world =
      (some changes, after)) :
    ∃ first middle rest,
      (recordSighting settings device scanner).run clocked world = (some first, middle) ∧
        (recordSightings settings scanner devices).run clocked middle = (some rest, after) ∧
          changes = first ++ rest := by
  unfold recordSightings at hrun
  obtain ⟨first, middle, hfirst, hrun⟩ := Program.run_bind_eq_some _ hrun
  obtain ⟨rest, last, hrest, hrun⟩ := Program.run_bind_eq_some _ hrun
  cases hrun
  exact ⟨first, middle, rest, hfirst, hrest, rfl⟩

/-- What every sighting keeps, a scan keeps. -/
theorem recordSightings_keeps {invariant : World → Prop}
    (hkept : ∀ device, (recordSighting settings device scanner).Keeps clocked invariant)
    (devices : List Device) :
    (recordSightings settings scanner devices).Keeps clocked invariant := by
  induction devices with
  | nil => exact .ret _
  | cons device rest ih => exact (hkept device).bind fun _ ↦ ih.bind fun _ ↦ .ret _

/-- A scan returns when the window never leaves the calendar. -/
theorem recordSightings_returns (devices : List Device)
    (hsince : ∀ n, settings.since (world.clock n) ≠ none) :
    ∃ changes after,
      (recordSightings settings scanner devices).run clocked world = (some changes, after) := by
  induction devices generalizing world with
  | nil => exact ⟨_, _, rfl⟩
  | cons device rest ih =>
    obtain ⟨first, middle, hfirst⟩ :=
      @recordSighting_returns settings device scanner world hsince
    obtain ⟨readings, hclock⟩ := clock_of_run (recordSighting settings device scanner) world
    rw [hfirst] at hclock
    have hlater : ∀ n, settings.since (middle.clock n) ≠ none := by
      intro n
      rw [hclock]
      exact hsince _
    obtain ⟨changes, last, hrest⟩ := ih hlater
    unfold recordSightings
    rw [Program.run_bind, hfirst]
    simp only
    rw [Program.run_bind, hrest]
    exact ⟨_, _, rfl⟩

/-- A sighting that agrees with another one leaves its device settled. -/
theorem Database.Settled.step {device other : Device} {changes : List DeviceChange}
    (hipv4 : device.ipv4Address ≠ "")
    (hagree : NocaseEq other.macAddress device.macAddress →
      other.ipv4Address = device.ipv4Address ∧ other.vendor = device.vendor)
    (hsettled : world.db.Settled other)
    (hrun : (recordSighting settings device scanner).run clocked world = (some changes, after)) :
    after.db.Settled other := by
  by_cases hmac : NocaseEq other.macAddress device.macAddress
  · obtain ⟨hsame, hvendor⟩ := hagree hmac
    have hown : ((recordSighting settings device scanner).run clocked world).2.db.Settled device :=
      settled_of_recordSighting hipv4
    rw [hrun] at hown
    obtain ⟨row, hrow, hsettles⟩ := hown
    refine ⟨row, (DevicesTable.select_congr (normalizeMac_congr hmac)).trans hrow, ?_, ?_⟩
    · rw [hsettles.ipv4Address, hsame]
    · rw [hvendor]
      exact hsettles.vendor
  · have hkept := @Database.Settled.other settings device scanner world other hsettled hmac
    rw [hrun] at hkept
    exact hkept

/-- A scan in which the sightings of each MAC agree settles its devices, and those that are settled
already. -/
theorem recordSightings_settles {settled : List Device}
    (hipv4 : ∀ device ∈ devices, device.ipv4Address ≠ "") (hagree : Agree (settled ++ devices))
    (hsettled : ∀ device ∈ settled, world.db.Settled device)
    (hrun : (recordSightings settings scanner devices).run clocked world = (some changes, after)) :
    ∀ device ∈ settled ++ devices, after.db.Settled device := by
  induction devices generalizing world settled changes with
  | nil =>
    cases hrun
    rw [List.append_nil]
    exact hsettled
  | cons device rest ih =>
    obtain ⟨first, middle, later, hfirst, hrest, -⟩ := run_recordSightings_cons hrun
    obtain ⟨hdevice, hothers⟩ := List.forall_mem_cons.mp hipv4
    have hsplit : settled ++ device :: rest = (settled ++ [device]) ++ rest := by simp
    have hown : ((recordSighting settings device scanner).run clocked world).2.db.Settled device :=
      settled_of_recordSighting hdevice
    rw [hfirst] at hown
    rw [hsplit] at hagree ⊢
    refine ih hothers hagree (List.forall_mem_append.mpr ⟨fun other hother ↦ ?_,
      List.forall_mem_singleton.mpr hown⟩) hrest
    refine (hsettled other hother).step hdevice (fun hmac ↦ ?_) hfirst
    exact hagree other (by simp [hother]) device (by simp) hmac

/-- A scan of settled devices is uneventful, and leaves every stored address as it is. -/
theorem recordSightings_uneventful (hipv4 : ∀ device ∈ devices, device.ipv4Address ≠ "")
    (hagree : Agree devices) (hsettled : ∀ device ∈ devices, world.db.Settled device)
    (hrun : (recordSightings settings scanner devices).run clocked world = (some changes, after)) :
    Uneventful changes ∧ after.db.addresses = world.db.addresses := by
  induction devices generalizing world changes with
  | nil =>
    cases hrun
    exact ⟨List.forall_mem_nil _, rfl⟩
  | cons device rest ih =>
    obtain ⟨first, middle, later, hfirst, hrest, rfl⟩ := run_recordSightings_cons hrun
    obtain ⟨hdevice, hothers⟩ := List.forall_mem_cons.mp hipv4
    obtain ⟨hown, hknown⟩ := List.forall_mem_cons.mp hsettled
    obtain ⟨huneventful, haddresses⟩ := uneventful_of_settled hdevice hown hfirst
    have hagreeRest : Agree rest := fun one hone other hother ↦
      hagree one (List.mem_cons_of_mem _ hone) other (List.mem_cons_of_mem _ hother)
    obtain ⟨hlater, hkept⟩ := ih hothers hagreeRest (fun other hother ↦
      (hknown other hother).step hdevice (hagree other (List.mem_cons_of_mem _ hother) device
        List.mem_cons_self) hfirst) hrest
    exact ⟨List.forall_mem_append.mpr ⟨huneventful, hlater⟩, hkept.trans haddresses⟩

end Scan

end Oott
