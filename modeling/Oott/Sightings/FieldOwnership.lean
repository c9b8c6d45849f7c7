import Oott.Operations
import Oott.Effects.Sequential

/-!
# Which operation owns which column

Registration and owner belong to the device API, the address and the vendor of a device can only be
replaced by other ones, and a name or a type that is there is the user's to change. `Canonical` is
what holds of every row of the `devices` table after any run; `SightingKeeps` is what a sighting of
a known device keeps of its row. Database calls may fail anywhere.
-/

set_option autoImplicit false
set_option relaxedAutoImplicit false

namespace Oott

open Effects

/-- A row is stored under the lowercase form of its MAC, and has no owner while unregistered. -/
structure Device.Canonical (row : Device) : Prop where
  lowercase : normalizeMac row.macAddress = row.macAddress
  unowned : row.isRegistered = false → row.owner = ""

/-- What the sighting of a known device keeps of its row. -/
structure SightingKeeps (recorded row : Device) : Prop where
  isRegistered : row.isRegistered = recorded.isRegistered
  owner : row.owner = recorded.owner
  name : recorded.name ≠ none → row.name = recorded.name
  deviceType : recorded.deviceType ≠ "" → row.deviceType = recorded.deviceType
  ipv4Address : recorded.ipv4Address ≠ "" → row.ipv4Address ≠ ""
  vendor : recorded.vendor ≠ "" → row.vendor ≠ ""

theorem SightingKeeps.refl (row : Device) : SightingKeeps row row :=
  ⟨rfl, rfl, fun _ ↦ rfl, fun _ ↦ rfl, id, id⟩

/-! ### The clauses -/

section Clauses

variable (recorded device : Device) (instant : Instant)

/-- The carry-over and the conditional columns together keep what a sighting must not lose. -/
theorem sightingClause_keeps :
    SightingKeeps recorded ((sightingClause recorded device instant).apply recorded) where
  isRegistered := rfl
  owner := rfl
  name := by
    intro hname
    obtain ⟨stored, hstored⟩ := Option.ne_none_iff_exists'.mp hname
    rw [sightingClause_apply_name, hstored]
    rfl
  deviceType := by
    intro htype
    rw [sightingClause_apply_deviceType, if_pos (Or.inr htype)]
  ipv4Address := by
    intro hipv4
    by_cases hseen : device.ipv4Address = ""
    · simpa [SetClause.apply, sightingClause, Db.Devices.seenClause, reconcile, hseen] using hipv4
    · simp [SetClause.apply, sightingClause, Db.Devices.seenClause, reconcile, hseen]
  vendor := by
    intro hvendor
    have hkept : (reconcile recorded device).vendor ≠ "" :=
      fun h ↦ hvendor (reconcile_vendor_eq_empty_iff.mp h).2
    rwa [sightingClause_apply_vendor, if_neg hkept]

end Clauses

/-! ### What each operation keeps -/

/-- The write of a request that passed its check leaves no unregistered device with an owner. -/
theorem DeviceRequest.write_unowned {request : DeviceRequest} {db : Database} {device : Device}
    (hrows : ∀ row ∈ db.devices.rows, row.isRegistered = false → row.owner = "")
    (hselect : db.devices.select request.mac = some device)
    (hrefusal : request.refusal device = none) :
    ∀ row ∈ (request.write db).devices.rows, row.isRegistered = false → row.owner = "" := by
  cases request with
  | register payload =>
    refine DevicesTable.forall_update hrows fun row hrow hunregistered ↦ ?_
    simp [SetClause.apply, Db.Devices.registerClause] at hunregistered
  | update macAddress payload =>
    refine DevicesTable.forall_update hrows fun row hrow hunregistered ↦ ?_
    -- The matched row is the one that was read, and that one is registered.
    have hsame : some row = some device := hrow.symm.trans hselect
    rw [Option.some.inj hsame] at hunregistered
    change device.isRegistered = false at hunregistered
    simp [DeviceRequest.refusal, WebServer.Devices.updateRefusal, hunregistered] at hrefusal
  | unregister macAddress => exact DevicesTable.forall_update hrows fun row _ _ ↦ rfl
  | delete macAddress =>
    intro row hrow
    exact hrows row (DevicesTable.mem_delete.mp hrow).1

/-- The write of a request leaves every row under the MAC of some row that was there. -/
theorem DeviceRequest.write_macAddress (request : DeviceRequest) {db : Database}
    (kept : String → Prop) (hrows : ∀ row ∈ db.devices.rows, kept row.macAddress) :
    ∀ row ∈ (request.write db).devices.rows, kept row.macAddress := by
  have hupdate : ∀ (clause : SetClause) (mac : String),
      ∀ row ∈ (db.devices.update clause mac).rows, kept row.macAddress := fun clause mac ↦
    DevicesTable.forall_update hrows fun row hrow ↦ hrows row (DevicesTable.mem_of_select hrow)
  cases request with
  | register payload => exact hupdate _ _
  | update macAddress payload => exact hupdate _ _
  | unregister macAddress => exact hupdate _ _
  | delete macAddress =>
    intro row hrow
    exact hrows row (DevicesTable.mem_delete.mp hrow).1

/-- A request keeps every row canonical, whatever fails. -/
theorem DeviceRequest.canonical {request : DeviceRequest} {world after : World}
    {outcome : Option Reply} (hexec : Program.Exec Faulty request.handler world outcome after)
    (hrows : ∀ row ∈ world.db.devices.rows, row.Canonical) :
    ∀ row ∈ after.db.devices.rows, row.Canonical := by
  rcases DeviceRequest.exec_handler hexec with hsame | ⟨device, hselect, hrefusal, -, hwrite⟩
  · rw [hsame]
    exact hrows
  · rw [hwrite]
    have hlower := request.write_macAddress (fun mac ↦ normalizeMac mac = mac)
      fun row hrow ↦ (hrows row hrow).lowercase
    have hunowned := DeviceRequest.write_unowned (fun row hrow ↦ (hrows row hrow).unowned) hselect
      hrefusal
    exact fun row hrow ↦ ⟨hlower row hrow, hunowned row hrow⟩

/-- A sighting of an unregistered device without owner, as `build_device` makes them, keeps every
row canonical, whatever fails. -/
theorem recordSighting_canonical {settings : Settings} {device : Device}
    {scanner : DeviceEventScanner} {world after : World} {outcome : Option (List DeviceChange)}
    (hexec : Program.Exec Faulty (recordSighting settings device scanner) world outcome after)
    (howner : device.owner = "") (hrows : ∀ row ∈ world.db.devices.rows, row.Canonical) :
    ∀ row ∈ after.db.devices.rows, row.Canonical := by
  rcases devices_of_recordSighting hexec with hsame | ⟨recorded, instant, -, hupdate⟩ | hinsert
  · rw [hsame]
    exact hrows
  · rw [hupdate]
    refine DevicesTable.forall_update hrows fun row hrow ↦ ?_
    have hcanonical := hrows row (DevicesTable.mem_of_select hrow)
    exact ⟨hcanonical.lowercase, hcanonical.unowned⟩
  · exact DevicesTable.forall_insert hinsert hrows ⟨normalizeMac_idem _, fun _ ↦ howner⟩

/-- A sighting of a known device keeps the owned columns of its row and every other row, whatever
fails. -/
theorem recordSighting_keeps {settings : Settings} {device recorded : Device}
    {scanner : DeviceEventScanner} {world after : World} {outcome : Option (List DeviceChange)}
    (hexec : Program.Exec Faulty (recordSighting settings device scanner) world outcome after)
    (hknown : world.db.devices.select (normalizeMac device.macAddress) = some recorded) :
    (∃ row, after.db.devices.select (normalizeMac device.macAddress) = some row ∧
      SightingKeeps recorded row) ∧
    ∀ mac, ¬ NocaseEq mac device.macAddress →
      after.db.devices.select mac = world.db.devices.select mac := by
  rcases devices_of_recordSighting hexec with hsame | ⟨stored, instant, hread, hupdate⟩ | hinsert
  · rw [hsame]
    exact ⟨⟨recorded, hknown, SightingKeeps.refl recorded⟩, fun mac _ ↦ rfl⟩
  · obtain rfl : recorded = stored := Option.some.inj (hknown.symm.trans hread)
    rw [hupdate]
    constructor
    · refine ⟨_, ?_, sightingClause_keeps recorded device instant⟩
      exact DevicesTable.select_update_of_some _ (NocaseEq.refl _) hknown
    · intro mac hmac
      refine DevicesTable.select_update_other _ fun hsame ↦ hmac ?_
      exact hsame.trans (nocaseEq_normalizeMac _)
  · have hfree := (DevicesTable.rows_of_insert hinsert).2
    rw [hknown] at hfree
    cases hfree

/-- Every operation of the backend keeps every row canonical, whatever fails. -/
theorem Operation.canonical {settings : Settings} {databases : Databases} {operation : Operation}
    {world after : World} {outcome : Option operation.Outcome}
    (hexec : Program.Exec Faulty (operation.program settings) world outcome after)
    (hbuilt : operation.Built databases)
    (hrows : ∀ row ∈ world.db.devices.rows, row.Canonical) :
    ∀ row ∈ after.db.devices.rows, row.Canonical := by
  cases operation with
  | sighting device scanner =>
    obtain ⟨mac, ipv4, serviceHints, name, instant, hdevice⟩ := hbuilt
    have howner : device.owner = "" := by
      rw [hdevice]
      exact (buildDevice_unregistered databases mac ipv4 serviceHints name instant).2
    exact recordSighting_canonical hexec howner hrows
  | request served => exact DeviceRequest.canonical hexec hrows
  | sweep =>
    rcases exec_sweep hexec with hsame | ⟨cutoff, hdeleted⟩
    · rw [hsame]
      exact hrows
    · rw [hdeleted]
      exact hrows

/-- Field ownership over whole runs: from an empty database, whatever the operations and whichever
of their database calls fail, a MAC occurs in at most one row and in lowercase, an unregistered
device has no owner, and a sighting of a known device keeps what is not its own to change. -/
theorem field_ownership (settings : Settings) (databases : Databases) (clock : ℕ → Instant)
    {history : List (Completed Operation Operation.Outcome World)} {last : World}
    (hrun : Sequential (fun operation ↦ Program.Exec Faulty (operation.program settings))
      ⟨Database.empty, clock⟩ history last)
    (hbuilt : ∀ completed ∈ history, completed.activity.Built databases) :
    (last.db.devices.rows.map fun row ↦ normalizeMac row.macAddress).Nodup ∧
    (∀ row ∈ last.db.devices.rows, row.Canonical) ∧
    ∀ completed ∈ history, ∀ device scanner, completed.activity = .sighting device scanner →
      ∀ recorded, completed.before.db.devices.select (normalizeMac device.macAddress) =
          some recorded →
        (∃ row, completed.after.db.devices.select (normalizeMac device.macAddress) = some row ∧
          SightingKeeps recorded row) ∧
        ∀ mac, ¬ NocaseEq mac device.macAddress →
          completed.after.db.devices.select mac = completed.before.db.devices.select mac := by
  refine ⟨?_, ?_, ?_⟩
  · exact List.pairwise_map.mpr last.db.devices.primaryKey
  · refine hrun.invariant (fun world ↦ ∀ row ∈ world.db.devices.rows, row.Canonical)
      (fun completed ↦ completed.activity.Built databases) (List.forall_mem_nil _) ?_ hbuilt
    intro completed hexec hcompleted hrows
    exact Operation.canonical hexec hcompleted hrows
  · intro completed hmem device scanner hactivity recorded hknown
    obtain ⟨-, -, hexec⟩ := hrun.reached hmem
    obtain ⟨before, activity, outcome, after⟩ := completed
    subst hactivity
    exact recordSighting_keeps hexec hknown

/-- A discovery, a registration and a later sighting that carries no address. -/
def registeredAndSeenAgain : List Operation := [
  .sighting (buildDevice ⟨[], [], []⟩ "AA:00:00:00:00:01" "10.0.0.1" [] (some "nas") .epoch) .mdns,
  .request (.register ⟨"aa:00:00:00:00:01", "Ada", "Server", none⟩),
  .sighting (buildDevice ⟨[], [], []⟩ "aa:00:00:00:00:01" "" [] none .epoch) .dhcp]

/-- What the three operations leave. -/
def afterRegisteredAndSeenAgain : Database :=
  (performAll clocked (Operation.program .default) ⟨Database.empty, fun _ ↦ .epoch⟩
    registeredAndSeenAgain).2.db

theorem registeredAndSeenAgain_canonical :
    (afterRegisteredAndSeenAgain.devices.rows.map fun row ↦ normalizeMac row.macAddress).Nodup ∧
      ∀ row ∈ afterRegisteredAndSeenAgain.devices.rows, row.Canonical := by
  have howned := field_ownership .default ⟨[], [], []⟩ (fun _ ↦ .epoch)
    (Sequential.performAll clocked _ Faulty.allows_clocked _ registeredAndSeenAgain) ?_
  · unfold afterRegisteredAndSeenAgain
    exact ⟨howned.1, howned.2.1⟩
  intro completed hmem
  have hactivity := performAll_activity _ _ _ _ completed hmem
  simp only [registeredAndSeenAgain, List.mem_cons, List.not_mem_nil, or_false] at hactivity
  rcases hactivity with h | h | h
  · rw [h]
    exact ⟨_, _, _, _, _, rfl⟩
  · rw [h]
    trivial
  · rw [h]
    exact ⟨_, _, _, _, _, rfl⟩

end Oott
