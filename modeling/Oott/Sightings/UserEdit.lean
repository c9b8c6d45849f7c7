import Oott.Sightings.Reconciliation
import Oott.WebServer.Devices

/-!
# Edits by the user between two sightings

The stored vendor is what the user edits and also what the next sighting is compared with. A
sighting is recorded, the user edits the device, and then the same sighting comes again, outside the
deduplication window. The edits touch no address, so the second sighting shows a change exactly when
the user has left a vendor, not the empty one, that is not the one the scanners deduce
(`seen_again_unchanged_iff`): the sighting then also writes the deduced vendor over the user's.
-/

set_option autoImplicit false
set_option relaxedAutoImplicit false

namespace Oott

open Effects

/-- The change is a `Changed` entry. -/
def DeviceChange.isChanged : DeviceChange → Bool
  | .changed _ _ _ _ => true
  | .new _ => false
  | .backOnline _ _ => false

namespace DeviceRequest

/-- A request to register, update or unregister the device. -/
def Edits (macAddress : String) (request : DeviceRequest) : Prop :=
  NocaseEq request.mac macAddress ∧ ∀ deleted, request ≠ .delete deleted

/-- What a request makes of the registration and the vendor of its device: an update is refused when
the device is not registered, and nothing else writes the vendor. -/
def edit : Bool × String → DeviceRequest → Bool × String
  | (_, vendor), register _ => (true, vendor)
  | (registered, vendor), update _ payload =>
    (registered, if registered then payload.vendor else vendor)
  | (_, vendor), unregister _ => (false, vendor)
  | edited, delete _ => edited

/-- The row of an edited device: the address is kept, and the registration and the vendor are those
of `edit`. -/
structure EditedTo (row : Device) (edited : Bool × String) (later : Device) : Prop where
  ipv4Address : later.ipv4Address = row.ipv4Address
  isRegistered : later.isRegistered = edited.1
  vendor : later.vendor = edited.2

/-- Serving one edit of a device that is there. -/
theorem run_edit {macAddress : String} {request : DeviceRequest} {world : World} {row : Device}
    (hedits : request.Edits macAddress)
    (hrow : world.db.devices.select macAddress = some row) :
    ∃ later, (request.handler.run clocked world).2.db.devices.select macAddress = some later ∧
      EditedTo row (edit (row.isRegistered, row.vendor) request) later ∧
      (request.handler.run clocked world).2.db.deviceEvents = world.db.deviceEvents ∧
      (request.handler.run clocked world).2.clock = world.clock := by
  obtain ⟨hmac, hkept⟩ := hedits
  have hselect : world.db.devices.select request.mac = some row := by
    rw [← hrow]
    exact DevicesTable.select_congr hmac
  rw [run_handler]
  unfold serve
  simp only [hselect]
  -- An update of the row is found again.
  have hupdate := fun clause ↦ DevicesTable.select_update_of_some clause hmac.symm hrow
  cases request with
  | register payload =>
    cases hregistered : row.isRegistered with
    | true =>
      simp only [refusal, WebServer.Devices.registerRefusal, hregistered]
      exact ⟨row, hrow, ⟨rfl, hregistered, rfl⟩, rfl, rfl⟩
    | false =>
      simp only [refusal, WebServer.Devices.registerRefusal, hregistered]
      exact ⟨_, hupdate _, ⟨rfl, rfl, rfl⟩, rfl, rfl⟩
  | update macAddress payload =>
    cases hregistered : row.isRegistered with
    | true =>
      simp only [refusal, WebServer.Devices.updateRefusal, hregistered]
      exact ⟨_, hupdate _, ⟨rfl, hregistered, rfl⟩, rfl, rfl⟩
    | false =>
      simp only [refusal, WebServer.Devices.updateRefusal, hregistered]
      exact ⟨row, hrow, ⟨rfl, hregistered, rfl⟩, rfl, rfl⟩
  | unregister macAddress =>
    cases hregistered : row.isRegistered with
    | true =>
      simp only [refusal, WebServer.Devices.unregisterRefusal, hregistered]
      exact ⟨_, hupdate _, ⟨rfl, rfl, rfl⟩, rfl, rfl⟩
    | false =>
      simp only [refusal, WebServer.Devices.unregisterRefusal, hregistered]
      exact ⟨row, hrow, ⟨rfl, hregistered, rfl⟩, rfl, rfl⟩
  | delete macAddress => exact absurd rfl (hkept macAddress)

/-- Serving any number of edits, one at a time. -/
theorem performAll_edits {macAddress : String} {requests : List DeviceRequest} {world : World}
    {row : Device} (hedits : ∀ request ∈ requests, request.Edits macAddress)
    (hrow : world.db.devices.select macAddress = some row) :
    ∃ later, (performAll clocked handler world requests).2.db.devices.select macAddress =
        some later ∧
      EditedTo row (requests.foldl edit (row.isRegistered, row.vendor)) later ∧
      (performAll clocked handler world requests).2.db.deviceEvents = world.db.deviceEvents ∧
      (performAll clocked handler world requests).2.clock = world.clock := by
  rw [performAll_state]
  induction requests generalizing world row with
  | nil => exact ⟨row, hrow, ⟨rfl, rfl, rfl⟩, rfl, rfl⟩
  | cons request requests ih =>
    obtain ⟨hfirst, hrest⟩ := List.forall_mem_cons.mp hedits
    obtain ⟨middle, hmiddle, hedited, hevents, hclock⟩ := run_edit hfirst hrow
    obtain ⟨later, hlater, hlast, hevents', hclock'⟩ := ih hrest hmiddle
    rw [hedited.isRegistered, hedited.vendor] at hlast
    exact ⟨later, hlater, ⟨hlast.ipv4Address.trans hedited.ipv4Address, hlast.isRegistered,
      hlast.vendor⟩, hevents'.trans hevents, hclock'.trans hclock⟩

end DeviceRequest

/-- At every reading of the clock, every event of the device is older than the window. -/
def World.OutsideWindow (settings : Settings) (macAddress : String) (world : World) : Prop :=
  ∀ n, ∀ event ∈ world.db.deviceEvents, NocaseEq event.macAddress macAddress →
    event.createdOn.nanos + settings.deduplicationWindow.nanos < (world.clock n).nanos

section Sighting

variable {settings : Settings} {device recorded : Device} {scanner : DeviceEventScanner}
  {world : World}

/-- Later than the window after some event, the window is in the calendar. -/
theorem World.OutsideWindow.since_ne_none {macAddress : String} {event : DeviceEvent}
    (houtside : world.OutsideWindow settings macAddress)
    (hevent : event ∈ world.db.deviceEvents) (hmac : NocaseEq event.macAddress macAddress) (n : ℕ) :
    settings.since (world.clock n) ≠ none := by
  have hlater := houtside n event hevent hmac
  have hshort := settings.effectiveWindow_le
  have hnonneg := settings.effectiveWindow_nonneg
  have hcreated := event.createdOn.inRange
  have hclock := (world.clock n).inRange
  have hstart : settings.since (world.clock n) =
      some ⟨(world.clock n).nanos - settings.effectiveWindow.nanos, by omega⟩ :=
    Instant.sub_eq_some.mpr rfl
  rw [hstart]
  exact Option.some_ne_none _

/-- Outside the window, a sighting of a known device returns no `Changed` entry exactly when it
shows neither another address nor another vendor. -/
theorem recordSighting_unchanged_iff
    (hknown : world.db.devices.select (normalizeMac device.macAddress) = some recorded)
    (houtside : world.OutsideWindow settings device.macAddress)
    (hsince : ∀ n, settings.since (world.clock n) ≠ none) :
    ∃ returned after,
      (recordSighting settings device scanner).run clocked world = (some returned, after) ∧
        ((∀ change ∈ returned, change.isChanged = false) ↔
          ipChanged recorded.ipv4Address (reconcile recorded device).ipv4Address = false ∧
            vendorChanged recorded.vendor (reconcile recorded device).vendor = false) := by
  obtain ⟨returned, after, hrun⟩ := recordKnownDevice_returns settings scanner
    (reconcile recorded device) recorded (world.afterSeen recorded device) fun n ↦ hsince (n + 1)
  obtain ⟨inserted, readings, -, hsublist, hannounced⟩ := recordKnownDevice_spec hrun
  refine ⟨returned, after, (run_recordSighting_known hknown).trans hrun, ?_⟩
  rw [← Bool.not_eq_true, ← Bool.not_eq_true, ← not_or]
  constructor
  · intro hunchanged hflags
    have hchange := hannounced _ (changed_mem_changesAt.mpr ⟨hflags, rfl, rfl, rfl, rfl⟩)
    have hmem := hchange.mem_returned fun n since hstart row hrow hmac ↦ by
      have hold := houtside (n + 1) row hrow hmac
      by_contra hinWindow
      have hage := Settings.age_le_of_since hstart (not_lt.mp hinWindow)
      change (world.clock (n + 1)).nanos - row.createdOn.nanos ≤ _ at hage
      omega
    exact absurd (hunchanged _ hmem) (by simp [DeviceChange.isChanged])
  · intro hflags change hmem
    cases change with
    | new device => rfl
    | backOnline device absentFor => rfl
    | changed old seen ipFlag vendorFlag =>
      exact absurd (changed_mem_changesAt.mp (hsublist.subset hmem)).1 hflags

/-- The address that a sighting leaves is no change to the same address later. -/
theorem reconcile_ipv4Address_unchanged {row second : Device}
    (hipv4 : second.ipv4Address = device.ipv4Address)
    (hrow : row.ipv4Address = (reconcile recorded device).ipv4Address) :
    ipChanged row.ipv4Address (reconcile row second).ipv4Address = false := by
  have hself : ipChanged row.ipv4Address row.ipv4Address = false := by simp [ipChanged]
  by_cases hempty : device.ipv4Address = ""
  · simp [reconcile, hipv4, hempty, hself]
  · have hkept : row.ipv4Address = device.ipv4Address := by simp [hrow, reconcile, hempty]
    rw [← hself]
    simp [reconcile, hipv4, hempty, hkept]

/-- A sighting shows another vendor than the stored one when the vendor it deduces, not the empty
one, differs from it. -/
theorem vendorChanged_reconcile (row second : Device) :
    vendorChanged row.vendor (reconcile row second).vendor =
      vendorChanged row.vendor second.vendor := by
  by_cases hempty : second.vendor = ""
  · rw [reconcile_vendor_of_eq hempty]
    simp [vendorChanged, hempty]
  · rw [reconcile_vendor_of_ne hempty]

/-- Nothing is a change to a device of which no vendor is deduced. -/
theorem vendorChanged_empty (existing : String) : vendorChanged existing "" = false := by
  simp [vendorChanged]

end Sighting

/-- A known device is sighted, the user edits it, and the same sighting comes again, outside the
deduplication window, with every call succeeding. The second sighting returns no `Changed` entry
exactly when the vendor that the edits leave is empty or the one the sighting deduces, or the
sighting deduces none. -/
theorem seen_again_unchanged_iff (settings : Settings) {world seen : World}
    {device second recorded : Device} {scanner scanner' : DeviceEventScanner}
    {changes : List DeviceChange} (requests : List DeviceRequest)
    (hknown : world.db.devices.select (normalizeMac device.macAddress) = some recorded)
    (hseen : (recordSighting settings device scanner).run clocked world = (some changes, seen))
    (hedits : ∀ request ∈ requests, request.Edits device.macAddress)
    (houtside : (performAll clocked DeviceRequest.handler seen requests).2.OutsideWindow settings
      device.macAddress)
    (hmac : second.macAddress = device.macAddress)
    (hipv4 : second.ipv4Address = device.ipv4Address) (hvendor : second.vendor = device.vendor) :
    ∃ returned last, (recordSighting settings second scanner').run clocked
        (performAll clocked DeviceRequest.handler seen requests).2 = (some returned, last) ∧
      ((∀ change ∈ returned, change.isChanged = false) ↔
        vendorChanged
          (requests.foldl DeviceRequest.edit (recorded.isRegistered, device.vendor)).2
          device.vendor = false) := by
  -- The row and an event that the first sighting leaves.
  have hrow := @row_of_recordSighting_known settings device recorded scanner world hknown
  rw [hseen] at hrow
  rw [run_recordSighting_known hknown] at hseen
  obtain ⟨event, hevent, hsame⟩ := exists_event_of_recordKnownDevice hseen
  change NocaseEq event.macAddress device.macAddress at hsame
  change seen.db.devices.select _ = _ at hrow
  -- The row after the edits.
  have hkeyed : ∀ request ∈ requests, request.Edits (normalizeMac device.macAddress) :=
    fun request hmem ↦ ⟨(hedits request hmem).1.trans (nocaseEq_normalizeMac _).symm,
      (hedits request hmem).2⟩
  obtain ⟨later, hlater, hedited, hevents, -⟩ := DeviceRequest.performAll_edits hkeyed hrow
  generalize (performAll clocked DeviceRequest.handler seen requests).2 = edited at *
  rw [← hmac] at houtside hlater hsame
  rw [← hevents] at hevent
  obtain ⟨returned, last, hrun, hunchanged⟩ := @recordSighting_unchanged_iff settings second later
    scanner' edited hlater houtside (houtside.since_ne_none hevent hsame)
  refine ⟨returned, last, hrun, hunchanged.trans ?_⟩
  rw [reconcile_ipv4Address_unchanged hipv4 hedited.ipv4Address, vendorChanged_reconcile, hvendor,
    hedited.vendor, reconcile_vendor]
  by_cases hempty : device.vendor = ""
  · rw [hempty, vendorChanged_empty, vendorChanged_empty]
    exact ⟨fun _ ↦ rfl, fun _ ↦ ⟨rfl, rfl⟩⟩
  · rw [reconcile_vendor_of_ne hempty]
    exact ⟨fun h ↦ h.2, fun h ↦ ⟨rfl, h⟩⟩

/-- The first day after the epoch. -/
def Instant.nextDay : Instant := ⟨86400 * 10 ^ 9, by decide⟩

/-- A clock that a first sighting reads four times at the epoch; a day later is the next reading. -/
def overnight : ℕ → Instant
  | 0 | 1 | 2 | 3 => .epoch
  | _ + 4 => .nextDay

/-- The registered device, seen with the vendor that its MAC stands for. -/
def acmeNas : Device :=
  buildDevice ⟨macVendorsDatabase [⟨"aa:00:00", "Acme"⟩], [], []⟩ "aa:00:00:00:00:01" "10.0.0.1" []
    none .epoch

/-- The registered device is known. -/
def nasKnown : World := ⟨⟨.single registeredNas, []⟩, overnight⟩

/-- The world after the device has been seen for the first time. -/
def nasSeen : World := ((recordSighting .default acmeNas .arp).run clocked nasKnown).2

/-- An update that leaves everything but the vendor. -/
def vendorUpdate (vendor : String) : DeviceRequest :=
  .update "AA:00:00:00:00:01" ⟨"Ada", "Server", vendor, some "nas"⟩

/-- With the vendor that the scanners deduce, the second sighting shows no change. -/
theorem seen_again_unchanged_iff_acme :
    ∃ returned last, (recordSighting .default acmeNas .mdns).run clocked
        (performAll clocked DeviceRequest.handler nasSeen [vendorUpdate "Acme"]).2 =
          (some returned, last) ∧
      ∀ change ∈ returned, change.isChanged = false := by
  have hknown : nasKnown.db.devices.select (normalizeMac acmeNas.macAddress) =
      some registeredNas := by decide +kernel
  have hchanges : ((recordSighting .default acmeNas .arp).run clocked nasKnown).1 = some [] := by
    decide +kernel
  have hsighting : (recordSighting .default acmeNas .arp).run clocked nasKnown =
      (some [], nasSeen) := Prod.ext hchanges rfl
  have hedits : ∀ request ∈ [vendorUpdate "Acme"], request.Edits acmeNas.macAddress := by
    refine List.forall_mem_singleton.mpr ⟨?_, fun _ ↦ nofun⟩
    decide +kernel
  have hvendor : vendorChanged (([vendorUpdate "Acme"].foldl DeviceRequest.edit
      (registeredNas.isRegistered, acmeNas.vendor)).2) acmeNas.vendor = false := by decide +kernel
  have hclock : (performAll clocked DeviceRequest.handler nasSeen [vendorUpdate "Acme"]).2.clock =
      fun _ ↦ .nextDay := rfl
  have hage : ∀ event ∈ (performAll clocked DeviceRequest.handler nasSeen
      [vendorUpdate "Acme"]).2.db.deviceEvents, event.createdOn.nanos +
        Settings.default.deduplicationWindow.nanos < Instant.nextDay.nanos := by decide +kernel
  have houtside : (performAll clocked DeviceRequest.handler nasSeen
      [vendorUpdate "Acme"]).2.OutsideWindow .default acmeNas.macAddress := by
    intro n event hevent _
    rw [hclock]
    exact hage event hevent
  obtain ⟨returned, last, hrun, hunchanged⟩ := @seen_again_unchanged_iff .default nasKnown nasSeen
    acmeNas acmeNas registeredNas .arp .mdns [] [vendorUpdate "Acme"] hknown
    hsighting hedits houtside rfl rfl rfl
  exact ⟨returned, last, hrun, hunchanged.mpr hvendor⟩

/-- With a vendor of the user's, the second sighting reports a change of vendor. -/
theorem user_vendor_reported_as_change :
    ((recordSighting .default acmeNas .arp).run clocked
      (performAll clocked DeviceRequest.handler nasSeen [vendorUpdate "Synology"]).2).1 =
      some [.changed { registeredNas with vendor := "Synology" } (reconcile registeredNas acmeNas)
        false true] := by
  decide +kernel

end Oott
