import Oott.Notifications.Consolidation
import Mathlib.Data.List.DropRight
import Mathlib.Data.List.Forall2

/-!
# No address in a notification

Two versions of the changes of a scan that differ in the addresses of the devices only give
notifications of the same types with the same bodies. The title of a notification for one device
shows the last five characters of its MAC when the device has neither a name nor a vendor, and
there the two versions may differ (`notices_masked`). So the IPv4 addresses are in no notification,
and of the MACs what is handed to the delivery task has two octets at most
(`notifications_leak_no_address`).
-/

set_option autoImplicit false
set_option relaxedAutoImplicit false

namespace Oott

open Effects

/-! ### Versions of a scan -/

/-- The changes are of one kind, with the same flags and times, and their devices are related. -/
inductive DeviceChange.Related (related : Device → Device → Prop) :
    DeviceChange → DeviceChange → Prop
  | new {device device' : Device} (hdevice : related device device') :
      Related related (.new device) (.new device')
  | backOnline {device device' : Device} (absentFor : StdDuration)
      (hdevice : related device device') :
      Related related (.backOnline device absentFor) (.backOnline device' absentFor)
  | changed {existing existing' device device' : Device} (ipChanged vendorChanged : Bool)
      (hexisting : related existing existing') (hdevice : related device device') :
      Related related (.changed existing device ipChanged vendorChanged)
        (.changed existing' device' ipChanged vendorChanged)

/-- Two versions of a list of changes, with related devices. -/
def Versions (related : Device → Device → Prop) : List DeviceChange → List DeviceChange → Prop :=
  List.Forall₂ (DeviceChange.Related related)

/-- The devices have the same columns but for the two addresses, with related MACs. -/
def DifferInAddresses (macs : String → String → Prop) (device device' : Device) : Prop :=
  macs device.macAddress device'.macAddress ∧
    ∃ ipv4Address macAddress,
      device' = { device with ipv4Address := ipv4Address, macAddress := macAddress }

/-- The devices have the same columns but for the IPv4 address. -/
def DifferInIpv4 (device device' : Device) : Prop :=
  ∃ ipv4Address, device' = { device with ipv4Address := ipv4Address }

/-- Every character is an ASCII one. -/
def IsAscii (text : String) : Prop := ∀ char ∈ text.toList, char.toNat < 128

/-- The devices have the same columns but for the MAC, which is ASCII text. -/
def DifferInMac (device device' : Device) : Prop :=
  IsAscii device.macAddress ∧
    ∃ macAddress, IsAscii macAddress ∧ device' = { device with macAddress := macAddress }

/-- The last five characters of a MAC: its last two octets. -/
def lastOctets (macAddress : String) : List Char := macAddress.toList.rtake 5

/-- Notifications of two versions of the devices of one type of change: they differ in the MAC, and
in the title of a device without a name and a vendor whose MACs end in different octets. -/
structure Notice.Masked (macs : String → String → Prop) (devices devices' : List Device)
    (notice notice' : Notice) : Prop where
  notificationType : notice.notificationType = notice'.notificationType
  body : notice.body = notice'.body
  macAddress : Option.Rel macs notice.macAddress notice'.macAddress
  title : notice.title = notice'.title ∨ ∃ device device',
    devices = [device] ∧ devices' = [device'] ∧ macs device.macAddress device'.macAddress ∧
      device.name.getD "" = "" ∧ device.vendor = "" ∧
      lastOctets device.macAddress ≠ lastOctets device'.macAddress

/-! ### One device -/

section Devices

variable {macs : String → String → Prop} {device device' : Device}

/-- The masked MAC shows the last two octets. -/
theorem macSuffix_eq (macAddress : String) :
    macSuffix macAddress = String.ofList (lastOctets macAddress) := by
  unfold macSuffix lastOctets List.rtake
  split_ifs with hlong
  · rfl
  · rw [Nat.sub_eq_zero_of_le (not_lt.mp hlong), List.drop_zero, String.ofList_toList]

/-- The identity in a title is the same, unless it is made of different octets. -/
theorem titleIdentity_or (hdevice : DifferInAddresses macs device device') :
    titleIdentity device = titleIdentity device' ∨
      device.name.getD "" = "" ∧ device.vendor = "" ∧
        lastOctets device.macAddress ≠ lastOctets device'.macAddress := by
  obtain ⟨-, ipv4Address, macAddress, rfl⟩ := hdevice
  unfold titleIdentity
  rw [filter_name]
  by_cases hname : device.name.getD "" = ""
  · by_cases hvendor : device.vendor = ""
    · by_cases hoctets : lastOctets device.macAddress = lastOctets macAddress
      · left
        rw [macSuffix_eq, macSuffix_eq, hoctets]
      · exact .inr ⟨hname, hvendor, hoctets⟩
    · left
      simp only [if_pos hvendor]
  · left
    rw [if_neg hname]
    cases hsome : device.name with
    | none => exact absurd (by rw [hsome]; rfl) hname
    | some name => rfl

/-- The lines on the devices in a summary show no address. -/
theorem listing_congr {devices devices' : List Device}
    (hdevices : List.Forall₂ (DifferInAddresses macs) devices devices') :
    listing devices = listing devices' := by
  have hlines : ∀ {devices devices' : List Device},
      List.Forall₂ (DifferInAddresses macs) devices devices' →
        summaryLines devices = summaryLines devices' := by
    intro devices devices' hdevices
    induction hdevices with
    | nil => rfl
    | cons hfirst hrest ih =>
      obtain ⟨-, ipv4Address, macAddress, rfl⟩ := hfirst
      unfold summaryLines
      rw [ih]
      rfl
  unfold listing
  rw [hlines (List.forall₂_take 3 hdevices), hdevices.length_eq]

/-- The notification for one device shows its addresses in the identity at most. -/
theorem masked_single {notificationType : NotificationType} {text text' : String × String}
    (hdevice : DifferInAddresses macs device device') (heading : String)
    (htitle : text.1 = heading ++ titleIdentity device)
    (htitle' : text'.1 = heading ++ titleIdentity device') (hbody : text.2 = text'.2) :
    (Notice.of notificationType text (some device.macAddress)).Masked macs [device] [device']
      (.of notificationType text' (some device'.macAddress)) := by
  refine ⟨rfl, hbody, .some hdevice.1, ?_⟩
  rcases titleIdentity_or hdevice with hsame | ⟨hname, hvendor, hoctets⟩
  · left
    change text.1 = text'.1
    rw [htitle, htitle', hsame]
  · exact .inr ⟨device, device', rfl, rfl, hdevice.1, hname, hvendor, hoctets⟩

end Devices

/-! ### A kind of change -/

section Kinds

variable {macs : String → String → Prop}

/-- A kind of change shows no more of the addresses than its notification for one device does. -/
theorem Consolidates.masked {α : Type} {notificationType : NotificationType} {device : α → Device}
    {kind : List α → Option Notice} (hkind : Consolidates notificationType device kind)
    {related : α → α → Prop}
    (hdevice : ∀ member member', related member member' →
      DifferInAddresses macs (device member) (device member'))
    (hsingle : ∀ member member', related member member' →
      Option.Rel (Notice.Masked macs [device member] [device member']) (kind [member])
        (kind [member']))
    {members members' : List α} (hmembers : List.Forall₂ related members members') :
    Option.Rel (Notice.Masked macs (members.map device) (members'.map device)) (kind members)
      (kind members') := by
  cases hmembers with
  | nil =>
    rw [hkind.empty]
    exact .none
  | @cons member member' _ _ hfirst hlater =>
    cases hlater with
    | nil => exact hsingle _ _ hfirst
    | @cons second second' rest rest' hsecond hrest =>
      have hlisting : listing ((member :: second :: rest).map device) =
          listing ((member' :: second' :: rest').map device) := by
        refine @listing_congr macs _ _ ?_
        rw [List.forall₂_map_left_iff, List.forall₂_map_right_iff]
        exact (List.Forall₂.cons hfirst (.cons hsecond hrest)).imp hdevice
      rw [hkind.several, hkind.several, hlisting, hrest.length_eq]
      exact .some ⟨rfl, rfl, .none, .inl rfl⟩

theorem notifyNewDevices_masked {devices devices' : List Device}
    (hdevices : List.Forall₂ (DifferInAddresses macs) devices devices') :
    Option.Rel (Notice.Masked macs (devices.map id) (devices'.map id)) (notifyNewDevices devices)
      (notifyNewDevices devices') := by
  refine notifyNewDevices_consolidates.masked (fun _ _ hdevice ↦ hdevice)
    (fun device device' hdevice ↦ .some ?_) hdevices
  refine masked_single hdevice "New device on your network: " rfl rfl ?_
  obtain ⟨-, ipv4Address, macAddress, rfl⟩ := hdevice
  rfl

theorem notifyBackOnline_masked (durationString : StdDuration → String)
    {devices devices' : List (Device × StdDuration)}
    (hdevices : List.Forall₂ (fun member member' ↦
      DifferInAddresses macs member.1 member'.1 ∧ member.2 = member'.2) devices devices') :
    Option.Rel (Notice.Masked macs (devices.map Prod.fst) (devices'.map Prod.fst))
      (notifyBackOnline durationString devices) (notifyBackOnline durationString devices') := by
  refine (notifyBackOnline_consolidates durationString).masked (fun _ _ hdevice ↦ hdevice.1)
    ?_ hdevices
  rintro ⟨device, absentFor⟩ ⟨device', _⟩ ⟨hdevice, rfl⟩
  refine .some (masked_single hdevice
    ("Device back online after " ++ durationText durationString absentFor ++ ": ") rfl rfl ?_)
  obtain ⟨-, ipv4Address, macAddress, hsame⟩ := hdevice
  dsimp only at hsame
  rw [hsame]
  rfl

theorem notifyChanged_masked {devices devices' : List (Device × Device × Bool × Bool)}
    (hdevices : List.Forall₂ (fun member member' ↦ DifferInAddresses macs member.1 member'.1 ∧
      DifferInAddresses macs member.2.1 member'.2.1 ∧ member.2.2 = member'.2.2)
      devices devices') :
    Option.Rel (Notice.Masked macs (devices.map fun change ↦ change.2.1)
      (devices'.map fun change ↦ change.2.1)) (notifyChanged devices) (notifyChanged devices') := by
  refine notifyChanged_consolidates.masked (fun _ _ hdevice ↦ hdevice.2.1) ?_ hdevices
  rintro ⟨existing, device, ipChanged, vendorChanged⟩ ⟨existing', device', _, _⟩
    ⟨hexisting, hdevice, hflags⟩
  cases hflags
  refine .some (masked_single hdevice (changedPrefix ipChanged vendorChanged) rfl rfl ?_)
  obtain ⟨-, ipv4Address, macAddress, hsame⟩ := hdevice
  obtain ⟨-, ipv4Address', macAddress', hsame'⟩ := hexisting
  dsimp only at hsame hsame'
  rw [hsame, hsame']
  rfl

/-- The notification of a kind of change has the type of the kind. -/
theorem Consolidates.notificationType_eq {α : Type} {notificationType : NotificationType}
    {device : α → Device} {kind : List α → Option Notice} {members : List α} {notice : Notice}
    (hkind : Consolidates notificationType device kind) (hnotice : kind members = some notice) :
    notice.notificationType = notificationType := by
  have htypes := @Consolidates.types _ _ _ _ members hkind
  have hmem : notice.notificationType ∈ (kind members).toList.map Notice.notificationType := by
    rw [hnotice]
    exact List.mem_singleton_self _
  rw [htypes] at hmem
  exact List.mem_singleton.mp (List.mem_filter.mp hmem).1

/-- The notification of a kind of change, if there is one, for the devices of its type. -/
theorem Consolidates.toList_masked {α : Type} {notificationType : NotificationType}
    {device : α → Device} {kind : List α → Option Notice} {members members' : List α}
    {changes changes' : List DeviceChange} (hkind : Consolidates notificationType device kind)
    (hdevices : members.map device = devicesOf notificationType changes)
    (hdevices' : members'.map device = devicesOf notificationType changes')
    (hmasked : Option.Rel (Notice.Masked macs (members.map device) (members'.map device))
      (kind members) (kind members')) :
    List.Forall₂ (fun notice notice' ↦ notice.Masked macs
        (devicesOf notice.notificationType changes) (devicesOf notice.notificationType changes')
        notice') (kind members).toList (kind members').toList := by
  generalize hnotice : kind members = outcome at hmasked ⊢
  generalize kind members' = outcome' at hmasked ⊢
  cases hmasked with
  | none => exact .nil
  | some hmasked =>
    rw [hdevices, hdevices', ← hkind.notificationType_eq hnotice] at hmasked
    exact .cons hmasked .nil

/-- Two versions of a scan that differ in the addresses give notifications that show no more of
them than the last two octets of a MAC. -/
theorem notices_masked (durationString : StdDuration → String)
    {changes changes' : List DeviceChange}
    (hversions : Versions (DifferInAddresses macs) changes changes') :
    List.Forall₂ (fun notice notice' ↦ notice.Masked macs
        (devicesOf notice.notificationType changes) (devicesOf notice.notificationType changes')
        notice') (notices durationString changes) (notices durationString changes') := by
  obtain ⟨hnew, hbackOnline, hchanged⟩ := devicesOf_eq changes
  obtain ⟨hnew', hbackOnline', hchanged'⟩ := devicesOf_eq changes'
  rw [notices_eq, notices_eq]
  refine List.rel_append (List.rel_append ?_ ?_) ?_
  · refine notifyNewDevices_consolidates.toList_masked hnew hnew' (notifyNewDevices_masked ?_)
    refine List.rel_filterMap (fun change change' hchange ↦ ?_) hversions
    cases hchange with
    | new hdevice => exact .some hdevice
    | backOnline => exact .none
    | changed => exact .none
  · refine (notifyBackOnline_consolidates durationString).toList_masked hbackOnline hbackOnline'
      (notifyBackOnline_masked durationString ?_)
    refine List.rel_filterMap (fun change change' hchange ↦ ?_) hversions
    cases hchange with
    | new => exact .none
    | backOnline absentFor hdevice => exact .some ⟨hdevice, rfl⟩
    | changed => exact .none
  · refine notifyChanged_consolidates.toList_masked hchanged hchanged' (notifyChanged_masked ?_)
    refine List.rel_filterMap (fun change change' hchange ↦ ?_) hversions
    cases hchange with
    | new => exact .none
    | backOnline => exact .none
    | changed ipChanged vendorChanged hexisting hdevice => exact .some ⟨hexisting, hdevice, rfl⟩

end Kinds

/-! ### What is handed over -/

theorem Versions.mono {related related' : Device → Device → Prop}
    {changes changes' : List DeviceChange} (hversions : Versions related changes changes')
    (hrelated : ∀ device device', related device device' → related' device device') :
    Versions related' changes changes' := by
  refine List.Forall₂.imp (fun change change' hchange ↦ ?_) hversions
  cases hchange with
  | new hdevice => exact .new (hrelated _ _ hdevice)
  | backOnline absentFor hdevice => exact .backOnline absentFor (hrelated _ _ hdevice)
  | changed ipChanged vendorChanged hexisting hdevice =>
    exact .changed ipChanged vendorChanged (hrelated _ _ hexisting) (hrelated _ _ hdevice)

/-- A notification that shows the same MAC is the same. -/
theorem Notice.Masked.eq {devices devices' : List Device} {notice notice' : Notice}
    (hmasked : Notice.Masked (· = ·) devices devices' notice notice') : notice = notice' := by
  obtain ⟨notificationType, title, body, macAddress⟩ := notice
  obtain ⟨notificationType', title', body', macAddress'⟩ := notice'
  obtain ⟨rfl, rfl, hmac, htitle⟩ := hmasked
  have hsame : macAddress = macAddress' := by
    cases hmac with
    | none => rfl
    | some hmac => exact congrArg some hmac
  rcases htitle with rfl | ⟨device, device', -, -, hmacs, -, -, hoctets⟩
  · rw [hsame]
  · exact absurd (congrArg lastOctets hmacs) hoctets

/-- The same insertions have failed and will fail, and the same has been handed over. -/
def SameDeliveries (outbox outbox' : Outbox) : Prop :=
  outbox.failures = outbox'.failures ∧ outbox.requests = outbox'.requests

/-- Of a notification the title and the body are handed over. -/
theorem persistAndDeliver_alike {notice notice' : Notice} (htitle : notice.title = notice'.title)
    (hbody : notice.body = notice'.body) :
    Program.Alike storing SameDeliveries (· = ·) (persistAndDeliver notice)
      (persistAndDeliver notice') := by
  intro outbox outbox' ⟨hfailures, hrequests⟩
  cases hfailure : outbox.failures 0 with
  | some error =>
    rw [run_persistAndDeliver_failed hfailure,
      run_persistAndDeliver_failed ((congrFun hfailures 0).symm.trans hfailure)]
    exact ⟨.some rfl, funext fun n ↦ congrFun hfailures (n + 1), hrequests⟩
  | none =>
    obtain ⟨_, -, after, hrun, -, hlater, hnext⟩ := @run_persistAndDeliver notice outbox hfailure
    obtain ⟨_, -, after', hrun', -, hlater', hnext'⟩ :=
      @run_persistAndDeliver notice' outbox' ((congrFun hfailures 0).symm.trans hfailure)
    rw [hrun, hrun']
    refine ⟨.some rfl, ?_, ?_⟩
    · rw [hnext, hnext', hfailures]
    · rw [hlater, hlater', hrequests, htitle, hbody]

/-- Notifications leak no address. Two versions of a scan that differ in the IPv4 addresses only
give the same notifications. Two that differ in the MACs only give notifications with the same types
and bodies, and with the same titles except for one device that has neither a name nor a vendor and
whose MACs differ in their last five characters. So the same is handed to the delivery task for two
versions that differ in the IPv4 addresses and in the first octets of the MACs. -/
theorem notifications_leak_no_address (durationString : StdDuration → String) :
    (∀ changes changes', Versions DifferInIpv4 changes changes' →
      notices durationString changes = notices durationString changes') ∧
    (∀ changes changes', Versions DifferInMac changes changes' →
      List.Forall₂ (fun notice notice' ↦
        notice.Masked (fun mac mac' ↦ IsAscii mac ∧ IsAscii mac')
          (devicesOf notice.notificationType changes) (devicesOf notice.notificationType changes')
          notice') (notices durationString changes) (notices durationString changes')) ∧
    ∀ changes changes',
      Versions (DifferInAddresses fun mac mac' ↦ lastOctets mac = lastOctets mac')
        changes changes' →
      ∀ outbox outbox', SameDeliveries outbox outbox' →
        ((notify durationString changes).run storing outbox).2.requests =
          ((notify durationString changes').run storing outbox').2.requests := by
  refine ⟨fun changes changes' hversions ↦ ?_, fun changes changes' hversions ↦ ?_,
    fun changes changes' hversions outbox outbox' hsame ↦ ?_⟩
  · have hsame : Versions (DifferInAddresses (· = ·)) changes changes' :=
      hversions.mono fun device device' ⟨ipv4Address, hdevice⟩ ↦
        ⟨by rw [hdevice], ipv4Address, device.macAddress, hdevice⟩
    rw [← List.forall₂_eq_eq_eq]
    exact (notices_masked durationString hsame).imp fun _ _ hnotice ↦ hnotice.eq
  · exact notices_masked durationString (hversions.mono
      fun device device' ⟨hascii, macAddress, hascii', hdevice⟩ ↦
        ⟨⟨hascii, by rwa [hdevice]⟩, device.ipv4Address, macAddress, hdevice⟩)
  · have hmasked := notices_masked durationString hversions
    refine (Program.Alike.forM (fun notice notice' hnotice ↦ ?_) hmasked outbox outbox' hsame).2.2
    refine persistAndDeliver_alike ?_ hnotice.body
    rcases hnotice.title with htitle | ⟨device, device', -, -, hoctets, -, -, hdiffer⟩
    · exact htitle
    · exact absurd hoctets hdiffer

/-- A new device without a name and a vendor. -/
def unknownDevice (macAddress ipv4Address : String) : List DeviceChange :=
  [.new (.new macAddress ipv4Address "" .epoch)]

/-- MACs that end in the same octets are shown alike. -/
theorem notifications_leak_no_address_unknown :
    ((notify (fun _ ↦ "12d") (unknownDevice "aa:bb:cc:dd:ee:01" "10.0.0.1")).run storing
        ⟨⟨[], List.nodup_nil⟩, fun _ ↦ .epoch, fun _ ↦ none, []⟩).2.requests =
      ((notify (fun _ ↦ "12d") (unknownDevice "10:22:33:44:ee:01" "10.0.0.2")).run storing
        ⟨⟨[], List.nodup_nil⟩, fun _ ↦ .epoch, fun _ ↦ none, []⟩).2.requests :=
  (notifications_leak_no_address fun _ ↦ "12d").2.2 _ _
    (.cons (.new ⟨by decide, "10.0.0.2", "10:22:33:44:ee:01", rfl⟩) .nil) _ _ ⟨rfl, rfl⟩

end Oott
