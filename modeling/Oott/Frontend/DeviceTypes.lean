import Oott.Database.ListingReference

/-!
# The types of devices

`model/device_type.dart`: the types that the app knows, the text that it stores for each, and how
it decodes the text of a device, which may be any. The filter by a type asks for the stored text,
except for the type `unknown`, for which it asks for the empty text, while the dialogs store
`unknown` for it. The column compares up to the case of ASCII letters. What exactly the filter finds
is `type_filter_agrees_iff`.

A number or a Boolean of a query arrives at the backend as the app has sent it.
-/

set_option autoImplicit false
set_option relaxedAutoImplicit false

namespace Oott

/-- `DeviceType` of the app. -/
inductive DeviceType
  | phone
  | laptop
  | tablet
  | server
  | tv
  | printer
  | networkAppliance
  | homeSecurity
  | homeAppliance
  | watch
  | pc
  | gamingConsole
  | unknown
deriving DecidableEq

/-- `String.toLowerCase` of Dart: a mapping of Unicode texts, which lowers a text of ASCII as ASCII
is lowered. -/
structure DartLowerCase where
  toLowerCase : String → String
  ascii : ∀ text : String, (∀ c ∈ text.toList, c.toNat < 128) →
    toLowerCase text = toAsciiLowercase text

namespace DeviceType

/-- `apiName`. -/
def apiName : DeviceType → String
  | networkAppliance => "network_appliance"
  | homeSecurity => "home_security"
  | homeAppliance => "home_appliance"
  | gamingConsole => "gaming_console"
  | phone => "phone"
  | laptop => "laptop"
  | tablet => "tablet"
  | server => "server"
  | tv => "tv"
  | printer => "printer"
  | watch => "watch"
  | pc => "pc"
  | unknown => "unknown"

/-- The `switch` of `fromString`. -/
def ofLowerCase : String → DeviceType
  | "phone" => phone
  | "laptop" => laptop
  | "tablet" => tablet
  | "server" => server
  | "tv" => tv
  | "printer" => printer
  | "network_appliance" => networkAppliance
  | "home_security" => homeSecurity
  | "home_appliance" => homeAppliance
  | "watch" => watch
  | "pc" => pc
  | "gaming_console" => gamingConsole
  | _ => unknown

/-- `fromString`. -/
def fromString (dart : DartLowerCase) (value : String) : DeviceType :=
  ofLowerCase (dart.toLowerCase value)

/-- The text that `listDevices` of the app filters by for a type. -/
def filterText (deviceType : DeviceType) : String :=
  if deviceType = unknown then "" else deviceType.apiName

end DeviceType

/-- The query of `GET /api/devices`, as far as the app sends it. -/
structure DevicesQuery where
  isRegistered : Option Bool := none
  owner : Option String := none
  deviceType : Option String := none
  sortBy : Option String := none
  sortOrder : Option String := none
  pageOffset : Option Int := none
  pageLimit : Option Int := none

/-- `listDevices` of the app: the query that it sends. -/
def devicesQuery (isRegistered : Option Bool) (owner : Option String)
    (deviceType : Option DeviceType) (sortBy : Option String) (sortAscending : Option Bool)
    (page perPage : ℕ) : DevicesQuery where
  isRegistered := isRegistered
  owner := owner.filter fun owner ↦ owner ≠ ""
  deviceType := deviceType.map DeviceType.filterText
  sortBy := sortBy
  sortOrder := sortAscending.map fun ascending ↦ if ascending then "asc" else "desc"
  pageOffset := some (page * perPage : ℕ)
  pageLimit := some perPage

/-- The items of `list` of `web_server/devices.rs`. Every text is a `String` for `parse_parameter`,
also the empty one. -/
def listedDevices (query : DevicesQuery) (table : DevicesTable) : List Device :=
  let filters : DeviceFilters :=
    { isRegistered := query.isRegistered
      owner := query.owner
      deviceType := query.deviceType }
  listDevices filters query.sortBy query.sortOrder query.pageOffset query.pageLimit table

/-! ### What the texts say -/

section Texts

variable {dart : DartLowerCase} {text : String} {deviceType : DeviceType}

theorem toAsciiLowercase_filterText (deviceType : DeviceType) :
    toAsciiLowercase deviceType.filterText = deviceType.filterText := by
  cases deviceType <;> decide

theorem ofLowerCase_filterText (deviceType : DeviceType) :
    DeviceType.ofLowerCase deviceType.filterText = deviceType := by
  cases deviceType <;> rfl

/-- Folding a letter does not leave ASCII, nor enter it. -/
theorem toNat_lt_of_toLower {c : Char} (hlower : c.toLower.toNat < 128) : c.toNat < 128 := by
  rw [toNat_toLower] at hlower
  split_ifs at hlower <;> omega

theorem ascii_filterText (deviceType : DeviceType) :
    ∀ c ∈ deviceType.filterText.toList, c.toNat < 128 := by
  have hascii : deviceType.filterText.toList.all (·.toNat < 128) = true := by
    cases deviceType <;> decide
  simpa only [List.all_eq_true, decide_eq_true_eq] using hascii

/-- A text that the filter of a type finds is of ASCII, so that the app lowers it as the column
does. -/
theorem toLowerCase_of_nocaseEq (htext : NocaseEq text deviceType.filterText) :
    dart.toLowerCase text = deviceType.filterText := by
  have hlower : toAsciiLowercase text = deviceType.filterText :=
    Eq.trans htext (toAsciiLowercase_filterText deviceType)
  rw [dart.ascii, hlower]
  intro c hc
  refine toNat_lt_of_toLower (ascii_filterText deviceType _ ?_)
  rw [← hlower, toAsciiLowercase, String.toList_ofList]
  exact List.mem_map_of_mem hc

/-- A text that the filter of a type finds is decoded to that type. -/
theorem fromString_of_nocaseEq (htext : NocaseEq text deviceType.filterText) :
    DeviceType.fromString dart text = deviceType := by
  rw [DeviceType.fromString, toLowerCase_of_nocaseEq htext, ofLowerCase_filterText]

theorem nocaseEq_empty_iff : NocaseEq text "" ↔ text = "" := by
  constructor
  · intro h
    have hlist : text.toList.map Char.toLower = [] := by
      simpa [toAsciiLowercase] using congrArg String.toList h
    exact String.toList_eq_nil_iff.1 (List.map_eq_nil_iff.1 hlist)
  · rintro rfl
    exact .refl _

/-- A text is the one that the filter of some type finds exactly when it is empty, or the text of a
type that the app knows. -/
theorem exists_nocaseEq_filterText_iff :
    (∃ deviceType : DeviceType, NocaseEq text deviceType.filterText) ↔
      text = "" ∨ ∃ deviceType, deviceType ≠ .unknown ∧
        NocaseEq text (DeviceType.apiName deviceType) := by
  constructor
  · rintro ⟨deviceType, htext⟩
    by_cases hunknown : deviceType = .unknown
    · exact .inl (nocaseEq_empty_iff.1 (by simpa [DeviceType.filterText, hunknown] using htext))
    · exact .inr ⟨deviceType, hunknown, by simpa [DeviceType.filterText, hunknown] using htext⟩
  · rintro (rfl | ⟨deviceType, hknown, htext⟩)
    · exact ⟨.unknown, .refl _⟩
    · exact ⟨deviceType, by simpa [DeviceType.filterText, hknown] using htext⟩

end Texts

/-! ### The filter against the decoded type -/

section Filter

variable {table : DevicesTable} {sortBy : Option String} {sortAscending : Option Bool}
  {perPage : ℕ}

/-- Every row of a list is on some page. -/
theorem exists_page_iff {α : Type} {rows : List α} {row : α} {size : ℕ} (hsize : 0 < size) :
    (∃ page, row ∈ (rows.drop (page * size)).take size) ↔ row ∈ rows := by
  constructor
  · rintro ⟨page, hrow⟩
    exact List.mem_of_mem_drop (List.mem_of_mem_take hrow)
  · intro hrow
    obtain ⟨index, hindex, rfl⟩ := List.getElem_of_mem hrow
    refine ⟨index / size, List.mem_take_iff_getElem.2 ⟨index % size, ?_, ?_⟩⟩
    · have hmod := Nat.mod_lt index hsize
      have hdiv := Nat.div_add_mod' index size
      rw [List.length_drop]
      omega
    · rw [List.getElem_drop]
      congr 1
      exact Nat.div_add_mod' index size

/-- A page by its number. -/
theorem applyPaging_page {α : Type} (rows : List α) (page perPage : ℕ) :
    applyPaging (some (page * perPage : ℕ)) (some perPage) rows =
      (rows.drop (page * perPage)).take perPage := by
  have hlimit : ¬ (perPage : Int) < 0 := Int.not_lt.2 (Int.natCast_nonneg _)
  simp only [applyPaging, if_neg hlimit, Int.toNat_natCast]

theorem listDevices_page {filters : DeviceFilters} {sortBy sortOrder : Option String} (page : ℕ) :
    listDevices filters sortBy sortOrder (some (page * perPage : ℕ)) (some perPage) table =
      ((listDevices filters sortBy sortOrder none none table).drop (page * perPage)).take
        perPage :=
  applyPaging_page _ page perPage

/-- The devices on the pages under the filter by a type: those whose text the filter finds. -/
theorem exists_listed_iff (hperPage : 0 < perPage) {deviceType : DeviceType} {device : Device} :
    (∃ page, device ∈ listedDevices
        (devicesQuery none none (some deviceType) sortBy sortAscending page perPage) table) ↔
      device ∈ table.rows ∧ NocaseEq device.deviceType deviceType.filterText := by
  simp only [listedDevices, devicesQuery, listDevices_page, exists_page_iff hperPage,
    mem_listDevices]
  refine and_congr_right fun _ ↦ ?_
  rw [← holds_deviceType]
  simp [buildDeviceFilters]

/-- The filter by each type lists the devices that are decoded to it exactly when every stored text
is empty, or that of a type that the app knows. -/
theorem type_filter_agrees_iff (dart : DartLowerCase) (table : DevicesTable)
    (sortBy : Option String) (sortAscending : Option Bool) {perPage : ℕ} (hperPage : 0 < perPage) :
    (∀ (deviceType : DeviceType) (device : Device),
      (∃ page, device ∈ listedDevices
          (devicesQuery none none (some deviceType) sortBy sortAscending page perPage) table) ↔
        device ∈ table.rows ∧ DeviceType.fromString dart device.deviceType = deviceType) ↔
      ∀ device ∈ table.rows, device.deviceType = "" ∨ ∃ deviceType, deviceType ≠ .unknown ∧
        NocaseEq device.deviceType (DeviceType.apiName deviceType) := by
  simp only [exists_listed_iff hperPage, ← exists_nocaseEq_filterText_iff]
  constructor
  · intro hagrees device hdevice
    exact ⟨_, ((hagrees _ device).2 ⟨hdevice, rfl⟩).2⟩
  · intro hknown deviceType device
    refine and_congr_right fun hdevice ↦ ⟨fromString_of_nocaseEq, fun hdecoded ↦ ?_⟩
    obtain ⟨stored, hstored⟩ := hknown device hdevice
    rwa [← hdecoded, fromString_of_nocaseEq hstored]

end Filter

/-- Dart on texts of ASCII. -/
def asciiLowerCase : DartLowerCase := ⟨toAsciiLowercase, fun _ _ ↦ rfl⟩

/-- A device whose dialog has stored a type. -/
def registeredAs (deviceType : String) : Device :=
  (Db.Devices.registerClause "Ann" deviceType none).apply
    (.new "aa:bb:cc:dd:ee:ff" "192.168.1.42" "" .epoch)

/-- A device of the type `Printer`, in whatever case, is listed under it. -/
theorem type_filter_agrees_iff_printer : ∃ page, registeredAs "Printer" ∈
    listedDevices (devicesQuery none none (some .printer) none none page 10)
      (.single (registeredAs "Printer")) := by
  have hagrees := (type_filter_agrees_iff asciiLowerCase (.single (registeredAs "Printer")) none
    none (by decide : 0 < 10)).2 ?_
  · exact (hagrees .printer _).2 ⟨List.mem_singleton_self _, by decide⟩
  · intro device hdevice
    rw [List.mem_singleton.1 hdevice]
    exact .inr ⟨.printer, by decide, by decide⟩

/-- A device that is registered with the type that the dialog offers at first is of the type
`unknown`, and on no page under the filter by it. -/
theorem registered_unknown_not_listed :
    DeviceType.fromString asciiLowerCase (registeredAs (DeviceType.apiName .unknown)).deviceType =
        .unknown ∧
      ∀ page, registeredAs (DeviceType.apiName .unknown) ∉
        listedDevices (devicesQuery none none (some .unknown) none none page 10)
          (.single (registeredAs (DeviceType.apiName .unknown))) := by
  refine ⟨by decide, fun page hlisted ↦ ?_⟩
  have hfound := ((exists_listed_iff (by decide)).1 ⟨page, hlisted⟩).2
  exact absurd hfound (by decide)

end Oott
