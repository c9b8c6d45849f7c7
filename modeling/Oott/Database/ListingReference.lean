import Oott.Database.Calls
import Oott.Database.Listing

/-!
# What the list of devices should be

The reference definition of `list_devices`: the devices that meet the filters, with dates compared
as instants and the owner searched for as a text, in the requested order with ties by MAC. The list
of the code differs from it in two ways. The text of `last_seen_to` is shorter than a stored one
when it falls on a whole microsecond, and then sorts before the stored text of the same instant, so
that this bound is not inclusive. And the owner is bound into a pattern of `LIKE` as it is, so that
a `%` or `_` in it stands for other characters too. `listDevices_eq_reference_iff` says that there
is no third way.
-/

set_option autoImplicit false
set_option relaxedAutoImplicit false

namespace Oott

/-! ### The tables of the program -/

/-- The tables that the functions of `db/devices.rs` write, while the clock shows the years 0 to
9999. Requests for one device can interleave, so the functions are called in any order. -/
inductive WrittenByProgram : DevicesTable → Prop
  | empty : WrittenByProgram .empty
  | insert {table after : DevicesTable} {device : Device} (hwritten : WrittenByProgram table)
      (hyear : device.lastSeen.FourDigitYear) (hnew : device.isRegistered = false)
      (hinsert : table.insert { device with macAddress := normalizeMac device.macAddress } =
        some after) : WrittenByProgram after
  | seen {table : DevicesTable} {lastSeen : Instant} (hwritten : WrittenByProgram table)
      (hyear : lastSeen.FourDigitYear) (mac ipv4Address vendor deviceType : String)
      (name : Option String) :
      WrittenByProgram (table.update
        (Db.Devices.seenClause ipv4Address vendor deviceType name lastSeen) (normalizeMac mac))
  | update {table : DevicesTable} (hwritten : WrittenByProgram table)
      (mac owner deviceType vendor : String) (name : Option String) :
      WrittenByProgram (table.update
        (Db.Devices.updateClause owner deviceType vendor name) (normalizeMac mac))
  | register {table : DevicesTable} (hwritten : WrittenByProgram table)
      (mac owner deviceType : String) (name : Option String) :
      WrittenByProgram (table.update
        (Db.Devices.registerClause owner deviceType name) (normalizeMac mac))
  | unregister {table : DevicesTable} (hwritten : WrittenByProgram table) (mac : String) :
      WrittenByProgram (table.update Db.Devices.unregisterClause (normalizeMac mac))
  | delete {table : DevicesTable} (hwritten : WrittenByProgram table) (mac : String) :
      WrittenByProgram (table.delete (normalizeMac mac))

/-- A clause that leaves `last_seen` alone keeps the years of the rows. -/
theorem years_update {table : DevicesTable} {clause : SetClause} {mac : String}
    (hlastSeen : clause.lastSeen = none)
    (hyears : ∀ row ∈ table.rows, row.lastSeen.FourDigitYear) :
    ∀ row ∈ (table.update clause mac).rows, row.lastSeen.FourDigitYear := by
  refine DevicesTable.forall_update hyears fun row hrow ↦ ?_
  have hsame : (clause.apply row).lastSeen = row.lastSeen := by
    unfold SetClause.apply
    rw [hlastSeen]
    rfl
  rw [hsame]
  exact hyears row (DevicesTable.mem_of_select hrow)

/-- Every row was last seen in the years 0 to 9999. -/
theorem WrittenByProgram.years {table : DevicesTable} (hwritten : WrittenByProgram table) :
    ∀ row ∈ table.rows, row.lastSeen.FourDigitYear := by
  induction hwritten with
  | empty => exact fun row hrow ↦ nomatch hrow
  | insert hwritten hyear hnew hinsert ih => exact DevicesTable.forall_insert hinsert ih hyear
  | seen hwritten hyear mac ipv4Address vendor deviceType name ih =>
    exact DevicesTable.forall_update ih fun row hrow ↦ hyear
  | update hwritten mac owner deviceType vendor name ih => exact years_update rfl ih
  | register hwritten mac owner deviceType name ih => exact years_update rfl ih
  | unregister hwritten mac ih => exact years_update rfl ih
  | delete hwritten mac ih => exact fun row hrow ↦ ih row (DevicesTable.mem_delete.mp hrow).1

theorem WrittenByProgram.of_update_single {row : Device} {clause : SetClause} {mac : String}
    (hwritten : WrittenByProgram ((DevicesTable.single row).update clause (normalizeMac mac)))
    (hmac : normalizeMac mac = row.macAddress) : WrittenByProgram (.single (clause.apply row)) := by
  have hsingle : (DevicesTable.single row).update clause (normalizeMac mac) =
      .single (clause.apply row) := by
    ext1
    show [DevicesTable.updateRow clause (normalizeMac mac) row] = [clause.apply row]
    unfold DevicesTable.updateRow
    rw [hmac, if_pos (NocaseEq.refl _)]
  exact hsingle ▸ hwritten

theorem WrittenByProgram.single_new {mac : String} {lastSeen : Instant}
    (hmac : normalizeMac mac = mac) (hyear : lastSeen.FourDigitYear) (ipv4Address vendor : String) :
    WrittenByProgram (.single (Device.new mac ipv4Address vendor lastSeen)) := by
  refine @insert _ _ (Device.new mac ipv4Address vendor lastSeen) .empty hyear rfl ?_
  have hsame : Device.new (normalizeMac mac) ipv4Address vendor lastSeen =
    Device.new mac ipv4Address vendor lastSeen := by rw [hmac]
  refine Eq.trans ?_ (congrArg (fun device ↦ some (DevicesTable.single device)) hsame)
  exact dif_pos fun other hother ↦ nomatch hother

/-- Any row under a normalized MAC can be written: it is inserted, registered and edited, and
unregistered by a request that interleaves with the edit. -/
theorem WrittenByProgram.single {row : Device}
    (hmac : normalizeMac row.macAddress = row.macAddress) (hyear : row.lastSeen.FourDigitYear) :
    WrittenByProgram (.single row) := by
  have hnew := single_new hmac hyear row.ipv4Address row.vendor
  have hregistered :=
    (hnew.register row.macAddress row.owner row.deviceType row.name).of_update_single hmac
  cases hrow : row.isRegistered with
  | true =>
    have hname : (row.name.map some).getD none = row.name := by cases row.name <;> rfl
    refine (congrArg (fun device ↦ WrittenByProgram (.single device)) ?_).mp hregistered
    exact Device.ext rfl rfl rfl rfl hrow.symm rfl rfl hname
  | false =>
    have hunregistered := (hregistered.unregister row.macAddress).of_update_single hmac
    have hedited := (hunregistered.update row.macAddress row.owner row.deviceType row.vendor
      row.name).of_update_single hmac
    refine (congrArg (fun device ↦ WrittenByProgram (.single device)) ?_).mp hedited
    exact Device.ext rfl rfl rfl rfl hrow.symm rfl rfl rfl

/-! ### The reference definition -/

/-- A device meets the filters. -/
def DeviceFilters.Accepts (filters : DeviceFilters) (device : Device) : Prop :=
  (∀ isRegistered ∈ filters.isRegistered, device.isRegistered = isRegistered) ∧
    (∀ date ∈ filters.lastSeenFrom, date ≤ device.lastSeen) ∧
    (∀ date ∈ filters.lastSeenTo, device.lastSeen ≤ date) ∧
    (∀ owner ∈ filters.owner,
      (toAsciiLowercase owner).toList <:+: (toAsciiLowercase device.owner).toList) ∧
    (∀ deviceType ∈ filters.deviceType, NocaseEq device.deviceType deviceType) ∧
    ∀ vendor ∈ filters.vendor, NocaseEq device.vendor vendor

/-- A device has less than another in the column, a missing name being the least. -/
def SortColumn.Less (first second : Device) : SortColumn → Prop
  | .name =>
    match first.name, second.name with
    | _, none => False
    | none, some _ => True
    | some one, some other => toAsciiLowercase one < toAsciiLowercase other
  | .owner => toAsciiLowercase first.owner < toAsciiLowercase second.owner
  | .macAddress => toAsciiLowercase first.macAddress < toAsciiLowercase second.macAddress
  | .ipv4Address => first.ipv4Address < second.ipv4Address
  | .vendor => toAsciiLowercase first.vendor < toAsciiLowercase second.vendor
  | .isRegistered => first.isRegistered = false ∧ second.isRegistered = true
  | .deviceType => toAsciiLowercase first.deviceType < toAsciiLowercase second.deviceType
  | .lastSeen => first.lastSeen < second.lastSeen

/-- A device comes before another: by the column in the direction, and by MAC where they tie. -/
def SortColumn.Precedes (column : SortColumn) (direction : SortDirection)
    (first second : Device) : Prop :=
  (match direction with
    | .asc => column.Less first second
    | .desc => column.Less second first) ∨
  ¬ column.Less first second ∧ ¬ column.Less second first ∧
    SortColumn.macAddress.Less first second

/-- The list that the filters and the order ask for. -/
structure IsListing (filters : DeviceFilters) (column : SortColumn) (direction : SortDirection)
    (rows result : List Device) : Prop where
  mem_iff : ∀ device, device ∈ result ↔ device ∈ rows ∧ filters.Accepts device
  ordered : result.Pairwise (column.Precedes direction)

theorem SortColumn.Less.asymm {column : SortColumn} {first second : Device}
    (h : column.Less first second) : ¬ column.Less second first := by
  cases column with
  | name =>
    unfold SortColumn.Less at h ⊢
    cases hfirst : first.name with
    | none => cases hsecond : second.name <;> simp_all
    | some one =>
      cases hsecond : second.name with
      | none => simp_all
      | some other =>
        rw [hfirst, hsecond] at h
        exact String.lt_asymm h
  | isRegistered => exact fun h' ↦ Bool.false_ne_true (h.1.symm.trans h'.2)
  | lastSeen => exact lt_asymm h
  | owner | macAddress | ipv4Address | vendor | deviceType => exact String.lt_asymm h

theorem SortColumn.Precedes.asymm {column : SortColumn} {direction : SortDirection}
    {first second : Device} (h : column.Precedes direction first second) :
    ¬ column.Precedes direction second first := by
  rintro (h' | ⟨hnot', hnot, hmac'⟩)
  · cases direction <;> rcases h with h | ⟨hnot, hnot', hmac⟩ <;>
      first | exact h.asymm h' | exact absurd h' ‹_›
  · rcases h with h | ⟨-, -, hmac⟩
    · cases direction <;> exact absurd h ‹_›
    · exact hmac.asymm hmac'

/-- There is one list that the filters and the order ask for. -/
theorem IsListing.unique {filters : DeviceFilters} {column : SortColumn}
    {direction : SortDirection} {rows result other : List Device}
    (h : IsListing filters column direction rows result)
    (h' : IsListing filters column direction rows other) : result = other := by
  have hnodup {list : List Device} (hordered : list.Pairwise (column.Precedes direction)) :
      list.Nodup := by
    refine hordered.imp fun hprecedes heq ↦ ?_
    exact (heq ▸ hprecedes).asymm (heq ▸ hprecedes)
  refine List.Perm.eq_of_pairwise (fun first second _ _ hless hless' ↦ ?_) h.ordered h'.ordered ?_
  · exact absurd hless' hless.asymm
  · refine (List.perm_ext_iff_of_nodup (hnodup h.ordered) (hnodup h'.ordered)).mpr fun device ↦ ?_
    rw [h.mem_iff, h'.mem_iff]

/-! ### The order of the code -/

section Order

variable {column : SortColumn} {direction : SortDirection} {first second : Device}
  (hfirst : first.lastSeen.FourDigitYear) (hsecond : second.lastSeen.FourDigitYear)

include hfirst hsecond

/-- SQLite compares the values of a column as the reference does. -/
theorem value_lt_value_iff :
    column.value first < column.value second ↔ column.Less first second := by
  cases column with
  | name =>
    unfold SortColumn.value SortColumn.Less
    cases first.name with
    | none =>
      cases second.name with
      | none => exact iff_of_false (lt_irrefl _) id
      | some other => exact iff_of_true (SqlValue.null_lt_text _) trivial
    | some one =>
      cases second.name with
      | none => exact iff_of_false (lt_asymm (SqlValue.null_lt_text _)) id
      | some other => exact SqlValue.text_lt_text
  | isRegistered =>
    refine SqlValue.integer_lt_integer.trans ?_
    show _ ↔ first.isRegistered = false ∧ second.isRegistered = true
    cases first.isRegistered <;> cases second.isRegistered <;> simp
  | lastSeen =>
    exact SqlValue.text_lt_text.trans (stored_lt_iff hfirst hsecond.2)
  | owner | macAddress | ipv4Address | vendor | deviceType => exact SqlValue.text_lt_text

theorem precedes_of_orderedBefore (hordered : OrderedBefore column direction first second)
    (hmac : ¬ NocaseEq first.macAddress second.macAddress) :
    column.Precedes direction first second := by
  rcases hordered with hbefore | ⟨heq, hle⟩
  · refine Or.inl ?_
    cases direction with
    | asc => exact (value_lt_value_iff hfirst hsecond).mp hbefore
    | desc => exact (value_lt_value_iff hsecond hfirst).mp hbefore
  · refine Or.inr ⟨?_, ?_, ?_⟩
    · exact fun hless ↦ heq.not_lt ((value_lt_value_iff hfirst hsecond).mpr hless)
    · exact fun hless ↦ heq.symm.not_lt ((value_lt_value_iff hsecond hfirst).mpr hless)
    · refine (value_lt_value_iff hfirst hsecond).mp (lt_of_le_of_ne hle fun hsame ↦ hmac ?_)
      exact SqlValue.text.inj hsame

end Order

/-! ### The filters of the code -/

/-- The dates of the filters are of the years 0 to 9999, as those of RFC 3339 are. -/
def DeviceFilters.FourDigitYears (filters : DeviceFilters) : Prop :=
  (∀ date ∈ filters.lastSeenFrom, date.FourDigitYear) ∧
    ∀ date ∈ filters.lastSeenTo, date.FourDigitYear

/-- The filters without the owner. -/
def DeviceFilters.withoutOwner (filters : DeviceFilters) : DeviceFilters :=
  { filters with owner := none }

/-- A device was last seen at the very instant of `last_seen_to`, a whole microsecond. -/
def DeviceFilters.AtCutoff (filters : DeviceFilters) (device : Device) : Prop :=
  ∃ date ∈ filters.lastSeenTo, device.lastSeen = date ∧ date.subsecNanos % 1000 = 0

/-- The owner's text contains the requested one. -/
def DeviceFilters.OwnerContains (filters : DeviceFilters) (device : Device) : Prop :=
  ∀ owner ∈ filters.owner, SqlValue.likeWildcards.Contains device.owner.toList owner.toList

/-- The owner's text matches the requested one with its wildcards. -/
def DeviceFilters.OwnerMatches (filters : DeviceFilters) (device : Device) : Prop :=
  ∀ owner ∈ filters.owner, SqlValue.likeWildcards.accepts ('%' :: owner.toList ++ ['%'])
    device.owner.toList

section Filters

variable {filters : DeviceFilters} {device : Device}

theorem accepts_iff_withoutOwner :
    filters.Accepts device ↔
      filters.withoutOwner.Accepts device ∧ filters.OwnerContains device := by
  unfold DeviceFilters.Accepts DeviceFilters.withoutOwner DeviceFilters.OwnerContains Like.Contains
    toAsciiLowercase
  simp only [String.toList_ofList, Option.mem_def, reduceCtorEq, false_implies, implies_true]
  exact ⟨fun h ↦ ⟨⟨h.1, h.2.1, h.2.2.1, trivial, h.2.2.2.2⟩, h.2.2.2.1⟩,
    fun h ↦ ⟨h.1.1, h.1.2.1, h.1.2.2.1, h.2, h.1.2.2.2.2⟩⟩

theorem ownerMatches_of_ownerContains (hcontains : filters.OwnerContains device) :
    filters.OwnerMatches device :=
  fun owner howner ↦ Like.accepts_of_contains (hcontains owner howner)

theorem ownerContains_of_ownerMatches
    (hliteral : ∀ owner ∈ filters.owner, SqlValue.likeWildcards.Literal owner.toList)
    (hmatches : filters.OwnerMatches device) : filters.OwnerContains device :=
  fun owner howner ↦ (Like.accepts_contains_iff (hliteral owner howner)).mp (hmatches owner howner)

theorem holds_lastSeenFrom {date : Instant} (hdate : date.year ≤ 9999)
    (hyear : device.lastSeen.FourDigitYear) :
    Condition.lastSeenFrom.Holds device (.text (toRfc3339 date)) ↔ date ≤ device.lastSeen := by
  refine SqlValue.text_le_text.trans ?_
  rw [← String.not_lt, ← not_lt]
  exact not_congr (stored_lt_iff hyear hdate)

theorem holds_lastSeenTo {date : Instant} (hdate : date.year ≤ 9999)
    (hyear : device.lastSeen.FourDigitYear) :
    Condition.lastSeenTo.Holds device (.text (toRfc3339 date)) ↔
      device.lastSeen ≤ date ∧ ¬ (device.lastSeen = date ∧ date.subsecNanos % 1000 = 0) := by
  refine SqlValue.text_le_text.trans ?_
  rw [← String.not_lt, ← not_lt, ← not_or]
  refine not_congr ((lt_stored_iff hdate hyear).trans (or_congr Iff.rfl ?_))
  rw [eq_comm, and_congr_right_iff]
  exact fun _ ↦ ⟨And.right, fun h ↦ ⟨rfl, h⟩⟩

theorem holds_owner {owner : String} :
    Condition.owner.Holds device (.text ("%" ++ owner ++ "%")) ↔
      SqlValue.likeWildcards.accepts ('%' :: owner.toList ++ ['%']) device.owner.toList := by
  have hpattern : ("%" ++ owner ++ "%").toList = '%' :: owner.toList ++ ['%'] := by
    rw [String.toList_append, String.toList_append]
    rfl
  rw [← hpattern]
  exact Iff.rfl

theorem holds_isRegistered {isRegistered : Bool} :
    Condition.isRegistered.Holds device (.ofBool isRegistered) ↔
      device.isRegistered = isRegistered := by
  unfold Condition.Holds SqlValue.ofBool
  cases device.isRegistered <;> cases isRegistered <;> simp

theorem holds_deviceType {deviceType : String} :
    Condition.deviceType.Holds device (.text deviceType) ↔ NocaseEq device.deviceType deviceType :=
  Eq.to_iff (SqlValue.text.injEq _ _)

theorem holds_vendor {vendor : String} :
    Condition.vendor.Holds device (.text vendor) ↔ NocaseEq device.vendor vendor :=
  Eq.to_iff (SqlValue.text.injEq _ _)

/-- What the clause of the code selects: the devices that meet the other filters and whose owner
matches, except at the cutoff. -/
theorem holds_iff (hyears : filters.FourDigitYears) (hyear : device.lastSeen.FourDigitYear) :
    (buildDeviceFilters filters).Holds device ↔
      filters.withoutOwner.Accepts device ∧ ¬ filters.AtCutoff device ∧
        filters.OwnerMatches device := by
  have hfrom : (∀ date ∈ filters.lastSeenFrom,
      Condition.lastSeenFrom.Holds device (.text (toRfc3339 date))) ↔
      ∀ date ∈ filters.lastSeenFrom, date ≤ device.lastSeen :=
    forall₂_congr fun date hdate ↦ holds_lastSeenFrom (hyears.1 date hdate).2 hyear
  have hto : (∀ date ∈ filters.lastSeenTo,
      Condition.lastSeenTo.Holds device (.text (toRfc3339 date))) ↔
      (∀ date ∈ filters.lastSeenTo, device.lastSeen ≤ date) ∧ ¬ filters.AtCutoff device := by
    rw [forall₂_congr fun date hdate ↦ holds_lastSeenTo (hyears.2 date hdate).2 hyear]
    refine ⟨fun h ↦ ⟨fun date hdate ↦ (h date hdate).1, ?_⟩,
      fun h date hdate ↦ ⟨h.1 date hdate, ?_⟩⟩
    · rintro ⟨date, hdate, hcutoff⟩
      exact (h date hdate).2 hcutoff
    · exact fun hcutoff ↦ h.2 ⟨date, hdate, hcutoff⟩
  unfold buildDeviceFilters DeviceFilters.Accepts DeviceFilters.withoutOwner
    DeviceFilters.OwnerMatches
  simp only [WhereClause.holds_pushSome, WhereClause.holds_always, Option.forall_mem_map, hfrom,
    hto, holds_isRegistered, holds_owner, holds_deviceType, holds_vendor]
  simp only [Option.mem_def, reduceCtorEq, false_implies, implies_true]
  tauto

end Filters

/-! ### When the code lists what is asked for -/

/-- The unpaged list is the one the filters and the order ask for, and the count is its length. -/
structure ListsAsRequested (filters : DeviceFilters) (sortBy sortOrder : Option String)
    (table : DevicesTable) : Prop where
  listing : IsListing filters (resolveSortColumn sortBy) (resolveSortDirection sortOrder)
    table.rows (listDevices filters sortBy sortOrder none none table)
  count : countDevices filters table =
    (listDevices filters sortBy sortOrder none none table).length

/-- A device that the list leaves out: it is asked for, and was last seen at the cutoff. -/
def DeviceFilters.Misses (filters : DeviceFilters) (device : Device) : Prop :=
  filters.Accepts device ∧ filters.AtCutoff device

/-- A device that the list has too many: it meets the other filters, and its owner matches the
requested one only through the wildcards. -/
def DeviceFilters.Intrudes (filters : DeviceFilters) (device : Device) : Prop :=
  filters.withoutOwner.Accepts device ∧ ¬ filters.AtCutoff device ∧
    filters.OwnerMatches device ∧ ¬ filters.OwnerContains device

section Requests

variable {filters : DeviceFilters} {sortBy sortOrder : Option String} {table : DevicesTable}

/-- The order is always the requested one; only the clause can go wrong. -/
theorem listsAsRequested_iff_holds (hwritten : WrittenByProgram table) :
    ListsAsRequested filters sortBy sortOrder table ↔
      ∀ row ∈ table.rows, ((buildDeviceFilters filters).Holds row ↔ filters.Accepts row) := by
  constructor
  · intro hlists row hrow
    have hmem := hlists.listing.mem_iff row
    rw [mem_listDevices, and_iff_right hrow, and_iff_right hrow] at hmem
    exact hmem
  · intro hrows
    refine ⟨⟨fun device ↦ ?_, ?_⟩, length_listDevices.symm⟩
    · rw [mem_listDevices]
      exact and_congr_right (hrows device)
    · refine (pairwise_listDevices.and pairwise_mac_listDevices).imp_of_mem
        fun hfirst hsecond h ↦ ?_
      exact precedes_of_orderedBefore (hwritten.years _ (mem_listDevices.mp hfirst).1)
        (hwritten.years _ (mem_listDevices.mp hsecond).1) h.1 h.2

theorem listsAsRequested_iff (hyears : filters.FourDigitYears) (hwritten : WrittenByProgram table) :
    ListsAsRequested filters sortBy sortOrder table ↔
      ∀ row ∈ table.rows, ¬ filters.Misses row ∧ ¬ filters.Intrudes row := by
  rw [listsAsRequested_iff_holds hwritten]
  refine forall₂_congr fun row hrow ↦ ?_
  rw [holds_iff hyears (hwritten.years row hrow)]
  unfold DeviceFilters.Misses DeviceFilters.Intrudes
  have haccepts : filters.Accepts row ↔ _ := accepts_iff_withoutOwner
  have hmatches : filters.OwnerContains row → filters.OwnerMatches row :=
    ownerMatches_of_ownerContains
  tauto

/-- A device that meets the filters other than the owner, if one can. -/
def DeviceFilters.sample (filters : DeviceFilters) (owner : String) : Device where
  macAddress := "0a:00:00:00:00:01"
  ipv4Address := "192.168.0.2"
  vendor := filters.vendor.getD ""
  lastSeen := filters.lastSeenTo.getD (filters.lastSeenFrom.getD .epoch)
  isRegistered := filters.isRegistered.getD false
  owner := owner
  deviceType := filters.deviceType.getD ""
  name := none

theorem written_sample (hyears : filters.FourDigitYears) (owner : String) :
    WrittenByProgram (.single (filters.sample owner)) := by
  have hmac : normalizeMac "0a:00:00:00:00:01" = "0a:00:00:00:00:01" := by decide
  refine .single hmac ?_
  unfold DeviceFilters.sample
  dsimp only
  cases hto : filters.lastSeenTo with
  | some date => exact hyears.2 date hto
  | none =>
    cases hfrom : filters.lastSeenFrom with
    | some date => exact hyears.1 date hfrom
    | none => exact (by decide : Instant.epoch.FourDigitYear)

theorem accepts_sample (owner : String)
    (hdates : ∀ first ∈ filters.lastSeenFrom, ∀ last ∈ filters.lastSeenTo, first ≤ last) :
    filters.withoutOwner.Accepts (filters.sample owner) := by
  refine ⟨?_, ?_, ?_, fun _ hnone ↦ (nomatch hnone), ?_, ?_⟩
  · intro isRegistered hregistered
    exact Option.getD_eq_iff.mpr (Or.inl hregistered)
  · intro first hfirst
    show first ≤ filters.lastSeenTo.getD (filters.lastSeenFrom.getD .epoch)
    cases hto : filters.lastSeenTo with
    | some last => exact hdates first hfirst last hto
    | none => exact (Option.getD_eq_iff.mpr (Or.inl hfirst)).ge
  · intro last hlast
    exact (Option.getD_eq_iff.mpr (Or.inl hlast)).le
  · intro deviceType htype
    exact congrArg toAsciiLowercase (Option.getD_eq_iff.mpr (Or.inl htype))
  · intro vendor hvendor
    exact congrArg toAsciiLowercase (Option.getD_eq_iff.mpr (Or.inl hvendor))

/-- When `last_seen_from` is not after `last_seen_to`, a whole microsecond there or a wildcard in
the owner makes the list of some table wrong. -/
theorem exists_misjudged (hyears : filters.FourDigitYears)
    (hdates : ∀ first ∈ filters.lastSeenFrom, ∀ last ∈ filters.lastSeenTo, first ≤ last)
    (hwrong : (∃ last ∈ filters.lastSeenTo, last.subsecNanos % 1000 = 0) ∨
      ∃ owner ∈ filters.owner, ¬ SqlValue.likeWildcards.Literal owner.toList) :
    ∃ table, WrittenByProgram table ∧ ¬ ListsAsRequested filters sortBy sortOrder table := by
  by_cases hwhole : ∃ last ∈ filters.lastSeenTo, last.subsecNanos % 1000 = 0
  · -- a device last seen at the cutoff, with the very owner that is asked for
    obtain ⟨last, hlast, hnanos⟩ := hwhole
    refine ⟨_, written_sample hyears (filters.owner.getD ""), fun hlists ↦ ?_⟩
    have hrow := (listsAsRequested_iff hyears (written_sample hyears _)).mp hlists _
      (List.mem_singleton_self _)
    refine hrow.1 ⟨accepts_iff_withoutOwner.mpr ⟨accepts_sample _ hdates, ?_⟩, last, hlast,
      Option.getD_eq_iff.mpr (Or.inl hlast), hnanos⟩
    intro owner howner
    have hsame : filters.owner.getD "" = owner := Option.getD_eq_iff.mpr (Or.inl howner)
    show List.map _ _ <:+: List.map _ (filters.owner.getD "").toList
    rw [hsame]
  · -- a device whose owner fills the wildcards
    obtain ⟨owner, howner, hwildcard⟩ := hwrong.resolve_left hwhole
    let filled := String.ofList (SqlValue.likeWildcards.filled 'x' owner.toList)
    refine ⟨_, written_sample hyears filled, fun hlists ↦ ?_⟩
    have hrow := (listsAsRequested_iff hyears (written_sample hyears _)).mp hlists _
      (List.mem_singleton_self _)
    refine hrow.2 ⟨accepts_sample _ hdates, ?_, ?_, ?_⟩
    · rintro ⟨last, hlast, -, hnanos⟩
      exact hwhole ⟨last, hlast, hnanos⟩
    · intro other hother
      cases Option.mem_unique howner hother
      show SqlValue.likeWildcards.accepts _ filled.toList
      rw [String.toList_ofList]
      exact Like.accepts_filled 'x'
    · intro hcontains
      refine Like.not_contains_of_literal ?_ ?_ ?_ hwildcard (hcontains owner howner)
      · exact fun c hfold ↦ eq_of_toLower_eq (by decide) hfold
      · exact fun c hfold ↦ eq_of_toLower_eq (by decide) hfold
      · show SqlValue.likeWildcards.Literal filled.toList
        rw [String.toList_ofList]
        exact Like.literal_filled (by decide) (by decide)

end Requests

end Oott
