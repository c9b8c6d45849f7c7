import Oott.Database.Tables
import Oott.Text.Like
import Oott.Utils.Timestamps
import Mathlib.Order.Defs.LinearOrder

/-!
# The list of devices

`list_devices` and `count_devices` of `db/devices.rs`, with the clause they share. The clause is
built one comparison at a time, each with one `?`, and the n-th parameter is bound to the n-th `?`.
SQLite orders values by storage class (`NULL`, then integers, then texts), and texts byte by byte,
after folding the capital letters of ASCII where the column is declared `NOCASE`; the columns
`ipv4_address` and `last_seen` are not. A pattern of `LIKE` is taken to be no longer than SQLite
allows (50000 bytes).
-/

set_option autoImplicit false
set_option relaxedAutoImplicit false

namespace Oott

/-! ### Values -/

/-- `rusqlite::types::Value`, as far as the columns of `devices` hold it. -/
inductive SqlValue
  | null
  | integer (value : Int)
  | text (value : String)
deriving DecidableEq

namespace SqlValue

/-- The order of SQLite. -/
def Le : SqlValue → SqlValue → Prop
  | null, _ => True
  | integer _, null => False
  | integer first, integer second => first ≤ second
  | integer _, text _ => True
  | text _, null => False
  | text _, integer _ => False
  | text first, text second => first ≤ second

instance : DecidableRel Le
  | null, _ => inferInstanceAs (Decidable True)
  | integer _, null => inferInstanceAs (Decidable False)
  | integer _, integer _ => inferInstanceAs (Decidable (_ ≤ _))
  | integer _, text _ => inferInstanceAs (Decidable True)
  | text _, null => inferInstanceAs (Decidable False)
  | text _, integer _ => inferInstanceAs (Decidable False)
  | text _, text _ => inferInstanceAs (Decidable (_ ≤ _))

theorem Le.trans {first second third : SqlValue} (h : Le first second) (h' : Le second third) :
    Le first third := by
  rcases first with _ | first | first <;> rcases second with _ | second | second <;>
    rcases third with _ | third | third <;>
    first | trivial | exact h.elim | exact h'.elim | exact Int.le_trans h h' |
      exact String.le_trans h h'

theorem Le.antisymm {first second : SqlValue} (h : Le first second) (h' : Le second first) :
    first = second := by
  rcases first with _ | first | first <;> rcases second with _ | second | second <;>
    first | rfl | exact h.elim | exact h'.elim | exact congrArg integer (Int.le_antisymm h h') |
      exact congrArg text (String.le_antisymm h h')

theorem le_total (first second : SqlValue) : Le first second ∨ Le second first := by
  rcases first with _ | first | first <;> rcases second with _ | second | second <;>
    first | exact Or.inl trivial | exact Or.inr trivial | exact Int.le_total first second |
      exact String.le_total first second

instance : LinearOrder SqlValue where
  le := Le
  le_refl value := (le_total value value).elim id id
  le_trans _ _ _ := Le.trans
  le_antisymm _ _ := Le.antisymm
  le_total := le_total
  toDecidableLE := inferInstanceAs (DecidableRel Le)

theorem text_le_text {first second : String} : text first ≤ text second ↔ first ≤ second := Iff.rfl

theorem text_lt_text {first second : String} : text first < text second ↔ first < second := by
  rw [← not_le, text_le_text, String.not_le]

theorem integer_lt_integer {first second : Int} :
    integer first < integer second ↔ first < second := by
  rw [← not_le]
  exact Int.not_le

theorem null_lt_text (value : String) : null < text value := not_le.mp id

/-- `From<bool>`. -/
def ofBool (value : Bool) : SqlValue := integer (if value then 1 else 0)

/-- What `NOCASE` compares. -/
def nocase : SqlValue → SqlValue
  | null => null
  | integer value => integer value
  | text value => text (toAsciiLowercase value)

/-- The wildcards of `LIKE`, which folds the capital letters of ASCII. -/
def likeWildcards : Like Char := ⟨'%', '_', Char.toLower⟩

/-- `LIKE`. -/
def IsLike : SqlValue → SqlValue → Prop
  | text value, text pattern => likeWildcards.accepts pattern.toList value.toList
  | _, _ => False

instance : (value pattern : SqlValue) → Decidable (value.IsLike pattern)
  | text _, text _ => inferInstanceAs (Decidable (_ = true))
  | null, _ => inferInstanceAs (Decidable False)
  | integer _, _ => inferInstanceAs (Decidable False)
  | text _, null => inferInstanceAs (Decidable False)
  | text _, integer _ => inferInstanceAs (Decidable False)

end SqlValue

/-- The text of the column `last_seen`. -/
def Device.lastSeenText (device : Device) : String := toRfc3339Opts device.lastSeen .nanos

/-! ### The clause -/

/-- A comparison of the clause, with one `?`. -/
inductive Condition
  | isRegistered
  | lastSeenFrom
  | lastSeenTo
  | owner
  | deviceType
  | vendor
deriving DecidableEq

/-- What the comparison says of a row: `is_registered=?`, `last_seen>=?`, `last_seen<=?`,
`owner LIKE ?`, `device_type=?` and `vendor=?`. -/
def Condition.Holds (row : Device) (value : SqlValue) : Condition → Prop
  | .isRegistered => .ofBool row.isRegistered = value
  | .lastSeenFrom => value ≤ .text row.lastSeenText
  | .lastSeenTo => .text row.lastSeenText ≤ value
  | .owner => SqlValue.IsLike (.text row.owner) value
  | .deviceType => SqlValue.nocase (.text row.deviceType) = value.nocase
  | .vendor => SqlValue.nocase (.text row.vendor) = value.nocase

instance (row : Device) (value : SqlValue) :
    (condition : Condition) → Decidable (condition.Holds row value)
  | .isRegistered => inferInstanceAs (Decidable (_ = _))
  | .lastSeenFrom => inferInstanceAs (Decidable (_ ≤ _))
  | .lastSeenTo => inferInstanceAs (Decidable (_ ≤ _))
  | .owner => inferInstanceAs (Decidable (SqlValue.IsLike _ _))
  | .deviceType => inferInstanceAs (Decidable (_ = _))
  | .vendor => inferInstanceAs (Decidable (_ = _))

/-- A `WHERE` clause with its positional parameters, as many as it has comparisons. -/
structure WhereClause where
  conditions : List Condition
  params : List SqlValue
  bound : conditions.length = params.length

namespace WhereClause

/-- `WHERE 1=1`. -/
def always : WhereClause := ⟨[], [], rfl⟩

/-- One more comparison, and its parameter, when there is a value to compare with. -/
def pushSome (clause : WhereClause) (condition : Condition) : Option SqlValue → WhereClause
  | none => clause
  | some value => ⟨clause.conditions ++ [condition], clause.params ++ [value], by
      rw [List.length_append, List.length_append, clause.bound, List.length_singleton,
        List.length_singleton]⟩

/-- A row passes every comparison. -/
def Holds (clause : WhereClause) (row : Device) : Prop :=
  ∀ comparison ∈ clause.conditions.zip clause.params, comparison.1.Holds row comparison.2

instance (clause : WhereClause) (row : Device) : Decidable (clause.Holds row) :=
  inferInstanceAs (Decidable (∀ comparison ∈ _, _))

@[simp] theorem holds_always (row : Device) : always.Holds row := fun _ hmem ↦ nomatch hmem

@[simp] theorem holds_pushSome {clause : WhereClause} {condition : Condition}
    {value : Option SqlValue} {row : Device} :
    (clause.pushSome condition value).Holds row ↔
      clause.Holds row ∧ ∀ bound ∈ value, condition.Holds row bound := by
  cases value with
  | none => simp [pushSome]
  | some value =>
    unfold Holds pushSome
    dsimp only
    rw [List.zip_append clause.bound, List.forall_mem_append]
    simp

end WhereClause

/-- The filters of `list_devices` and `count_devices`. -/
structure DeviceFilters where
  isRegistered : Option Bool := none
  lastSeenFrom : Option Instant := none
  lastSeenTo : Option Instant := none
  owner : Option String := none
  deviceType : Option String := none
  vendor : Option String := none

/-- `build_device_filters`. -/
def buildDeviceFilters (filters : DeviceFilters) : WhereClause :=
  WhereClause.always
    |>.pushSome .isRegistered (filters.isRegistered.map SqlValue.ofBool)
    |>.pushSome .lastSeenFrom (filters.lastSeenFrom.map fun date ↦ .text (toRfc3339 date))
    |>.pushSome .lastSeenTo (filters.lastSeenTo.map fun date ↦ .text (toRfc3339 date))
    |>.pushSome .owner (filters.owner.map fun owner ↦ .text ("%" ++ owner ++ "%"))
    |>.pushSome .deviceType (filters.deviceType.map .text)
    |>.pushSome .vendor (filters.vendor.map .text)

/-! ### The order -/

/-- The columns that `resolve_sort_column` knows. -/
inductive SortColumn
  | name
  | owner
  | macAddress
  | ipv4Address
  | vendor
  | isRegistered
  | deviceType
  | lastSeen
deriving DecidableEq

/-- The two directions. -/
inductive SortDirection
  | asc
  | desc
deriving DecidableEq

/-- `resolve_sort_column`. -/
def resolveSortColumn (sortBy : Option String) : SortColumn :=
  match sortBy.map toAsciiLowercase with
  | some "name" => .name
  | some "owner" => .owner
  | some "mac_address" => .macAddress
  | some "ipv4_address" => .ipv4Address
  | some "vendor" => .vendor
  | some "is_registered" => .isRegistered
  | some "device_type" => .deviceType
  | _ => .lastSeen

/-- `resolve_sort_direction`. -/
def resolveSortDirection (sortOrder : Option String) : SortDirection :=
  match sortOrder.map toAsciiLowercase with
  | some "asc" => .asc
  | _ => .desc

/-- What an `ORDER BY` on the column compares. -/
def SortColumn.value (row : Device) : SortColumn → SqlValue
  | .name => ((row.name.map SqlValue.text).getD .null).nocase
  | .owner => SqlValue.nocase (.text row.owner)
  | .macAddress => SqlValue.nocase (.text row.macAddress)
  | .ipv4Address => .text row.ipv4Address
  | .vendor => SqlValue.nocase (.text row.vendor)
  | .isRegistered => .ofBool row.isRegistered
  | .deviceType => SqlValue.nocase (.text row.deviceType)
  | .lastSeen => .text row.lastSeenText

/-- A value comes before another. -/
def SortDirection.Before : SortDirection → SqlValue → SqlValue → Prop
  | .asc, first, second => first < second
  | .desc, first, second => second < first

instance (first second : SqlValue) :
    (direction : SortDirection) → Decidable (direction.Before first second)
  | .asc => inferInstanceAs (Decidable (_ < _))
  | .desc => inferInstanceAs (Decidable (_ < _))

/-- `ORDER BY <column> <direction>, mac_address ASC`. -/
def OrderedBefore (column : SortColumn) (direction : SortDirection) (first second : Device) :
    Prop :=
  direction.Before (column.value first) (column.value second) ∨
    column.value first = column.value second ∧
      SortColumn.macAddress.value first ≤ SortColumn.macAddress.value second

instance (column : SortColumn) (direction : SortDirection) (first second : Device) :
    Decidable (OrderedBefore column direction first second) :=
  inferInstanceAs (Decidable (_ ∨ _ ∧ _))

/-! ### The two functions -/

/-- `apply_paging`: `LIMIT ? OFFSET ?`, when both are given. A negative limit is none, and a
negative offset is zero. -/
def applyPaging {α : Type} (pageOffset pageLimit : Option Int) (rows : List α) : List α :=
  match pageOffset, pageLimit with
  | some offset, some limit =>
    if limit < 0 then rows.drop offset.toNat else (rows.drop offset.toNat).take limit.toNat
  | _, _ => rows

/-- `list_devices`. -/
def listDevices (filters : DeviceFilters) (sortBy sortOrder : Option String)
    (pageOffset pageLimit : Option Int) (table : DevicesTable) : List Device :=
  let rows := table.rows.filter fun row ↦ (buildDeviceFilters filters).Holds row
  applyPaging pageOffset pageLimit <| rows.mergeSort fun first second ↦
    OrderedBefore (resolveSortColumn sortBy) (resolveSortDirection sortOrder) first second

/-- `count_devices`. -/
def countDevices (filters : DeviceFilters) (table : DevicesTable) : ℕ :=
  table.rows.countP fun row ↦ (buildDeviceFilters filters).Holds row

/-! ### The order is linear -/

section Order

variable {column : SortColumn} {direction : SortDirection}

theorem SortDirection.Before.trans {first second third : SqlValue}
    (h : direction.Before first second) (h' : direction.Before second third) :
    direction.Before first third := by
  cases direction with
  | asc => exact lt_trans h h'
  | desc => exact lt_trans h' h

theorem SortDirection.before_trichotomy (direction : SortDirection) (first second : SqlValue) :
    direction.Before first second ∨ first = second ∨ direction.Before second first := by
  cases direction with
  | asc => exact lt_trichotomy first second
  | desc => exact (lt_trichotomy first second).elim (Or.inr ∘ Or.inr) fun h ↦
      h.elim (Or.inr ∘ Or.inl) Or.inl

theorem OrderedBefore.trans {first second third : Device}
    (h : OrderedBefore column direction first second)
    (h' : OrderedBefore column direction second third) :
    OrderedBefore column direction first third := by
  rcases h with h | ⟨heq, hmac⟩
  · rcases h' with h' | ⟨heq', -⟩
    · exact Or.inl (h.trans h')
    · exact Or.inl (heq' ▸ h)
  · rcases h' with h' | ⟨heq', hmac'⟩
    · exact Or.inl (heq ▸ h')
    · exact Or.inr ⟨heq.trans heq', hmac.trans hmac'⟩

theorem orderedBefore_total (column : SortColumn) (direction : SortDirection)
    (first second : Device) :
    OrderedBefore column direction first second ∨ OrderedBefore column direction second first := by
  rcases direction.before_trichotomy (column.value first) (column.value second) with
    hlt | heq | hgt
  · exact Or.inl (Or.inl hlt)
  · exact (le_total _ _).imp (fun h ↦ Or.inr ⟨heq, h⟩) fun h ↦ Or.inr ⟨heq.symm, h⟩
  · exact Or.inr (Or.inl hgt)

end Order

section Lists

variable {filters : DeviceFilters} {sortBy sortOrder : Option String} {table : DevicesTable}

theorem mem_listDevices {device : Device} :
    device ∈ listDevices filters sortBy sortOrder none none table ↔
      device ∈ table.rows ∧ (buildDeviceFilters filters).Holds device := by
  unfold listDevices applyPaging
  rw [List.mem_mergeSort, List.mem_filter, decide_eq_true_iff]

theorem length_listDevices :
    (listDevices filters sortBy sortOrder none none table).length = countDevices filters table := by
  unfold listDevices applyPaging countDevices
  rw [List.length_mergeSort, List.countP_eq_length_filter]

/-- No two rows of the list have the same MAC. -/
theorem pairwise_mac_listDevices :
    (listDevices filters sortBy sortOrder none none table).Pairwise
      fun first second ↦ ¬ NocaseEq first.macAddress second.macAddress := by
  have hfiltered := table.primaryKey.sublist
    (List.filter_sublist (p := fun row ↦ (buildDeviceFilters filters).Holds row))
  exact hfiltered.perm (List.mergeSort_perm _ _).symm fun h h' ↦ h h'.symm

theorem pairwise_listDevices :
    (listDevices filters sortBy sortOrder none none table).Pairwise
      (OrderedBefore (resolveSortColumn sortBy) (resolveSortDirection sortOrder)) := by
  refine (List.pairwise_mergeSort ?_ ?_ _).imp of_decide_eq_true
  · intro first second third h h'
    exact decide_eq_true ((of_decide_eq_true h).trans (of_decide_eq_true h'))
  · intro first second
    rw [Bool.or_eq_true, decide_eq_true_iff, decide_eq_true_iff]
    exact orderedBefore_total _ _ first second

end Lists

end Oott
