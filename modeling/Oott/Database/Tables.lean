import Oott.Model.Records
import Oott.Utils.Text
import Mathlib.Data.List.Pairwise

/-!
# The two tables

`devices` has `mac_address` as its primary key under `NOCASE`: `DevicesTable` carries that no two
rows have the same MAC up to letter case, so a table that breaks the key cannot be built, and
`insert` fails where the key would break. An `UPDATE` is a `SetClause`, the columns it assigns,
applied to the rows whose MAC matches; no clause of the program assigns the key. `device_events` is
a list of rows in the order of their insertion; it has no foreign key to `devices`.
-/

set_option autoImplicit false
set_option relaxedAutoImplicit false

namespace Oott

/-- The `SET` clause of an `UPDATE` on `devices`: `none` leaves a column out of the clause. The
`device_type` column is assigned an expression over the stored value. -/
structure SetClause where
  ipv4Address : Option String := none
  vendor : Option String := none
  lastSeen : Option Instant := none
  isRegistered : Option Bool := none
  owner : Option String := none
  deviceType : Option (String → String) := none
  name : Option (Option String) := none

/-- What the clause makes of a row. -/
def SetClause.apply (clause : SetClause) (row : Device) : Device where
  macAddress := row.macAddress
  ipv4Address := clause.ipv4Address.getD row.ipv4Address
  vendor := clause.vendor.getD row.vendor
  lastSeen := clause.lastSeen.getD row.lastSeen
  isRegistered := clause.isRegistered.getD row.isRegistered
  owner := clause.owner.getD row.owner
  deviceType := (clause.deviceType.getD id) row.deviceType
  name := clause.name.getD row.name

@[simp] theorem SetClause.apply_macAddress (clause : SetClause) (row : Device) :
    (clause.apply row).macAddress = row.macAddress := rfl

/-- The `devices` table, with its primary key. -/
@[ext] structure DevicesTable where
  rows : List Device
  primaryKey : rows.Pairwise fun first second ↦ ¬ NocaseEq first.macAddress second.macAddress

namespace DevicesTable

/-- The empty table. -/
def empty : DevicesTable := ⟨[], List.Pairwise.nil⟩

/-- A table of one row. -/
def single (row : Device) : DevicesTable := ⟨[row], List.pairwise_singleton _ _⟩

/-- `SELECT … WHERE mac_address=?`. -/
def select (table : DevicesTable) (macAddress : String) : Option Device :=
  table.rows.find? fun row ↦ NocaseEq row.macAddress macAddress

/-- The row an `UPDATE … WHERE mac_address=?` leaves in place of `row`. -/
def updateRow (clause : SetClause) (macAddress : String) (row : Device) : Device :=
  if NocaseEq row.macAddress macAddress then clause.apply row else row

@[simp] theorem updateRow_macAddress (clause : SetClause) (macAddress : String) (row : Device) :
    (updateRow clause macAddress row).macAddress = row.macAddress := by
  unfold updateRow
  split_ifs <;> rfl

/-- `UPDATE devices SET … WHERE mac_address=?`. -/
def update (table : DevicesTable) (clause : SetClause) (macAddress : String) : DevicesTable where
  rows := table.rows.map (updateRow clause macAddress)
  primaryKey := by
    rw [List.pairwise_map]
    simpa only [updateRow_macAddress] using table.primaryKey

/-- `INSERT INTO devices`, which fails when the key is taken. -/
def insert (table : DevicesTable) (row : Device) : Option DevicesTable :=
  if h : ∀ other ∈ table.rows, ¬ NocaseEq other.macAddress row.macAddress then
    some ⟨table.rows ++ [row], by
      rw [List.pairwise_append]
      refine ⟨table.primaryKey, List.pairwise_singleton _ _, fun other hother last hlast ↦ ?_⟩
      rw [List.mem_singleton.mp hlast]
      exact h other hother⟩
  else none

/-- `DELETE FROM devices WHERE mac_address=?`. -/
def delete (table : DevicesTable) (macAddress : String) : DevicesTable where
  rows := table.rows.filter fun row ↦ ¬ NocaseEq row.macAddress macAddress
  primaryKey := table.primaryKey.sublist List.filter_sublist

/-! ### Lookups -/

variable {table : DevicesTable} {macAddress : String} {row : Device}

theorem mem_of_select (hselect : table.select macAddress = some row) : row ∈ table.rows :=
  List.mem_of_find?_eq_some hselect

theorem nocaseEq_of_select (hselect : table.select macAddress = some row) :
    NocaseEq row.macAddress macAddress := by
  simpa using List.find?_some hselect

/-- The primary key: two rows with the same MAC up to case are one row. -/
theorem eq_of_mem {first second : Device} (hfirst : first ∈ table.rows)
    (hsecond : second ∈ table.rows) (hmac : NocaseEq first.macAddress second.macAddress) :
    first = second := by
  by_contra hne
  have hsymm : Std.Symm fun first second : Device ↦
      ¬ NocaseEq first.macAddress second.macAddress := ⟨fun _ _ h h' ↦ h h'.symm⟩
  exact table.primaryKey.forall hfirst hsecond hne hmac

/-- A lookup finds exactly the row with the MAC, up to case. -/
theorem select_eq_some_iff :
    table.select macAddress = some row ↔
      row ∈ table.rows ∧ NocaseEq row.macAddress macAddress := by
  constructor
  · intro hselect
    exact ⟨mem_of_select hselect, nocaseEq_of_select hselect⟩
  · intro ⟨hmem, hmac⟩
    cases hfound : table.select macAddress with
    | none =>
      have hnone := List.find?_eq_none.mp hfound row hmem
      exact absurd hmac (by simpa using hnone)
    | some other =>
      have hsame := eq_of_mem (mem_of_select hfound) hmem
        ((nocaseEq_of_select hfound).trans hmac.symm)
      rw [hsame]

theorem select_eq_none_iff :
    table.select macAddress = none ↔
      ∀ row ∈ table.rows, ¬ NocaseEq row.macAddress macAddress := by
  unfold select
  rw [List.find?_eq_none]
  simp

/-- Lookups do not depend on the case of the MAC. -/
theorem select_congr {other : String} (hmac : NocaseEq macAddress other) :
    table.select macAddress = table.select other := by
  unfold select
  congr 1
  funext row
  have hiff : NocaseEq row.macAddress macAddress ↔ NocaseEq row.macAddress other :=
    ⟨fun h ↦ h.trans hmac, fun h ↦ h.trans hmac.symm⟩
  exact decide_eq_decide.mpr hiff

@[simp] theorem select_empty : empty.select macAddress = none := rfl

/-- A lookup after an `UPDATE` sees the updated row. -/
theorem select_update (clause : SetClause) (other : String) :
    (table.update clause macAddress).select other =
      (table.select other).map (updateRow clause macAddress) := by
  unfold select update
  rw [List.find?_map]
  simp only [Function.comp_def, updateRow_macAddress]

theorem select_update_same (clause : SetClause) {other : String}
    (hmac : NocaseEq other macAddress) :
    (table.update clause macAddress).select other = (table.select other).map clause.apply := by
  rw [select_update]
  cases hselect : table.select other with
  | none => rfl
  | some found =>
    simp [updateRow, (nocaseEq_of_select hselect).trans hmac]

theorem select_update_of_some (clause : SetClause) {other : String} {row : Device}
    (hmac : NocaseEq other macAddress) (hrow : table.select other = some row) :
    (table.update clause macAddress).select other = some (clause.apply row) := by
  rw [select_update_same clause hmac, hrow, Option.map_some]

theorem select_update_other (clause : SetClause) {other : String}
    (hmac : ¬ NocaseEq other macAddress) :
    (table.update clause macAddress).select other = table.select other := by
  rw [select_update]
  cases hselect : table.select other with
  | none => rfl
  | some found =>
    have hfound : ¬ NocaseEq found.macAddress macAddress :=
      fun h ↦ hmac ((nocaseEq_of_select hselect).symm.trans h)
    simp [updateRow, hfound]

theorem mem_update {clause : SetClause} :
    row ∈ (table.update clause macAddress).rows ↔
      ∃ old ∈ table.rows, updateRow clause macAddress old = row := List.mem_map

/-- What holds of every row, and of what the clause makes of the row it matches, holds of every row
after an `UPDATE`. -/
theorem forall_update {kept : Device → Prop} {clause : SetClause}
    (hrows : ∀ row ∈ table.rows, kept row)
    (hmatched : ∀ row, table.select macAddress = some row → kept (clause.apply row)) :
    ∀ row ∈ (table.update clause macAddress).rows, kept row := by
  intro row hrow
  obtain ⟨old, hold, hupdated⟩ := mem_update.mp hrow
  rw [← hupdated]
  unfold updateRow
  split_ifs with hmac
  · exact hmatched old (select_eq_some_iff.mpr ⟨hold, hmac⟩)
  · exact hrows old hold

theorem mem_delete :
    row ∈ (table.delete macAddress).rows ↔
      row ∈ table.rows ∧ ¬ NocaseEq row.macAddress macAddress := by
  simp [delete]

theorem select_delete_same {other : String} (hmac : NocaseEq other macAddress) :
    (table.delete macAddress).select other = none := by
  rw [select_eq_none_iff]
  intro row hrow hother
  exact (mem_delete.mp hrow).2 (hother.trans hmac)

theorem select_delete_other {other : String} (hmac : ¬ NocaseEq other macAddress) :
    (table.delete macAddress).select other = table.select other := by
  cases hselect : table.select other with
  | none =>
    rw [select_eq_none_iff] at hselect ⊢
    exact fun row hrow ↦ hselect row (mem_delete.mp hrow).1
  | some found =>
    rw [select_eq_some_iff] at hselect ⊢
    refine ⟨mem_delete.mpr ⟨hselect.1, fun h ↦ hmac ?_⟩, hselect.2⟩
    exact hselect.2.symm.trans h

/-- An insertion succeeds exactly when the key is free. -/
theorem insert_eq_none_iff : table.insert row = none ↔ table.select row.macAddress ≠ none := by
  rw [Ne, select_eq_none_iff]
  unfold insert
  by_cases hfree : ∀ other ∈ table.rows, ¬ NocaseEq other.macAddress row.macAddress
  · rw [dif_pos hfree]
    exact iff_of_false (Option.some_ne_none _) (not_not.mpr hfree)
  · rw [dif_neg hfree]
    exact iff_of_true rfl hfree

theorem rows_of_insert {after : DevicesTable} (hinsert : table.insert row = some after) :
    after.rows = table.rows ++ [row] ∧ table.select row.macAddress = none := by
  unfold insert at hinsert
  split_ifs at hinsert with hfree
  cases hinsert
  exact ⟨rfl, select_eq_none_iff.mpr hfree⟩

/-- An insertion leaves the rows that are there. -/
theorem select_insert_of_some {after : DevicesTable} {found : Device}
    (hinsert : table.insert row = some after) (hselect : table.select macAddress = some found) :
    after.select macAddress = some found := by
  obtain ⟨hmem, hmac⟩ := select_eq_some_iff.mp hselect
  refine select_eq_some_iff.mpr ⟨?_, hmac⟩
  rw [(rows_of_insert hinsert).1]
  exact List.mem_append_left _ hmem

/-- An insertion leaves the lookups of other MACs. -/
theorem select_insert_other {after : DevicesTable} (hinsert : table.insert row = some after)
    (hmac : ¬ NocaseEq macAddress row.macAddress) :
    after.select macAddress = table.select macAddress := by
  unfold select
  rw [(rows_of_insert hinsert).1, List.find?_append,
    List.find?_singleton, if_neg (by simpa using fun h ↦ hmac (NocaseEq.symm h)), Option.or_none]

/-- What holds of every row and of the inserted one holds of every row after an `INSERT`. -/
theorem forall_insert {kept : Device → Prop} {after : DevicesTable}
    (hinsert : table.insert row = some after) (hrows : ∀ other ∈ table.rows, kept other)
    (hrow : kept row) : ∀ other ∈ after.rows, kept other := by
  intro other hother
  rw [(rows_of_insert hinsert).1, List.mem_append, List.mem_singleton] at hother
  rcases hother with hold | hnew
  · exact hrows other hold
  · rw [hnew]
    exact hrow

theorem insert_of_select_eq_none (hselect : table.select row.macAddress = none) :
    ∃ after, table.insert row = some after := by
  cases hinsert : table.insert row with
  | none => exact absurd hselect (insert_eq_none_iff.mp hinsert)
  | some after => exact ⟨after, rfl⟩

end DevicesTable

/-- The part of the database that the sighting pipeline and the device API work on. -/
@[ext] structure Database where
  devices : DevicesTable
  deviceEvents : List DeviceEvent

/-- The database after the migrations, before the first sighting. -/
def Database.empty : Database := ⟨.empty, []⟩

end Oott
