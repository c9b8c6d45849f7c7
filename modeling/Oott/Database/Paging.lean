import Oott.Database.Listing
import Oott.Model.Notifications
import Oott.Query.Pages
import Oott.Utils.Network

/-!
# The lists in pages

The three functions that list a table in pages: `list_devices`, `notifications::list` and
`device_events::list`, with the two that count. A row is what it is read as, with the text of its
timestamp column: rows that older versions wrote have fewer decimals, and the columns are compared
as texts. SQLite may return the rows in any order that the `ORDER BY` allows, and another one for
the next query.

Pages of devices and of events always partition the list: the MAC and the id are primary keys, and
they come last in the `ORDER BY`. The `ORDER BY` of the notifications is `created_on` alone
(`pages_partition_iff`).
-/

set_option autoImplicit false
set_option relaxedAutoImplicit false

namespace Oott

open Query

/-- A row with a timestamp column: the record it is read as, and the text of the column. -/
structure Stored (α : Type) where
  record : α
  timestamp : String
deriving DecidableEq

/-- What a list function may return: a page of rows in an order that the `ORDER BY` allows. -/
def ListsRows {α : Type} (terms : List (SortTerm α SqlValue)) (rows : List α)
    (pageOffset pageLimit : Option Int) (listed : List α) : Prop :=
  ∃ answer, Answers terms rows answer ∧ listed = applyPaging pageOffset pageLimit answer

theorem mem_of_mem_applyPaging {α : Type} {pageOffset pageLimit : Option Int} {rows : List α}
    {row : α} (hrow : row ∈ applyPaging pageOffset pageLimit rows) : row ∈ rows := by
  unfold applyPaging at hrow
  split at hrow
  · split_ifs at hrow
    · exact List.mem_of_mem_drop hrow
    · exact List.mem_of_mem_drop (List.mem_of_mem_take hrow)
  · exact hrow

theorem ListsRows.mem {α : Type} {terms : List (SortTerm α SqlValue)} {rows listed : List α}
    {pageOffset pageLimit : Option Int} (hlists : ListsRows terms rows pageOffset pageLimit listed)
    {row : α} (hrow : row ∈ listed) : row ∈ rows := by
  obtain ⟨answer, hanswer, rfl⟩ := hlists
  exact hanswer.perm.mem_iff.mp (mem_of_mem_applyPaging hrow)

/-! ### Devices -/

/-- The `devices` table, with its primary key. -/
structure StoredDevices where
  rows : List (Stored Device)
  primaryKey : rows.Pairwise fun first second ↦
    ¬ NocaseEq first.record.macAddress second.record.macAddress

/-- What a comparison of the clause says of a stored row. -/
def Condition.HoldsOf (row : Stored Device) (value : SqlValue) : Condition → Prop
  | .lastSeenFrom => value ≤ .text row.timestamp
  | .lastSeenTo => .text row.timestamp ≤ value
  | condition => condition.Holds row.record value

instance (row : Stored Device) (value : SqlValue) :
    (condition : Condition) → Decidable (condition.HoldsOf row value)
  | .lastSeenFrom => inferInstanceAs (Decidable (_ ≤ _))
  | .lastSeenTo => inferInstanceAs (Decidable (_ ≤ _))
  | .isRegistered => inferInstanceAs (Decidable (Condition.isRegistered.Holds row.record value))
  | .owner => inferInstanceAs (Decidable (Condition.owner.Holds row.record value))
  | .deviceType => inferInstanceAs (Decidable (Condition.deviceType.Holds row.record value))
  | .vendor => inferInstanceAs (Decidable (Condition.vendor.Holds row.record value))

/-- A stored row passes every comparison. -/
def WhereClause.HoldsOf (clause : WhereClause) (row : Stored Device) : Prop :=
  ∀ comparison ∈ clause.conditions.zip clause.params, comparison.1.HoldsOf row comparison.2

instance (clause : WhereClause) (row : Stored Device) : Decidable (clause.HoldsOf row) :=
  inferInstanceAs (Decidable (∀ comparison ∈ _, _))

/-- What an `ORDER BY` on the column compares of a stored row. -/
def SortColumn.valueOf (row : Stored Device) : SortColumn → SqlValue
  | .lastSeen => .text row.timestamp
  | column => column.value row.record

namespace Db.Devices

/-- `ORDER BY <column> <direction>, mac_address ASC`. -/
def orderBy (sortBy sortOrder : Option String) : List (SortTerm (Stored Device) SqlValue) :=
  [⟨fun row ↦ (resolveSortColumn sortBy).valueOf row, resolveSortDirection sortOrder = .desc⟩,
    ⟨fun row ↦ SortColumn.macAddress.valueOf row, false⟩]

/-- The rows that pass the filters. -/
def matching (filters : DeviceFilters) (table : StoredDevices) : List (Stored Device) :=
  table.rows.filter fun row ↦ (buildDeviceFilters filters).HoldsOf row

/-- What `list_devices` may return. -/
def Lists (filters : DeviceFilters) (sortBy sortOrder : Option String) (table : StoredDevices)
    (pageOffset pageLimit : Option Int) (listed : List (Stored Device)) : Prop :=
  ListsRows (orderBy sortBy sortOrder) (matching filters table) pageOffset pageLimit listed

/-- `count_devices`. -/
def count (filters : DeviceFilters) (table : StoredDevices) : ℕ :=
  table.rows.countP fun row ↦ (buildDeviceFilters filters).HoldsOf row

end Db.Devices

/-! ### Notifications -/

/-- The `notifications` table, with its primary key. -/
structure StoredNotifications where
  rows : List (Stored Notification)
  primaryKey : (rows.map fun row ↦ row.record.id).Nodup

namespace Db.Notifications

/-- `ORDER BY created_on DESC`. -/
def orderBy : List (SortTerm (Stored Notification) SqlValue) :=
  [⟨fun row ↦ .text row.timestamp, true⟩]

/-- The rows that pass the filter `is_new=?`. -/
def matching (isNew : Option Bool) (table : StoredNotifications) : List (Stored Notification) :=
  table.rows.filter fun row ↦ ∀ value ∈ isNew, row.record.isNew = value

/-- What `notifications::list` may return. -/
def Lists (isNew : Option Bool) (table : StoredNotifications) (pageOffset pageLimit : Option Int)
    (listed : List (Stored Notification)) : Prop :=
  ListsRows orderBy (matching isNew table) pageOffset pageLimit listed

/-- `notifications::count`. -/
def count (isNew : Option Bool) (table : StoredNotifications) : ℕ :=
  table.rows.countP fun row ↦ ∀ value ∈ isNew, row.record.isNew = value

end Db.Notifications

/-! ### Device events -/

/-- The `device_events` table, with its primary key. -/
structure StoredEvents where
  rows : List (Stored DeviceEvent)
  primaryKey : (rows.map fun row ↦ row.record.id).Nodup

namespace Db.DeviceEvents

/-- `ORDER BY created_on DESC, id DESC`. -/
def orderBy : List (SortTerm (Stored DeviceEvent) SqlValue) :=
  [⟨fun row ↦ .text row.timestamp, true⟩, ⟨fun row ↦ .integer row.record.id, true⟩]

/-- The rows that pass the filters `mac_address=?` and `created_on >= ?`. -/
def matching (macAddress : Option String) (createdFrom : Option Instant) (table : StoredEvents) :
    List (Stored DeviceEvent) :=
  table.rows.filter fun row ↦
    (∀ mac ∈ macAddress, NocaseEq row.record.macAddress (normalizeMac mac)) ∧
      ∀ created ∈ createdFrom, SqlValue.text (toRfc3339 created) ≤ .text row.timestamp

/-- What `device_events::list` may return. -/
def Lists (macAddress : Option String) (createdFrom : Option Instant) (table : StoredEvents)
    (pageOffset pageLimit : Option Int) (listed : List (Stored DeviceEvent)) : Prop :=
  ListsRows orderBy (matching macAddress createdFrom table) pageOffset pageLimit listed

end Db.DeviceEvents

/-! ### Pages -/

/-- The client that asks a list function for page after page gets every one of the rows once. -/
def ListPartitions {α : Type} (lists : Option Int → Option Int → List α → Prop) (size : ℕ)
    (rows : List α) : Prop :=
  PagesPartition (fun offset ↦ lists (some offset) (some size)) size rows

theorem listPartitions_iff {α : Type} {terms : List (SortTerm α SqlValue)} {rows : List α}
    {size : ℕ} :
    ListPartitions (ListsRows terms rows) size rows ↔
      PagesPartition (PageOf terms rows size) size rows := by
  have hpage : (fun offset : ℕ ↦ ListsRows terms rows (some offset) (some size)) =
      PageOf terms rows size := by
    funext offset listed
    unfold ListsRows PageOf applyPaging
    simp only [if_neg (not_lt.mpr (Int.natCast_nonneg size)), Int.toNat_natCast]
  unfold ListPartitions
  rw [hpage]

/-! ### The rows of the current code -/

/-- A row that the current code wrote, with nine decimals. -/
def Device.stored (device : Device) : Stored Device := ⟨device, device.lastSeenText⟩

/-- The table of rows that the current code wrote. -/
def DevicesTable.stored (table : DevicesTable) : StoredDevices where
  rows := table.rows.map Device.stored
  primaryKey := List.pairwise_map.mpr table.primaryKey

section Current

variable {filters : DeviceFilters} {sortBy sortOrder : Option String} {table : DevicesTable}

theorem holdsOf_stored {clause : WhereClause} {device : Device} :
    clause.HoldsOf device.stored ↔ clause.Holds device := by
  have hcondition (condition : Condition) (value : SqlValue) :
      condition.HoldsOf device.stored value ↔ condition.Holds device value := by
    cases condition <;> exact Iff.rfl
  unfold WhereClause.HoldsOf WhereClause.Holds
  simp only [hcondition]

theorem precedes_stored {first second : Device} :
    Precedes (Db.Devices.orderBy sortBy sortOrder) first.stored second.stored ↔
      OrderedBefore (resolveSortColumn sortBy) (resolveSortDirection sortOrder) first second := by
  have hvalue (column : SortColumn) (device : Device) :
      column.valueOf device.stored = column.value device := by
    cases column <;> rfl
  have hmac : SortColumn.macAddress.value first ≤ SortColumn.macAddress.value second ↔
      SortColumn.macAddress.value first < SortColumn.macAddress.value second ∨
        SortColumn.macAddress.value first = SortColumn.macAddress.value second := le_iff_lt_or_eq
  unfold Db.Devices.orderBy OrderedBefore
  rw [hmac]
  simp only [Precedes, SortTerm.Before, hvalue, and_true, Bool.false_eq_true, if_false]
  cases resolveSortDirection sortOrder <;> simp [SortDirection.Before]

theorem matching_stored :
    Db.Devices.matching filters table.stored =
      (table.rows.filter fun row ↦ (buildDeviceFilters filters).Holds row).map Device.stored := by
  unfold Db.Devices.matching DevicesTable.stored
  rw [List.filter_map]
  congr 2
  funext device
  exact decide_eq_decide.mpr holdsOf_stored

theorem applyPaging_map {α β : Type} (f : α → β) (pageOffset pageLimit : Option Int)
    (rows : List α) :
    applyPaging pageOffset pageLimit (rows.map f) =
      (applyPaging pageOffset pageLimit rows).map f := by
  unfold applyPaging
  split
  · split_ifs <;> simp
  · rfl

/-- The list of the rows in the order of a stable sort is one that `list_devices` may return. -/
theorem lists_listDevices (pageOffset pageLimit : Option Int) :
    Db.Devices.Lists filters sortBy sortOrder table.stored pageOffset pageLimit
      ((listDevices filters sortBy sortOrder pageOffset pageLimit table).map Device.stored) := by
  refine ⟨(listDevices filters sortBy sortOrder none none table).map Device.stored,
    ⟨?_, List.pairwise_map.mpr (pairwise_listDevices.imp precedes_stored.mpr)⟩,
    (applyPaging_map _ _ _ _).symm⟩
  rw [matching_stored]
  exact (List.mergeSort_perm _ _).map _

end Current

/-! ### Which orders tell rows apart -/

section Keys

/-- Texts under `NOCASE`. -/
theorem nocaseEq_of_nocase {first second : String}
    (h : SqlValue.nocase (.text first) = SqlValue.nocase (.text second)) :
    NocaseEq first second := SqlValue.text.inj h

/-- The MAC tells devices apart. -/
theorem distinguishes_devices (filters : DeviceFilters) (sortBy sortOrder : Option String)
    (table : StoredDevices) :
    Distinguishes (Db.Devices.orderBy sortBy sortOrder) (Db.Devices.matching filters table) := by
  intro first hfirst second hsecond hkeys
  have hmac : NocaseEq first.record.macAddress second.record.macAddress :=
    nocaseEq_of_nocase (hkeys _ (List.mem_cons_of_mem _ (List.mem_singleton_self _)))
  by_contra hne
  have hsymm : Std.Symm fun first second : Stored Device ↦
      ¬ NocaseEq first.record.macAddress second.record.macAddress := ⟨fun _ _ h h' ↦ h h'.symm⟩
  exact table.primaryKey.forall (List.mem_of_mem_filter hfirst) (List.mem_of_mem_filter hsecond)
    hne hmac

theorem StoredDevices.nodup (table : StoredDevices) : table.rows.Nodup := by
  refine table.primaryKey.imp fun {first second} hmac hsame ↦ hmac ?_
  rw [hsame]
  exact NocaseEq.refl _

/-- The id tells events apart. -/
theorem distinguishes_events (macAddress : Option String) (createdFrom : Option Instant)
    (table : StoredEvents) :
    Distinguishes Db.DeviceEvents.orderBy
      (Db.DeviceEvents.matching macAddress createdFrom table) := by
  intro first hfirst second hsecond hkeys
  have hid : first.record.id = second.record.id :=
    SqlValue.integer.inj (hkeys _ (List.mem_cons_of_mem _ (List.mem_singleton_self _)))
  exact List.inj_on_of_nodup_map table.primaryKey (List.mem_of_mem_filter hfirst)
    (List.mem_of_mem_filter hsecond) hid

end Keys

/-- The notifications that are strictly newer than one, by the text of `created_on`. -/
def countNewer (rows : List (Stored Notification)) (row : Stored Notification) : ℕ :=
  rows.countP fun other ↦ row.timestamp < other.timestamp

theorem countBefore_notifications (rows : List (Stored Notification))
    (row : Stored Notification) :
    countBefore Db.Notifications.orderBy rows row = countNewer rows row := by
  unfold countBefore countNewer
  refine List.countP_congr fun other _ ↦ ?_
  simp only [decide_eq_true_eq]
  constructor
  · intro hafter
    have hne : ¬ SqlValue.text other.timestamp ≤ .text row.timestamp := by
      intro hle
      rcases lt_or_eq_of_le hle with hlt | heq
      · exact hafter (Or.inl hlt)
      · exact hafter (Or.inr ⟨heq.symm, trivial⟩)
    exact SqlValue.text_lt_text.mp (not_le.mp hne)
  · intro hnewer hprecedes
    rw [← SqlValue.text_lt_text] at hnewer
    rcases hprecedes with hlt | ⟨heq, -⟩
    · exact lt_asymm hnewer hlt
    · exact hnewer.ne heq

/-- For every table, filter, sort choice and page size: the pages of the devices partition the
matching rows, and so do those of the events; those of the notifications do if and only if every
page starts with a notification that exactly those on the pages before are newer than, that is, no
notifications of one `created_on` straddle a boundary. The counts are the numbers of rows. What
`listDevices` returns is one of the lists of a table that the current code wrote. -/
theorem pages_partition_iff (filters : DeviceFilters) (sortBy sortOrder : Option String)
    (devices : StoredDevices) (macAddress : Option String) (createdFrom : Option Instant)
    (events : StoredEvents) (isNew : Option Bool) (notifications : StoredNotifications)
    (size : ℕ) (hsize : 0 < size) :
    (ListPartitions (Db.Devices.Lists filters sortBy sortOrder devices) size
        (Db.Devices.matching filters devices) ∧
      Db.Devices.count filters devices = (Db.Devices.matching filters devices).length) ∧
    ListPartitions (Db.DeviceEvents.Lists macAddress createdFrom events) size
      (Db.DeviceEvents.matching macAddress createdFrom events) ∧
    Db.Notifications.count isNew notifications =
      (Db.Notifications.matching isNew notifications).length ∧
    (ListPartitions (Db.Notifications.Lists isNew notifications) size
        (Db.Notifications.matching isNew notifications) ↔
      ∀ page, page * size < (Db.Notifications.matching isNew notifications).length →
        ∃ row ∈ Db.Notifications.matching isNew notifications,
          countNewer (Db.Notifications.matching isNew notifications) row = page * size) ∧
    ∀ (table : DevicesTable) (pageOffset pageLimit : Option Int),
      Db.Devices.Lists filters sortBy sortOrder table.stored pageOffset pageLimit
        ((listDevices filters sortBy sortOrder pageOffset pageLimit table).map Device.stored) := by
  refine ⟨⟨?_, List.countP_eq_length_filter⟩, ?_, List.countP_eq_length_filter, ?_,
    fun _ ↦ lists_listDevices⟩
  · refine listPartitions_iff.mpr (pagesPartition_of_distinguishes hsize ?_ ?_)
    · exact devices.nodup.filter _
    · exact distinguishes_devices filters sortBy sortOrder devices
  · refine listPartitions_iff.mpr (pagesPartition_of_distinguishes hsize ?_ ?_)
    · exact (List.Nodup.of_map _ events.primaryKey).filter _
    · exact distinguishes_events macAddress createdFrom events
  · have hrows : (Db.Notifications.matching isNew notifications).Nodup :=
      (List.Nodup.of_map _ notifications.primaryKey).filter _
    refine listPartitions_iff.trans ((pagesPartition_iff hsize hrows).trans ?_)
    unfold FirstOnPages
    simp only [countBefore_notifications]

/-- Two notifications of one call of `notify`, in the second precision of an older version. -/
def tiedNotifications : StoredNotifications where
  rows := [⟨⟨1, .epoch, .newDeviceFound, "a", "a", true, none⟩, "1970-01-01T00:00:00+00:00"⟩,
    ⟨⟨2, .epoch, .deviceChanged, "b", "b", true, none⟩, "1970-01-01T00:00:00+00:00"⟩]
  primaryKey := by decide

/-- With pages of one row, the first of two tied notifications may come on both pages. -/
theorem tied_notifications_repeated :
    ¬ ListPartitions (Db.Notifications.Lists none tiedNotifications) 1
      (Db.Notifications.matching none tiedNotifications) := by
  intro hpartition
  obtain ⟨first, second, hrows⟩ : ∃ first second : Stored Notification,
      Db.Notifications.matching none tiedNotifications = [first, second] ∧
        first.timestamp = second.timestamp := ⟨_, _, rfl, rfl⟩
  have htied : ∀ {row other : Stored Notification}, row.timestamp = other.timestamp →
      Precedes Db.Notifications.orderBy row other := fun heq ↦
    Or.inr ⟨congrArg SqlValue.text heq, trivial⟩
  rw [hrows.1] at hpartition
  have hanswer : Answers Db.Notifications.orderBy [first, second] ([] ++ first :: second :: []) :=
    ⟨List.Perm.refl _, List.pairwise_pair.mpr (htied hrows.2)⟩
  have hnodup : [first, second].Nodup := by
    rw [← hrows.1]
    decide
  refine not_pagesPartition_of_tied Nat.one_pos hnodup hanswer rfl (htied hrows.2.symm) ?_
  exact listPartitions_iff.mp (hrows.1 ▸ hpartition)

/-- On one page the two notifications come once each. -/
theorem pages_partition_iff_tied :
    ListPartitions (Db.Notifications.Lists none tiedNotifications) 2
      (Db.Notifications.matching none tiedNotifications) := by
  refine (pages_partition_iff {} none none ⟨[], .nil⟩ none none ⟨[], .nil⟩ none tiedNotifications
    2 Nat.two_pos).2.2.2.1.mpr fun page hpage ↦ ?_
  have hzero : page = 0 := by
    change page * 2 < 2 at hpage
    omega
  subst hzero
  exact ⟨_, List.mem_cons_self, by decide⟩

end Oott
