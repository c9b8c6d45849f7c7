import Oott.Database.Paging
import Oott.Database.Statements
import Oott.Effects.Lists
import Oott.Notifications.Notify
import Oott.Utils.Timestamps
import Mathlib.Data.List.MinMax

/-!
# The insertion of the notifications

`notify` and `persist_and_deliver` of `notifications.rs`, and the insertion of
`db/notifications.rs`. Each notification of a scan is inserted, and then handed to the delivery
task by its title and body; one whose insertion fails is not. On `storing`, an insertion fails when
the script of failures says so, and what is handed over is collected. When no insertion fails, each
notice of a scan has its row (`run_notify`).
-/

set_option autoImplicit false
set_option relaxedAutoImplicit false

namespace Oott

open Effects Instant

/-! ### The table -/

namespace StoredNotifications

/-- The id SQLite gives the next row: one more than the largest. -/
def nextId (table : StoredNotifications) : Int :=
  (table.rows.map fun row ↦ row.record.id).foldr max 0 + 1

theorem id_lt_nextId {table : StoredNotifications} {row : Stored Notification}
    (hrow : row ∈ table.rows) : row.record.id < table.nextId := by
  have hid := List.mem_map_of_mem (f := fun row : Stored Notification ↦ row.record.id) hrow
  exact Int.lt_add_one_of_le (List.le_max_of_le' 0 hid le_rfl)

/-- The row of an inserted notification. -/
def newRow (table : StoredNotifications) (notification : Notification) : Stored Notification :=
  ⟨{ notification with id := table.nextId }, toRfc3339Opts notification.createdOn .nanos⟩

/-- The table with one more row, under the next id. -/
def insert (table : StoredNotifications) (notification : Notification) : StoredNotifications where
  rows := table.rows ++ [table.newRow notification]
  primaryKey := by
    rw [List.map_append]
    refine List.nodup_append.mpr ⟨table.primaryKey, List.nodup_singleton _, ?_⟩
    intro id hid other hother
    obtain ⟨row, hrow, rfl⟩ := List.mem_map.mp hid
    rw [List.mem_singleton.mp hother]
    exact (id_lt_nextId hrow).ne

end StoredNotifications

/-! ### The calls -/

/-- `DeliveryRequest`. -/
structure DeliveryRequest where
  title : String
  body : String
deriving DecidableEq

/-- A call of `notify` that leaves it. -/
inductive NotifyCall
  | now
  | insert (notification : Notification)
  | enqueue (request : DeliveryRequest)

/-- The interface of `notify`: an insertion may fail. -/
abbrev notifier : Interface where
  Op := NotifyCall
  Response
    | .now => Instant
    | .insert _ => Except DbError Int
    | .enqueue _ => Unit

/-- `db::notifications::insert`. -/
def Db.Notifications.insert (notification : Notification) :
    Program notifier (Except DbError Int) :=
  .perform (E := notifier) (.insert { notification with
    macAddress := notification.macAddress.map normalizeMac })

/-- `persist_and_deliver`. -/
def persistAndDeliver (notice : Notice) : Program notifier Unit := do
  let createdOn ← Program.perform (E := notifier) .now
  let notification :=
    Notification.new createdOn notice.notificationType notice.title notice.body true
      notice.macAddress
  match ← Db.Notifications.insert notification with
  | .error _ => return
  | .ok _ =>
    Program.perform (E := notifier) (.enqueue ⟨notification.title, notification.body⟩)

/-- `notify`. -/
def notify (durationString : StdDuration → String) (changes : List DeviceChange) :
    Program notifier Unit :=
  (notices durationString changes).forM persistAndDeliver

/-! ### Runs -/

/-- The table, the readings the clock is going to give, the insertions that are going to fail, and
what has been handed over. -/
structure Outbox where
  table : StoredNotifications
  clock : ℕ → Instant
  failures : ℕ → Option DbError
  requests : List DeliveryRequest

/-- Insertions that fail as scripted. -/
def storing : Machine notifier Outbox
  | .now, outbox =>
    (outbox.clock 0, { outbox with clock := fun n ↦ outbox.clock (n + 1) })
  | .insert notification, outbox =>
    let later := { outbox with failures := fun n ↦ outbox.failures (n + 1) }
    match outbox.failures 0 with
    | some error => (.error error, later)
    | none =>
      (.ok outbox.table.nextId, { later with table := outbox.table.insert notification })
  | .enqueue request, outbox =>
    ((), { outbox with requests := outbox.requests ++ [request] })

/-- The row says what the notice does. -/
structure Notice.StoredAs (notice : Notice) (row : Notification) : Prop where
  notificationType : row.notificationType = notice.notificationType
  title : row.title = notice.title
  body : row.body = notice.body
  isNew : row.isNew = true
  macAddress : row.macAddress = notice.macAddress.map normalizeMac

section Runs

variable {notice : Notice} {outbox : Outbox}

theorem storing_insert {notification : Notification} (hfailure : outbox.failures 0 = none) :
    storing (.insert notification) outbox = (.ok outbox.table.nextId,
      { outbox with
        failures := fun n ↦ outbox.failures (n + 1)
        table := outbox.table.insert notification }) := by
  unfold storing
  simp only [hfailure]

theorem storing_insert_failed {notification : Notification} {error : DbError}
    (hfailure : outbox.failures 0 = some error) :
    storing (.insert notification) outbox = (.error error,
      { outbox with failures := fun n ↦ outbox.failures (n + 1) }) := by
  unfold storing
  simp only [hfailure]

/-- A notice whose insertion fails is not handed over. -/
theorem run_persistAndDeliver_failed {error : DbError}
    (hfailure : outbox.failures 0 = some error) :
    (persistAndDeliver notice).run storing outbox = (some (),
      { outbox with
        clock := fun n ↦ outbox.clock (n + 1)
        failures := fun n ↦ outbox.failures (n + 1) }) := by
  have hinsert (notification : Notification) :=
    @storing_insert_failed (storing .now outbox).2 notification error hfailure
  unfold persistAndDeliver Db.Notifications.insert
  rw [Program.perform_bind, Program.run_call, Program.perform_bind, Program.run_call, hinsert]
  rfl

/-- A notice whose insertion does not fail has a row, and its title and body are handed over. -/
theorem run_persistAndDeliver (hfailure : outbox.failures 0 = none) :
    ∃ row, notice.StoredAs row.record ∧
      ∃ after, (persistAndDeliver notice).run storing outbox = (some (), after) ∧
        after.table.rows = outbox.table.rows ++ [row] ∧
        after.requests = outbox.requests ++ [⟨notice.title, notice.body⟩] ∧
        after.failures = fun n ↦ outbox.failures (n + 1) := by
  have hinsert (notification : Notification) :=
    @storing_insert (storing .now outbox).2 notification hfailure
  refine ⟨outbox.table.newRow { Notification.new (outbox.clock 0) notice.notificationType
    notice.title notice.body true notice.macAddress with
      macAddress := notice.macAddress.map normalizeMac }, ⟨rfl, rfl, rfl, rfl, rfl⟩, ?_⟩
  unfold persistAndDeliver Db.Notifications.insert
  rw [Program.perform_bind, Program.run_call, Program.perform_bind, Program.run_call, hinsert]
  exact ⟨_, rfl, rfl, rfl, rfl⟩

end Runs

/-- When no insertion fails, `notify` inserts a row for each notice, in order, and hands each
over. -/
theorem run_notify (durationString : StdDuration → String) (changes : List DeviceChange)
    {outbox : Outbox} (hfailures : outbox.failures = fun _ ↦ none) :
    ∃ added after, (notify durationString changes).run storing outbox = (some (), after) ∧
      after.table.rows = outbox.table.rows ++ added ∧
      List.Forall₂ (fun notice row ↦ notice.StoredAs row.record)
        (notices durationString changes) added ∧
      after.requests = outbox.requests ++
        (notices durationString changes).map fun notice ↦ ⟨notice.title, notice.body⟩ := by
  -- The notices that have been worked on have their rows and have been handed over.
  let invariant (earlier : List Notice) (after : Outbox) : Prop :=
    (∃ added, after.table.rows = outbox.table.rows ++ added ∧
      List.Forall₂ (fun notice row ↦ notice.StoredAs row.record) earlier added) ∧
    after.requests = outbox.requests ++ earlier.map (fun notice ↦ ⟨notice.title, notice.body⟩) ∧
    after.failures = fun _ ↦ none
  have hmember : ∀ earlier notice state, invariant earlier state → ∃ after,
      (persistAndDeliver notice).run storing state = (some (), after) ∧
        invariant (earlier ++ [notice]) after := by
    intro earlier notice state ⟨⟨added, hrows, hstored⟩, hrequests, hstate⟩
    obtain ⟨row, hrow, after, hrun, hafter, hlater, hnone⟩ :=
      @run_persistAndDeliver notice state (congrFun hstate 0)
    refine ⟨after, hrun, ⟨added ++ [row], ?_, ?_⟩, ?_, ?_⟩
    · rw [hafter, hrows, List.append_assoc]
    · exact List.rel_append hstored (.cons hrow .nil)
    · rw [hlater, hrequests, List.map_append, List.append_assoc]
      rfl
    · rw [hnone, hstate]
  have hstart : invariant [] outbox :=
    ⟨⟨[], (List.append_nil _).symm, .nil⟩, (List.append_nil _).symm, hfailures⟩
  obtain ⟨after, hrun, ⟨added, hrows, hstored⟩, hrequests, -⟩ :=
    Program.run_forM hmember (notices durationString changes) [] outbox hstart
  exact ⟨added, after, hrun, hrows, hstored, hrequests⟩

end Oott
