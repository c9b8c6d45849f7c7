import Oott.Effects.Guarded
import Oott.Notifications.Persistence

/-!
# The notifications

The functions of `db/notifications.rs` on the `notifications` table. Each makes one statement, and a
statement may fail without effect. A listing may be in any order that its `ORDER BY` allows, so that
the answers are a relation. `notify` reaches the table by the statement of `insert`
(`notifying`); between any two statements of one program those of others can come.

An interleaving from the empty table is described by its moves. `lastFlag` is the read state that
the last of the moves on an id has given to it, and a row of the table has it (`lastFlag_of_mem`).
-/

set_option autoImplicit false
set_option relaxedAutoImplicit false

namespace Oott

open Effects Instant

/-! ### The table -/

/-- The row with another read state. -/
def Stored.flagged (row : Stored Notification) (isNew : Bool) : Stored Notification :=
  { row with record := { row.record with isNew := isNew } }

@[simp] theorem Stored.flagged_id (row : Stored Notification) (isNew : Bool) :
    (row.flagged isNew).record.id = row.record.id := rfl

@[simp] theorem Stored.flagged_isNew (row : Stored Notification) (isNew : Bool) :
    (row.flagged isNew).record.isNew = isNew := rfl

@[simp] theorem Stored.flagged_timestamp (row : Stored Notification) (isNew : Bool) :
    (row.flagged isNew).timestamp = row.timestamp := rfl

namespace StoredNotifications

/-- The empty table. -/
def empty : StoredNotifications := ⟨[], List.nodup_nil⟩

/-- What `UPDATE notifications SET is_new=… WHERE …` leaves in place of a row. -/
def flagRow (isNew : Bool) (where' : Notification → Bool) (row : Stored Notification) :
    Stored Notification :=
  if where' row.record then row.flagged isNew else row

@[simp] theorem flagRow_id (isNew : Bool) (where' : Notification → Bool)
    (row : Stored Notification) : (flagRow isNew where' row).record.id = row.record.id := by
  unfold flagRow
  split_ifs <;> rfl

@[simp] theorem flagRow_timestamp (isNew : Bool) (where' : Notification → Bool)
    (row : Stored Notification) : (flagRow isNew where' row).timestamp = row.timestamp := by
  unfold flagRow
  split_ifs <;> rfl

/-- `UPDATE notifications SET is_new=… WHERE …`. -/
def flag (table : StoredNotifications) (isNew : Bool) (where' : Notification → Bool) :
    StoredNotifications where
  rows := table.rows.map (flagRow isNew where')
  primaryKey := by
    rw [List.map_map]
    simpa only [Function.comp_def, flagRow_id] using table.primaryKey

/-- `DELETE FROM notifications WHERE created_on < ?`. -/
def purge (table : StoredNotifications) (cutoff : Instant) : StoredNotifications where
  rows := table.rows.filter fun row ↦ ¬ row.timestamp < toRfc3339 cutoff
  primaryKey := table.primaryKey.sublist (List.filter_sublist.map _)

/-- `SELECT … WHERE id=?`. -/
def select (table : StoredNotifications) (id : Int) : Option Notification :=
  (table.rows.find? fun row ↦ row.record.id = id).map Stored.record

variable {table : StoredNotifications} {id : Int}

theorem exists_of_select {notification : Notification}
    (hselect : table.select id = some notification) :
    ∃ row ∈ table.rows, row.record = notification ∧ notification.id = id := by
  obtain ⟨row, hfind, hrecord⟩ := Option.map_eq_some_iff.mp hselect
  refine ⟨row, List.mem_of_find?_eq_some hfind, hrecord, ?_⟩
  rw [← hrecord]
  simpa using List.find?_some hfind

end StoredNotifications

/-! ### Statements and calls -/

/-- The statements of `db/notifications.rs`. -/
inductive NotificationStatement
  | insert (notification : Notification)
  | markAsOld (id : Int)
  | markAsNew (id : Int)
  | markAllAsOld
  | purgeOlderThan (cutoff : Instant)
  | select (id : Int)
  | list (isNew : Option Bool) (pageOffset pageLimit : Option Int)
  | count (isNew : Option Bool)

/-- What a statement gives back: an id, rows, or a number of rows. -/
abbrev NotificationStatement.Result : NotificationStatement → Type
  | insert _ => Int
  | markAsOld _ => ℕ
  | markAsNew _ => ℕ
  | markAllAsOld => ℕ
  | purgeOlderThan _ => ℕ
  | select _ => Option Notification
  | list _ _ _ => List Notification
  | count _ => ℕ

/-- The table a statement leaves. -/
def NotificationStatement.after (table : StoredNotifications) :
    NotificationStatement → StoredNotifications
  | insert notification => table.insert notification
  | markAsOld id => table.flag false fun row ↦ row.id = id
  | markAsNew id => table.flag true fun row ↦ row.id = id
  | markAllAsOld => table.flag false Notification.isNew
  | purgeOlderThan cutoff => table.purge cutoff
  | select _ => table
  | list _ _ _ => table
  | count _ => table

/-- What SQLite may answer to a statement. -/
def NotificationStatement.Answers (table : StoredNotifications) :
    (statement : NotificationStatement) → statement.Result → Prop
  | insert _, id => id = table.nextId
  | markAsOld id, changed => changed = table.rows.countP fun row ↦ row.record.id = id
  | markAsNew id, changed => changed = table.rows.countP fun row ↦ row.record.id = id
  | markAllAsOld, changed => changed = table.rows.countP fun row ↦ row.record.isNew
  | purgeOlderThan cutoff, changed =>
    changed = table.rows.countP fun row ↦ row.timestamp < toRfc3339 cutoff
  | select id, found => found = table.select id
  | list isNew pageOffset pageLimit, listed =>
    ∃ rows, Db.Notifications.Lists isNew table pageOffset pageLimit rows ∧
      listed = rows.map Stored.record
  | count isNew, counted => counted = Db.Notifications.count isNew table

/-- A call that leaves Rust. -/
inductive NotificationCall
  | now
  | sql (statement : NotificationStatement)
  | enqueue (request : DeliveryRequest)

/-- The interface of the notifications: a statement may fail. -/
abbrev notificationBackend : Interface where
  Op := NotificationCall
  Response
    | .now => Instant
    | .sql statement => Except DbError statement.Result
    | .enqueue _ => Unit

/-- Any statement may fail, without effect. -/
inductive NotificationFaulty : Transition notificationBackend StoredNotifications
  | now (instant : Instant) (table : StoredNotifications) :
      NotificationFaulty .now table instant table
  | answer {statement : NotificationStatement} {table : StoredNotifications}
      {result : statement.Result} (hanswers : statement.Answers table result) :
      NotificationFaulty (.sql statement) table (.ok result) (statement.after table)
  | fail (statement : NotificationStatement) (table : StoredNotifications) (error : DbError) :
      NotificationFaulty (.sql statement) table (.error error) table
  | enqueue (request : DeliveryRequest) (table : StoredNotifications) :
      NotificationFaulty (.enqueue request) table () table

/-- What SQLite answers when it sorts a listing stably. -/
def NotificationStatement.answer (table : StoredNotifications) :
    (statement : NotificationStatement) → statement.Result
  | insert _ => table.nextId
  | markAsOld id => table.rows.countP fun row ↦ row.record.id = id
  | markAsNew id => table.rows.countP fun row ↦ row.record.id = id
  | markAllAsOld => table.rows.countP fun row ↦ row.record.isNew
  | purgeOlderThan cutoff => table.rows.countP fun row ↦ row.timestamp < toRfc3339 cutoff
  | select id => table.select id
  | list isNew pageOffset pageLimit =>
    (applyPaging pageOffset pageLimit ((Db.Notifications.matching isNew table).mergeSort
      fun first second ↦ Query.Precedes Db.Notifications.orderBy first second)).map Stored.record
  | count isNew => Db.Notifications.count isNew table

theorem NotificationStatement.answers_answer (table : StoredNotifications)
    (statement : NotificationStatement) : statement.Answers table (statement.answer table) := by
  cases statement with
  | list isNew pageOffset pageLimit =>
    exact ⟨_, ⟨_, Query.answers_mergeSort _ _, rfl⟩, rfl⟩
  | _ => exact rfl

/-- The machine on which no statement fails and the clock stands still. -/
def answering (instant : Instant) : Machine notificationBackend StoredNotifications
  | .now, table => (instant, table)
  | .sql statement, table => (.ok (statement.answer table), statement.after table)
  | .enqueue _, table => ((), table)

theorem NotificationFaulty.allows_answering (instant : Instant) :
    Transition.Allows NotificationFaulty (answering instant) := by
  intro op table
  cases op with
  | now => exact .now instant table
  | sql statement => exact .answer (statement.answers_answer table)
  | enqueue request => exact .enqueue request table

/-- A user of the table beside any others, all about to start on the empty table. -/
def besides {γ κ : Type} {β : κ → Type} (user : Program notificationBackend γ)
    (others : (i : κ) → Program notificationBackend (β i)) :
    Configuration notificationBackend (Option κ) (fun i ↦ i.elim γ β) StoredNotifications where
  state := .empty
  threads
    | none => user
    | some i => others i

/-- Run a statement on `notifications`. -/
def notificationSql (statement : NotificationStatement) :
    Program notificationBackend (Except DbError statement.Result) :=
  .perform (E := notificationBackend) (.sql statement)

/-- The calls of `notify` are calls of this interface. -/
def notifying : Embedding notifier notificationBackend where
  op
    | .now => .now
    | .insert notification => .sql (.insert notification)
    | .enqueue request => .enqueue request
  response
    | .now, instant => instant
    | .insert _, result => result
    | .enqueue _, answer => answer

namespace Db.Notifications

/-- An `UPDATE` whose number of rows is not looked at. -/
def writeFlag (statement : NotificationStatement) :
    Program notificationBackend (Except DbError Unit) := do
  match ← notificationSql statement with
  | .ok _ => return .ok ()
  | .error error => return .error error

/-- `db::notifications::mark_as_old`. -/
def markAsOld (id : Int) : Program notificationBackend (Except DbError Unit) :=
  writeFlag (.markAsOld id)

/-- `db::notifications::mark_as_new`. -/
def markAsNew (id : Int) : Program notificationBackend (Except DbError Unit) :=
  writeFlag (.markAsNew id)

/-- `db::notifications::mark_all_as_old`. -/
def markAllAsOld : Program notificationBackend (Except DbError Unit) := writeFlag .markAllAsOld

/-- `db::notifications::purge_older_than`. -/
def purgeOlderThan (cutoff : Instant) : Program notificationBackend (Except DbError ℕ) :=
  notificationSql (.purgeOlderThan cutoff)

/-- `db::notifications::read`. -/
def read (id : Int) : Program notificationBackend (Option Notification) := do
  match ← notificationSql (.select id) with
  | .ok notification => return notification
  | .error _ => return none

/-- `db::notifications::list`. -/
def list (isNew : Option Bool) (pageOffset pageLimit : Option Int) :
    Program notificationBackend (Except DbError (List Notification)) :=
  notificationSql (.list isNew pageOffset pageLimit)

/-- `db::notifications::count`, on a connection. -/
def countMatching (isNew : Option Bool) : Program notificationBackend (Except DbError ℕ) :=
  notificationSql (.count isNew)

end Db.Notifications

/-! ### The read state along a run -/

/-- The read state that an answered call gives to the row of an id. -/
def flagOf (id : Int) :
    (op : NotificationCall) → notificationBackend.Response op → Option Bool
  | .sql (.insert notification), .ok given =>
    if given = id then some notification.isNew else none
  | .sql (.markAsOld other), .ok _ => if other = id then some false else none
  | .sql (.markAsNew other), .ok _ => if other = id then some true else none
  | .sql .markAllAsOld, .ok _ => some false
  | _, _ => none

theorem StoredNotifications.isNew_flag {table : StoredNotifications} {isNew : Bool}
    {where' : Notification → Bool} {row : Stored Notification}
    (hrow : row ∈ (table.flag isNew where').rows) :
    ∃ old ∈ table.rows, old.record.id = row.record.id ∧
      row.record.isNew = if where' old.record then isNew else old.record.isNew := by
  obtain ⟨old, hold, rfl⟩ := List.mem_map.mp hrow
  refine ⟨old, hold, (flagRow_id _ _ _).symm, ?_⟩
  unfold flagRow
  split_ifs <;> rfl

/-- A row of the table after a call has the read state that the call has given to its id, or the one
it had before. -/
theorem NotificationFaulty.flagOf_or {op : NotificationCall} {table after : StoredNotifications}
    {response : notificationBackend.Response op}
    (hcall : NotificationFaulty op table response after) {row : Stored Notification}
    (hrow : row ∈ after.rows) :
    flagOf row.record.id op response = some row.record.isNew ∨
      flagOf row.record.id op response = none ∧ ∃ old ∈ table.rows,
        old.record.id = row.record.id ∧ old.record.isNew = row.record.isNew := by
  have hmark {mark : Bool} {id : Int}
      (hflag : ∃ old ∈ table.rows, old.record.id = row.record.id ∧ row.record.isNew =
        if old.record.id = id then mark else old.record.isNew) :
      (if id = row.record.id then some mark else none) = some row.record.isNew ∨
        (if id = row.record.id then some mark else none) = none ∧ ∃ old ∈ table.rows,
          old.record.id = row.record.id ∧ old.record.isNew = row.record.isNew := by
    obtain ⟨old, hold, hid, hisNew⟩ := hflag
    by_cases hsame : old.record.id = id
    · rw [if_pos hsame] at hisNew
      rw [if_pos (hsame.symm.trans hid), hisNew]
      exact Or.inl rfl
    · rw [if_neg hsame] at hisNew
      rw [if_neg fun hother ↦ hsame (hid.trans hother.symm)]
      exact Or.inr ⟨rfl, old, hold, hid, hisNew.symm⟩
  cases hcall with
  | now => exact Or.inr ⟨rfl, row, hrow, rfl, rfl⟩
  | fail statement => cases statement <;> exact Or.inr ⟨rfl, row, hrow, rfl, rfl⟩
  | enqueue => exact Or.inr ⟨rfl, row, hrow, rfl, rfl⟩
  | @answer statement _ result hanswers =>
    cases statement with
    | select => exact Or.inr ⟨rfl, row, hrow, rfl, rfl⟩
    | list => exact Or.inr ⟨rfl, row, hrow, rfl, rfl⟩
    | count => exact Or.inr ⟨rfl, row, hrow, rfl, rfl⟩
    | purgeOlderThan => exact Or.inr ⟨rfl, row, List.mem_of_mem_filter hrow, rfl, rfl⟩
    | markAsOld id =>
      exact hmark (by simpa using StoredNotifications.isNew_flag hrow)
    | markAsNew id =>
      exact hmark (by simpa using StoredNotifications.isNew_flag hrow)
    | markAllAsOld =>
      obtain ⟨old, hold, hid, hisNew⟩ := StoredNotifications.isNew_flag hrow
      refine Or.inl (congrArg some ?_)
      rw [hisNew]
      cases old.record.isNew <;> rfl
    | insert notification =>
      have hgiven : result = table.nextId := hanswers
      rcases List.mem_append.mp hrow with hold | hnew
      · have hne : result ≠ row.record.id := by
          rw [hgiven]
          exact (StoredNotifications.id_lt_nextId hold).ne'
        exact Or.inr ⟨if_neg hne, row, hold, rfl, rfl⟩
      · rw [List.mem_singleton.mp hnew]
        exact Or.inl (if_pos hgiven)

section Runs

variable {ι : Type} {α : ι → Type}

/-- The read state that the last of the moves on an id has given to it. -/
def lastFlag (id : Int) (moves : List (Move notificationBackend ι α StoredNotifications)) :
    Option Bool :=
  moves.findSome? fun move ↦ flagOf id move.op move.response

variable [DecidableEq ι] {start last : Configuration notificationBackend ι α StoredNotifications}
  {trace : List (Move notificationBackend ι α StoredNotifications)}

/-- In every interleaving from the empty table, a row has the read state of the last move on it. -/
theorem lastFlag_of_mem (hrun : Interleaving NotificationFaulty start trace last)
    (hstart : start.state = .empty) :
    ∀ row ∈ last.state.rows, lastFlag row.record.id trace = some row.record.isNew := by
  induction hrun with
  | start =>
    intro row hrow
    rw [hstart] at hrow
    cases hrow
  | @step trace move after hbefore hstep ih =>
    intro row hrow
    obtain ⟨next, -, hcall, -⟩ := hstep.exists_next
    unfold lastFlag
    rw [List.findSome?_cons]
    rcases hcall.flagOf_or hrow with hflag | ⟨hnone, old, hold, hid, hisNew⟩
    · rw [hflag]
    · rw [hnone, ← hid, ← hisNew]
      exact ih old hold

/-- After a move that has marked an id as old, its row is new exactly when a later move has made it
so. -/
theorem isNew_iff_of_marked (hrun : Interleaving NotificationFaulty start trace last)
    (hstart : start.state = .empty)
    {later earlier : List (Move notificationBackend ι α StoredNotifications)}
    {mark : Move notificationBackend ι α StoredNotifications}
    (htrace : trace = later ++ mark :: earlier) {row : Stored Notification}
    (hmark : flagOf row.record.id mark.op mark.response = some false)
    (hrow : row ∈ last.state.rows) :
    row.record.isNew = true ↔ lastFlag row.record.id later = some true := by
  have hflag := lastFlag_of_mem hrun hstart row hrow
  have hmarked : lastFlag row.record.id (mark :: earlier) = some false := by
    unfold lastFlag
    rw [List.findSome?_cons, hmark]
  have happend : lastFlag row.record.id trace =
      (lastFlag row.record.id later).or (lastFlag row.record.id (mark :: earlier)) := by
    rw [htrace]
    exact List.findSome?_append
  rw [happend, hmarked] at hflag
  cases hlater : lastFlag row.record.id later with
  | none =>
    rw [hlater] at hflag
    rw [← Option.some.inj hflag]
    decide
  | some isNew =>
    rw [hlater] at hflag
    rw [← Option.some.inj hflag]
    exact Option.some_inj.symm

end Runs

end Oott
