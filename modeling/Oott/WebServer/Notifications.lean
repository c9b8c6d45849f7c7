import Oott.Database.Notifications
import Oott.WebServer.Devices

/-!
# The notification API

The handlers of `web_server/notifications.rs`. `read` marks the notification as old and reads it
back in a second statement, so another request can come between the two. What it answers is
explained by the moves of the run (`ReadExplained`): in particular, a notification is returned as
new exactly when it was last marked as new, or inserted as new under its id, in between. What
`mark_all_as_old` has marked is new again for no other reason (`marked_all_as_old`).
-/

set_option autoImplicit false
set_option relaxedAutoImplicit false

namespace Oott

open Effects

/-- `NotificationListResponse`. -/
structure NotificationListResponse where
  items : List Notification
  totalCount : ℕ

namespace WebServer.Notifications

/-- `read`. -/
def read (id : Int) : Program notificationBackend (Except StatusCode Notification) := do
  match ← Db.Notifications.markAsOld id with
  | .error _ => return .error .internalServerError
  | .ok _ =>
    match ← Db.Notifications.read id with
    | some notification => return .ok notification
    | none => return .error .notFound

/-- `mark_as_new`. -/
def markAsNew (id : Int) : Program notificationBackend Reply := do
  return answerWrite (.ok, "Notification marked as new")
    (.internalServerError, "Error updating notification in the server, check your logs")
    (← Db.Notifications.markAsNew id)

/-- `mark_all_as_old`. -/
def markAllAsOld : Program notificationBackend Reply := do
  return answerWrite (.ok, "All notifications marked as old")
    (.internalServerError, "Error updating notifications in the server, check your logs")
    (← Db.Notifications.markAllAsOld)

/-- `list`. -/
def list (isNew : Option Bool) (pageOffset pageLimit : Option Int) :
    Program notificationBackend (Except StatusCode NotificationListResponse) := do
  match ← Db.Notifications.list isNew pageOffset pageLimit with
  | .error _ => return .error .internalServerError
  | .ok items =>
    match ← Db.Notifications.countMatching isNew with
    | .error _ => return .error .internalServerError
    | .ok totalCount => return .ok ⟨items, totalCount⟩

end WebServer.Notifications

/-! ### What the handlers answer -/

section Answers

variable {κ : Type} [DecidableEq κ] {β : κ → Type}

/-- A move of a run of one request beside others. -/
abbrev RequestMove (γ : Type) (β : κ → Type) : Type :=
  Move notificationBackend (Option κ) (fun i ↦ i.elim γ β) StoredNotifications

/-- The statement of the move has failed. -/
def StatementFailed {γ : Type} (move : RequestMove γ β) : Prop :=
  match move.op, move.response with
  | .sql _, .error _ => True
  | _, _ => False

/-- Why `read` answers what it does. It has made one statement and failed, or made two: the first
has marked the id as old, and the answer is what the second has read, if it has not failed. The row
is new when it was made so between the two. -/
def ReadExplained (id : Int)
    (trace : List (RequestMove (Except StatusCode Notification) β)) :
    Except StatusCode Notification → Prop
  | .ok notification => ∃ later select middle mark earlier,
      trace = later ++ select :: (middle ++ mark :: earlier) ∧
      movesOf none trace = [select, mark] ∧
      mark.op = .sql (.markAsOld id) ∧ select.op = .sql (.select id) ∧
      select.before.state.select id = some notification ∧
      (notification.isNew = true ↔ lastFlag id middle = some true)
  | .error .notFound => ∃ select mark, movesOf none trace = [select, mark] ∧
      mark.op = .sql (.markAsOld id) ∧ ¬ StatementFailed mark ∧ select.op = .sql (.select id) ∧
      (StatementFailed select ∨ select.before.state.select id = none)
  | .error .internalServerError => ∃ mark, movesOf none trace = [mark] ∧
      mark.op = .sql (.markAsOld id) ∧ StatementFailed mark
  | .error _ => False

/-- The two statements of `read`, and what is done with their answers. -/
theorem read_eq (id : Int) :
    WebServer.Notifications.read id =
      .call (E := notificationBackend) (.sql (.markAsOld id)) fun
        | .error _ => .ret (.error .internalServerError)
        | .ok _ => .call (E := notificationBackend) (.sql (.select id)) fun
          | .ok (some notification) => .ret (.ok notification)
          | .ok none => .ret (.error .notFound)
          | .error _ => .ret (.error .notFound) := by
  refine congrArg (Program.call (E := notificationBackend) _) (funext fun marked ↦ ?_)
  rcases marked with error | changed
  · rfl
  · refine congrArg (Program.call (E := notificationBackend) _) (funext fun found ↦ ?_)
    rcases found with error | _ | notification <;> rfl

/-- Reading a notification flags it first. In every interleaving of one `read` with any other users
of the table, with any statements failing, the answer is explained by the two statements of the
handler: it is 500 only when the first has failed, 404 only when the second has failed or found no
row, and otherwise the row as the second has found it, which is new exactly when between the two it
has last been marked as new, or inserted as new under its id, by another user. -/
theorem read_explained {id : Int} {others : (i : κ) → Program notificationBackend (β i)}
    {trace : List (RequestMove (Except StatusCode Notification) β)}
    {last : Configuration notificationBackend (Option κ)
      (fun i ↦ i.elim (Except StatusCode Notification) β) StoredNotifications}
    (hrun : Interleaving NotificationFaulty (besides (WebServer.Notifications.read id) others)
      trace last) {answer : Except StatusCode Notification}
    (hended : last.threads none = .ret answer) : ReadExplained id trace answer := by
  have hleads := hrun.leads none
  rw [hended] at hleads
  change (WebServer.Notifications.read id).Leads _ _ at hleads
  rw [read_eq] at hleads
  obtain ⟨marked, rest, hanswers, hrest⟩ := Program.leads_call_ret_iff.mp hleads
  rcases marked with error | changed
  · obtain ⟨rfl, hanswer⟩ := Program.leads_ret_iff.mp hrest
    obtain ⟨mark, hmoves, hmark⟩ := eq_singleton_of_answers hanswers
    obtain rfl := Program.ret.inj hanswer
    obtain ⟨before, thread, op, response⟩ := mark
    cases hmark
    exact ⟨_, hmoves, rfl, trivial⟩
  · obtain ⟨found, rest, rfl, hsecond⟩ := Program.leads_call_ret_iff.mp hrest
    have hrest' : rest = [] := by
      rcases found with error | _ | notification
      all_goals exact (Program.leads_ret_iff.mp hsecond).1
    subst hrest'
    obtain ⟨select, mark, hmoves, hmark, hselect⟩ := eq_pair_of_answers hanswers
    obtain ⟨later, middle, earlier, htrace⟩ := split_of_movesOf hmoves
    rw [htrace] at hrun
    obtain ⟨hbefore, after, hstep, -⟩ := hrun.split
    obtain ⟨before, thread, op, response⟩ := mark
    cases hmark
    obtain ⟨selected, thread', op, response⟩ := select
    cases hselect
    obtain ⟨-, -, hcall, -⟩ := hstep.exists_next
    dsimp only at hcall
    generalize after.state = table at hcall
    rcases response with error | _ | notification
    · obtain rfl := Program.ret.inj (Program.leads_ret_iff.mp hsecond).2
      exact ⟨_, _, hmoves, rfl, not_false, rfl, Or.inl trivial⟩
    · obtain rfl := Program.ret.inj (Program.leads_ret_iff.mp hsecond).2
      cases hcall with
      | answer hanswers => exact ⟨_, _, hmoves, rfl, not_false, rfl, Or.inr hanswers.symm⟩
    · obtain rfl := Program.ret.inj (Program.leads_ret_iff.mp hsecond).2
      cases hcall with
      | answer hanswers =>
        obtain ⟨row, hrow, rfl, hid⟩ := StoredNotifications.exists_of_select hanswers.symm
        refine ⟨later, _, middle, _, earlier, htrace, hmoves, rfl, rfl, hanswers.symm, ?_⟩
        rw [← hid]
        exact isNew_iff_of_marked hbefore rfl rfl (if_pos hid.symm) hrow

end Answers

/-- A notification that is inserted, and then marked as new while it is being read. -/
def markedMeanwhile :
    List (RequestMove (Except StatusCode Notification) fun _ : Unit ↦ Reply) ×
      Configuration notificationBackend (Option Unit)
        (fun i ↦ i.elim (Except StatusCode Notification) fun _ ↦ Reply) StoredNotifications :=
  (besides (WebServer.Notifications.read 1) fun _ : Unit ↦ do
    let _ ← notificationSql (.insert (.new .epoch .other "OOTT" "A device is new" true none))
    WebServer.Notifications.markAsNew 1).follow (answering .epoch) [some (), none, some (), none]

/-- The notification that was marked as new between the two statements is returned as new. -/
theorem read_explained_markedMeanwhile :
    ReadExplained 1 markedMeanwhile.1
      (.ok ⟨1, .epoch, .other, "OOTT", "A device is new", true, none⟩) :=
  read_explained (Interleaving.follow (NotificationFaulty.allows_answering .epoch) _ _) rfl

section Answers

variable {κ : Type} [DecidableEq κ] {β : κ → Type}

/-- What `list` answers when nothing comes between its statements: a page of the rows that match,
and their number. -/
theorem lists_of_exec {table final : StoredNotifications} {isNew : Option Bool}
    {pageOffset pageLimit : Option Int} {response : NotificationListResponse}
    (hexec : Program.Exec NotificationFaulty
      (WebServer.Notifications.list isNew pageOffset pageLimit) table (some (.ok response)) final) :
    ∃ rows, Db.Notifications.Lists isNew table pageOffset pageLimit rows ∧
      response = ⟨rows.map Stored.record, Db.Notifications.count isNew table⟩ := by
  obtain ⟨listed, middle, hlisted, hrest⟩ := Program.exec_perform_bind_iff.mp hexec
  cases hlisted with
  | fail => cases (Program.exec_ret_iff.mp hrest).1
  | answer hanswers =>
    obtain ⟨rows, hrows, rfl⟩ := hanswers
    obtain ⟨counted, last, hcounted, hlast⟩ := Program.exec_perform_bind_iff.mp hrest
    cases hcounted with
    | fail => cases (Program.exec_ret_iff.mp hlast).1
    | answer hcount =>
      cases (Program.exec_ret_iff.mp hlast).1
      exact ⟨rows, hrows, congrArg _ hcount⟩

/-- Marking all as old marks what is there and nothing that comes later. In every interleaving of
one `mark_all_as_old` with any other users of the table, once it has answered 200 a row is new
exactly when it was inserted as new or marked as new after the statement of the handler. So a list
of the new ones that is then taken has such rows only, and counts them. -/
theorem marked_all_as_old {others : (i : κ) → Program notificationBackend (β i)}
    {trace : List (RequestMove Reply β)}
    {last : Configuration notificationBackend (Option κ) (fun i ↦ i.elim Reply β)
      StoredNotifications}
    (hrun : Interleaving NotificationFaulty (besides WebServer.Notifications.markAllAsOld others)
      trace last) {reply : Reply} (hended : last.threads none = .ret reply)
    (hreply : reply.1 = .ok) :
    ∃ later mark earlier, trace = later ++ mark :: earlier ∧ movesOf none trace = [mark] ∧
      mark.op = .sql .markAllAsOld ∧
      (∀ row ∈ last.state.rows,
        (row.record.isNew = true ↔ lastFlag row.record.id later = some true)) ∧
      ∀ pageOffset pageLimit response final,
        Program.Exec NotificationFaulty
          (WebServer.Notifications.list (some true) pageOffset pageLimit) last.state
          (some (.ok response)) final →
        (∀ notification ∈ response.items, lastFlag notification.id later = some true) ∧
          response.totalCount = last.state.rows.countP fun row ↦
            lastFlag row.record.id later = some true := by
  have hleads := hrun.leads none
  rw [hended] at hleads
  obtain ⟨marked, rest, hanswers, hrest⟩ := Program.leads_call_ret_iff.mp hleads
  rcases marked with error | changed
  · obtain rfl := Program.ret.inj (Program.leads_ret_iff.mp hrest).2
    cases hreply
  · obtain ⟨rfl, -⟩ := Program.leads_ret_iff.mp hrest
    obtain ⟨mark, hmoves, hmark⟩ := eq_singleton_of_answers hanswers
    obtain ⟨later, earlier, htrace, -, -, -⟩ := List.filter_eq_cons_iff.mp hmoves
    obtain ⟨before, thread, op, response⟩ := mark
    cases hmark
    have hnew : ∀ row ∈ last.state.rows,
        (row.record.isNew = true ↔ lastFlag row.record.id later = some true) := fun row hrow ↦
      isNew_iff_of_marked hrun rfl htrace rfl hrow
    refine ⟨later, _, earlier, htrace, hmoves, rfl, hnew, ?_⟩
    intro pageOffset pageLimit response final hlist
    obtain ⟨rows, hrows, rfl⟩ := lists_of_exec hlist
    refine ⟨fun notification hnotification ↦ ?_, List.countP_congr fun row hrow ↦ ?_⟩
    · obtain ⟨row, hrow, rfl⟩ := List.mem_map.mp hnotification
      have hmatches := List.mem_filter.mp (hrows.mem hrow)
      exact (hnew row hmatches.1).mp (by simpa using hmatches.2)
    · simpa using hnew row hrow

end Answers

/-- All are marked as old while a notification is being inserted. -/
def insertedMeanwhile :
    List (RequestMove Reply fun _ : Unit ↦ Except DbError Int) ×
      Configuration notificationBackend (Option Unit)
        (fun i ↦ i.elim Reply fun _ ↦ Except DbError Int) StoredNotifications :=
  (besides WebServer.Notifications.markAllAsOld fun _ : Unit ↦
    notificationSql (.insert (.new .epoch .other "OOTT" "A device is new" true none))).follow
      (answering .epoch) [none, some ()]

/-- The notification that was inserted after the statement stays new. -/
theorem marked_all_as_old_insertedMeanwhile :
    ∃ later mark earlier, insertedMeanwhile.1 = later ++ mark :: earlier ∧
      movesOf none insertedMeanwhile.1 = [mark] ∧ mark.op = .sql .markAllAsOld ∧
        ∀ row ∈ insertedMeanwhile.2.state.rows,
          (row.record.isNew = true ↔ lastFlag row.record.id later = some true) := by
  have hrun : Interleaving NotificationFaulty _ insertedMeanwhile.1 insertedMeanwhile.2 :=
    .follow (NotificationFaulty.allows_answering .epoch) _ _
  obtain ⟨later, mark, earlier, htrace, hmoves, hmark, hnew, -⟩ := marked_all_as_old hrun rfl rfl
  exact ⟨later, mark, earlier, htrace, hmoves, hmark, hnew⟩

end Oott
