import Oott.Database.Statements
import Oott.Utils.Json

/-!
# The push tokens

The table `push_tokens` and the functions of `db/push_tokens.rs`. A `PushTokensTable` carries its
integer primary key and the uniqueness of the tokens: its rows stand in the order of their ids, so
that a listing by id is the list of the rows, and a new row comes last.

A call of this part of the backend reads the clock, runs a statement or posts a body to the relay.
-/

set_option autoImplicit false
set_option relaxedAutoImplicit false

namespace Oott

open Effects

/-- `model::push_tokens::PushPlatform`. -/
inductive PushPlatform
  | android
  | ios
deriving DecidableEq

/-- `model::push_tokens::PushToken`. -/
structure PushToken where
  id : Int
  token : String
  platform : PushPlatform
  createdOn : Instant
  lastSeen : Instant
deriving DecidableEq

/-- The `push_tokens` table, with its two keys. -/
@[ext] structure PushTokensTable where
  rows : List PushToken
  primaryKey : rows.Pairwise fun first second ↦ first.id < second.id
  unique : rows.Pairwise fun first second ↦ first.token ≠ second.token

namespace PushTokensTable

/-- The empty table. -/
def empty : PushTokensTable := ⟨[], List.Pairwise.nil, List.Pairwise.nil⟩

/-- The id SQLite gives the next row: one more than the largest. -/
def nextId (table : PushTokensTable) : Int :=
  match table.rows.getLast? with
  | some last => last.id + 1
  | none => 1

variable {table : PushTokensTable} {token : String}

theorem id_lt_nextId {row : PushToken} (hrow : row ∈ table.rows) : row.id < table.nextId := by
  unfold nextId
  have hordered := table.primaryKey
  rcases List.eq_nil_or_concat table.rows with hnil | ⟨earlier, last, hrows⟩
  · rw [hnil] at hrow
    cases hrow
  · rw [List.concat_eq_append] at hrows
    rw [hrows] at hordered hrow
    simp only [hrows, List.getLast?_concat]
    obtain ⟨-, -, hlast⟩ := List.pairwise_append.mp hordered
    rcases List.mem_append.mp hrow with hearlier | hsame
    · exact (hlast row hearlier last List.mem_cons_self).trans (Int.lt_succ _)
    · rw [List.mem_singleton.mp hsame]
      exact Int.lt_succ _

/-- What `ON CONFLICT(token) DO UPDATE` makes of a row. -/
def refresh (token : String) (platform : PushPlatform) (now : Instant) (row : PushToken) :
    PushToken :=
  if row.token = token then { row with platform := platform, lastSeen := now } else row

@[simp] theorem refresh_id (token : String) (platform : PushPlatform) (now : Instant)
    (row : PushToken) : (refresh token platform now row).id = row.id := by
  unfold refresh
  split_ifs <;> rfl

@[simp] theorem refresh_token (token : String) (platform : PushPlatform) (now : Instant)
    (row : PushToken) : (refresh token platform now row).token = row.token := by
  unfold refresh
  split_ifs <;> rfl

/-- The statement of `upsert`: the row of the token is refreshed, or one is added. -/
def upsert (table : PushTokensTable) (token : String) (platform : PushPlatform) (now : Instant) :
    PushTokensTable :=
  if h : ∃ row ∈ table.rows, row.token = token then
    { rows := table.rows.map (refresh token platform now)
      primaryKey := by
        rw [List.pairwise_map]
        simpa only [refresh_id] using table.primaryKey
      unique := by
        rw [List.pairwise_map]
        simpa only [refresh_token] using table.unique }
  else
    { rows := table.rows ++ [⟨table.nextId, token, platform, now, now⟩]
      primaryKey := by
        refine List.pairwise_append.mpr
          ⟨table.primaryKey, List.pairwise_singleton _ _, fun row hrow last hlast ↦ ?_⟩
        rw [List.mem_singleton.mp hlast]
        exact id_lt_nextId hrow
      unique := by
        refine List.pairwise_append.mpr
          ⟨table.unique, List.pairwise_singleton _ _, fun row hrow last hlast ↦ ?_⟩
        rw [List.mem_singleton.mp hlast]
        exact fun hsame ↦ h ⟨row, hrow, hsame⟩ }

/-- `DELETE FROM push_tokens WHERE token = ?`. -/
def delete (table : PushTokensTable) (token : String) : PushTokensTable where
  rows := table.rows.filter fun row ↦ row.token ≠ token
  primaryKey := table.primaryKey.filter _
  unique := table.unique.filter _

/-- The transaction of `delete_many`: one deletion for each token. -/
def deleteMany (table : PushTokensTable) (tokens : List String) : PushTokensTable :=
  tokens.foldl delete table

theorem rows_deleteMany (table : PushTokensTable) (tokens : List String) :
    (table.deleteMany tokens).rows = table.rows.filter fun row ↦ row.token ∉ tokens := by
  induction tokens generalizing table with
  | nil => exact (List.filter_eq_self.mpr fun row _ ↦ by simp).symm
  | cons token rest ih =>
    show ((table.delete token).deleteMany rest).rows = _
    rw [ih]
    simp only [delete, List.filter_filter]
    refine List.filter_congr fun row _ ↦ ?_
    simp only [List.mem_cons, not_or, ne_eq, Bool.decide_and, Bool.and_comm]

end PushTokensTable

/-! ### Statements and calls -/

/-- The statements of `db/push_tokens.rs`. -/
inductive PushTokenStatement
  | upsert (token : String) (platform : PushPlatform) (now : Instant)
  | list
  | delete (token : String)
  | deleteMany (tokens : List String)

/-- What a statement gives back: the rows of a listing, or a number of rows. -/
abbrev PushTokenStatement.Result : PushTokenStatement → Type
  | upsert _ _ _ => Nat
  | list => List PushToken
  | delete _ => Nat
  | deleteMany _ => Nat

/-- What SQLite answers to a statement, and the table it leaves. -/
def PushTokenStatement.execute :
    (statement : PushTokenStatement) → PushTokensTable → statement.Result × PushTokensTable
  | upsert token platform now, table => (1, table.upsert token platform now)
  | list, table => (table.rows, table)
  | delete token, table =>
    (table.rows.length - (table.delete token).rows.length, table.delete token)
  | deleteMany tokens, table =>
    (table.rows.length - (table.deleteMany tokens).rows.length, table.deleteMany tokens)

/-- A reply of the relay: its status, and the JSON value of its body if it is one. -/
structure RelayReply where
  status : ℕ
  body : Option Json

/-- A call that leaves Rust. -/
inductive PushCall
  | now
  | sql (statement : PushTokenStatement)
  | post (body : Json)

/-- The interface of the push tokens: a statement may fail, and a request to the relay may get no
reply. -/
abbrev pushBackend : Interface where
  Op := PushCall
  Response
    | .now => Instant
    | .sql statement => Except DbError statement.Result
    | .post _ => Option RelayReply

/-- Any database call may fail, without effect, and the relay may reply anything. -/
inductive PushFaulty : Transition pushBackend PushTokensTable
  | now (instant : Instant) (table : PushTokensTable) : PushFaulty .now table instant table
  | answer (statement : PushTokenStatement) (table : PushTokensTable) :
      PushFaulty (.sql statement) table (.ok (statement.execute table).1)
        (statement.execute table).2
  | fail (statement : PushTokenStatement) (table : PushTokensTable) (error : DbError) :
      PushFaulty (.sql statement) table (.error error) table
  | reply (body : Json) (table : PushTokensTable) (reply : Option RelayReply) :
      PushFaulty (.post body) table reply table

/-- Run a statement on `push_tokens`. -/
def pushSql (statement : PushTokenStatement) :
    Program pushBackend (Except DbError statement.Result) :=
  .perform (E := pushBackend) (.sql statement)

namespace Db.PushTokens

/-- `db::push_tokens::upsert`. -/
def upsert (token : String) (platform : PushPlatform) :
    Program pushBackend (Except DbError Unit) := do
  let now ← Program.perform (E := pushBackend) .now
  match ← pushSql (.upsert token platform now) with
  | .ok _ => return .ok ()
  | .error error => return .error error

/-- `db::push_tokens::list`. -/
def list : Program pushBackend (Except DbError (List PushToken)) := pushSql .list

/-- `db::push_tokens::delete`. -/
def delete (token : String) : Program pushBackend (Except DbError Nat) := pushSql (.delete token)

/-- `db::push_tokens::delete_many`. -/
def deleteMany (tokens : List String) : Program pushBackend (Except DbError Nat) :=
  if tokens.isEmpty then pure (.ok 0) else pushSql (.deleteMany tokens)

end Db.PushTokens

end Oott
