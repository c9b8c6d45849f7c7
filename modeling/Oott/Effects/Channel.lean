import Mathlib.Tactic.Common

/-!
# Bounded channels

A channel that holds a bounded number of values and hands them out in the order in which they were
sent. Sending never waits: it fails when the channel is full, and when it has been closed. A closed
channel keeps what it holds.
-/

set_option autoImplicit false
set_option relaxedAutoImplicit false

namespace Effects

/-- A channel with room for a number of values. -/
structure Channel (α : Type) (capacity : ℕ) where
  queue : List α
  isClosed : Bool
  bounded : queue.length ≤ capacity

/-- Why a value could not be sent. -/
inductive TrySendError
  | full
  | closed
deriving DecidableEq

namespace Channel

variable {α : Type} {capacity : ℕ}

/-- A new channel. -/
def new (α : Type) (capacity : ℕ) : Channel α capacity := ⟨[], false, Nat.zero_le _⟩

/-- Send a value, without waiting. -/
def trySend (channel : Channel α capacity) (value : α) :
    Except TrySendError (Channel α capacity) :=
  if channel.isClosed then .error .closed
  else if hroom : channel.queue.length < capacity then
    .ok ⟨channel.queue ++ [value], false, by rwa [List.length_append]⟩
  else .error .full

/-- The first value, and the channel without it. -/
def receive (channel : Channel α capacity) : Option (α × Channel α capacity) :=
  match hqueue : channel.queue with
  | [] => none
  | first :: rest => some (first, ⟨rest, channel.isClosed, by
      have hbounded := channel.bounded
      rw [hqueue, List.length_cons] at hbounded
      exact Nat.le_of_succ_le hbounded⟩)

/-- The receiver has gone. -/
def close (channel : Channel α capacity) : Channel α capacity := { channel with isClosed := true }

/-- There is a receiver, and room for one more value. -/
def accepts (channel : Channel α capacity) : Bool :=
  !channel.isClosed && decide (channel.queue.length < capacity)

variable {channel after : Channel α capacity} {value : α}

theorem accepts_eq_false_iff :
    channel.accepts = false ↔ channel.isClosed = true ∨ channel.queue.length = capacity := by
  have hbounded := channel.bounded
  unfold accepts
  cases channel.isClosed
  · simp only [Bool.not_false, Bool.true_and, decide_eq_false_iff_not, Bool.false_eq_true, false_or]
    omega
  · simp

/-- A value that is sent comes last. -/
theorem queue_of_trySend (hsend : channel.trySend value = .ok after) :
    channel.accepts = true ∧ after.queue = channel.queue ++ [value] := by
  unfold trySend at hsend
  unfold accepts
  split_ifs at hsend with hclosed hroom
  cases hsend
  rw [Bool.not_eq_true] at hclosed
  rw [hclosed, decide_eq_true hroom]
  exact ⟨rfl, rfl⟩

/-- A value that cannot be sent finds the channel closed or full. -/
theorem accepts_of_trySend_error {error : TrySendError}
    (hsend : channel.trySend value = .error error) : channel.accepts = false := by
  unfold trySend at hsend
  rw [accepts_eq_false_iff]
  split_ifs at hsend with hclosed hroom
  · exact .inl hclosed
  · exact .inr (Nat.le_antisymm channel.bounded (Nat.not_lt.mp hroom))

/-- The value that is received came first. -/
theorem queue_of_receive (hreceive : channel.receive = some (value, after)) :
    channel.queue = value :: after.queue := by
  unfold receive at hreceive
  split at hreceive
  · cases hreceive
  · next first rest hqueue =>
    cases hreceive
    exact hqueue

end Channel

end Effects
