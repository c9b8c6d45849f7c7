import Oott.Effects.Program
import Mathlib.Logic.Function.Basic

/-!
# Interleavings of programs over shared state

A configuration is a shared state and, for each thread, the program the thread still has to run.
A step performs the next call of one thread, atomically. `Interleaving` lists the moves of a run,
the latest first, each with the configuration it was made in and the response it got, so that a
hypothesis on a run is a hypothesis on its moves.

`Interleaving.invariant` is the rule for invariants of configurations under such a hypothesis.
`Configuration.follow` performs a schedule of calls on a machine, and `Interleaving.follow` says
that what it computes is an interleaving.
-/

set_option autoImplicit false
set_option relaxedAutoImplicit false

namespace Effects

variable {E : Interface} {ι σ : Type} {α : ι → Type}

/-- The shared state and what each thread still has to run. -/
structure Configuration (E : Interface) (ι : Type) (α : ι → Type) (σ : Type) where
  state : σ
  threads : (i : ι) → Program E (α i)

/-- One call of one thread: the configuration it was made in and the response it got. -/
structure Move (E : Interface) (ι : Type) (α : ι → Type) (σ : Type) where
  before : Configuration E ι α σ
  thread : ι
  op : E.Op
  response : E.Response op

namespace Configuration

/-- Every thread has ended. -/
def Finished (configuration : Configuration E ι α σ) : Prop :=
  ∀ i, (configuration.threads i).nextCall = none

variable [DecidableEq ι]

/-- One thread has received its response and continues with `program`. -/
def continueWith (configuration : Configuration E ι α σ) (state : σ) (i : ι)
    (program : Program E (α i)) : Configuration E ι α σ :=
  ⟨state, Function.update configuration.threads i program⟩

@[simp] theorem continueWith_state (configuration : Configuration E ι α σ) (state : σ) (i : ι)
    (program : Program E (α i)) : (configuration.continueWith state i program).state = state := rfl

@[simp] theorem continueWith_threads_self (configuration : Configuration E ι α σ) (state : σ)
    (i : ι) (program : Program E (α i)) :
    (configuration.continueWith state i program).threads i = program := by
  simp [continueWith]

@[simp] theorem continueWith_threads_of_ne (configuration : Configuration E ι α σ) (state : σ)
    {i j : ι} (program : Program E (α i)) (hne : j ≠ i) :
    (configuration.continueWith state i program).threads j = configuration.threads j := by
  simp [continueWith, hne]

end Configuration

variable [DecidableEq ι]

/-- A step of the interleaving: one thread makes its next call. -/
inductive Step (transition : Transition E σ) :
    Move E ι α σ → Configuration E ι α σ → Prop
  | call {move : Move E ι α σ} {next : E.Response move.op → Program E (α move.thread)} {state : σ}
      (hthread : move.before.threads move.thread = .call move.op next)
      (hcall : transition move.op move.before.state move.response state) :
      Step transition move (move.before.continueWith state move.thread (next move.response))

/-- The runs from a starting configuration, with the moves made so far, the latest first. -/
inductive Interleaving (transition : Transition E σ) (start : Configuration E ι α σ) :
    List (Move E ι α σ) → Configuration E ι α σ → Prop
  | start : Interleaving transition start [] start
  | step {trace : List (Move E ι α σ)} {move : Move E ι α σ} {after : Configuration E ι α σ}
      (hbefore : Interleaving transition start trace move.before)
      (hstep : Step transition move after) :
      Interleaving transition start (move :: trace) after

variable {transition : Transition E σ} {start last after : Configuration E ι α σ}
  {trace : List (Move E ι α σ)} {move : Move E ι α σ}

/-- A step leaves the other threads where they are. -/
theorem Step.threads_of_ne (hstep : Step transition move after) {j : ι} (hne : j ≠ move.thread) :
    after.threads j = move.before.threads j := by
  obtain ⟨-, -⟩ := hstep
  exact Configuration.continueWith_threads_of_ne _ _ _ hne

/-- A step of a thread is an answer to its next call. -/
theorem Step.exists_next (hstep : Step transition move after) :
    ∃ next, move.before.threads move.thread = .call move.op next ∧
      transition move.op move.before.state move.response after.state ∧
      after.threads move.thread = next move.response := by
  obtain ⟨hthread, hcall⟩ := hstep
  exact ⟨_, hthread, hcall, Configuration.continueWith_threads_self _ _ _ _⟩

/-- The invariant rule: an invariant of the start that every step made under `admitted` preserves
holds after every run whose moves are all admitted. -/
theorem Interleaving.invariant (invariant : Configuration E ι α σ → Prop)
    (admitted : Move E ι α σ → Prop) (hstart : invariant start)
    (hstep : ∀ move after, Step transition move after → admitted move →
      invariant move.before → invariant after)
    (hrun : Interleaving transition start trace last)
    (hadmitted : ∀ move ∈ trace, admitted move) : invariant last := by
  induction hrun with
  | start => exact hstart
  | step hbefore hnext ih =>
    obtain ⟨hlatest, hearlier⟩ := List.forall_mem_cons.mp hadmitted
    exact hstep _ _ hnext hlatest (ih hearlier)

/-- A property of each thread's program alone that every answer to a call preserves holds of the
thread throughout. -/
theorem Interleaving.threads (stage : (i : ι) → Program E (α i) → Prop)
    (hstart : ∀ i, stage i (start.threads i))
    (hnext : ∀ i op next response, stage i (.call op next) → stage i (next response))
    (hrun : Interleaving transition start trace last) (i : ι) : stage i (last.threads i) := by
  induction hrun with
  | start => exact hstart i
  | @step _ move _ hbefore hstep ih =>
    by_cases hi : i = move.thread
    · subst hi
      obtain ⟨next, hthread, -, hafter⟩ := hstep.exists_next
      rw [hafter]
      rw [hthread] at ih
      exact hnext _ _ _ _ ih
    · rw [hstep.threads_of_ne hi]
      exact ih

/-! ### The order of moves -/

/-- Moves that match the patterns occur in the trace, in that order and possibly with others between
them. The patterns are listed like the trace, the latest first. -/
def InOrder : List (Move E ι α σ → Prop) → List (Move E ι α σ) → Prop
  | [], _ => True
  | _ :: _, [] => False
  | pattern :: patterns, move :: earlier =>
    pattern move ∧ InOrder patterns earlier ∨ InOrder (pattern :: patterns) earlier

section InOrder

omit [DecidableEq ι]

variable {pattern : Move E ι α σ → Prop} {patterns : List (Move E ι α σ → Prop)}
  {earlier : List (Move E ι α σ)} {latest : Move E ι α σ}

@[simp] theorem inOrder_nil : InOrder [] earlier := by
  cases earlier <;> trivial

@[simp] theorem not_inOrder_nil : ¬ InOrder (pattern :: patterns) ([] : List (Move E ι α σ)) := id

theorem inOrder_cons_iff :
    InOrder (pattern :: patterns) (latest :: earlier) ↔
      pattern latest ∧ InOrder patterns earlier ∨ InOrder (pattern :: patterns) earlier := Iff.rfl

/-- A move that does not match the latest pattern makes no difference. -/
theorem inOrder_cons_of_not (hpattern : ¬ pattern latest) :
    InOrder (pattern :: patterns) (latest :: earlier) ↔ InOrder (pattern :: patterns) earlier := by
  rw [inOrder_cons_iff]
  exact or_iff_right fun h ↦ hpattern h.1

/-- A longer order contains the shorter one that leaves out the latest pattern. -/
theorem InOrder.tail (horder : InOrder (pattern :: patterns) earlier) :
    InOrder patterns earlier := by
  induction earlier with
  | nil => exact horder.elim
  | cons latest earlier ih =>
    have hlater : InOrder patterns earlier → InOrder patterns (latest :: earlier) := by
      cases patterns with
      | nil => exact fun _ ↦ inOrder_nil
      | cons next patterns => exact fun h ↦ Or.inr h
    rcases horder with ⟨-, hrest⟩ | hrest
    · exact hlater hrest
    · exact hlater (ih hrest)

end InOrder

/-! ### Following a schedule on a machine -/

namespace Configuration

/-- Perform the next call of thread `i` on a machine; a thread that has ended stays as it is. -/
def advance (machine : Machine E σ) (reached : List (Move E ι α σ) × Configuration E ι α σ)
    (i : ι) : List (Move E ι α σ) × Configuration E ι α σ :=
  match reached.2.threads i with
  | .ret _ => reached
  | .abort => reached
  | .call op next =>
    (⟨reached.2, i, op, (machine op reached.2.state).1⟩ :: reached.1,
      reached.2.continueWith (machine op reached.2.state).2 i
        (next (machine op reached.2.state).1))

/-- Perform a schedule of calls, in order: the moves made, the latest first, and where they lead. -/
def follow (machine : Machine E σ) (configuration : Configuration E ι α σ) (schedule : List ι) :
    List (Move E ι α σ) × Configuration E ι α σ :=
  schedule.foldl (advance machine) ([], configuration)

end Configuration

/-- Performing one call on an allowed machine extends a run. -/
theorem Interleaving.advance {machine : Machine E σ} (hallows : transition.Allows machine)
    {reached : List (Move E ι α σ) × Configuration E ι α σ}
    (hrun : Interleaving transition start reached.1 reached.2) (i : ι) :
    Interleaving transition start (Configuration.advance machine reached i).1
      (Configuration.advance machine reached i).2 := by
  unfold Configuration.advance
  split
  · exact hrun
  · exact hrun
  · next op next hthread =>
    exact hrun.step (.call hthread (hallows op _))

/-- What a schedule computes on an allowed machine is an interleaving. -/
theorem Interleaving.follow {machine : Machine E σ} (hallows : transition.Allows machine)
    (start : Configuration E ι α σ) (schedule : List ι) :
    Interleaving transition start (start.follow machine schedule).1
      (start.follow machine schedule).2 := by
  have hall : ∀ reached, Interleaving transition start reached.1 reached.2 →
      Interleaving transition start (schedule.foldl (Configuration.advance machine) reached).1
        (schedule.foldl (Configuration.advance machine) reached).2 := by
    induction schedule with
    | nil => exact fun reached hrun ↦ hrun
    | cons i schedule ih => exact fun reached hrun ↦ ih _ (hrun.advance hallows i)
  exact hall ([], start) .start

end Effects
