import Oott.Effects.Interleaving

/-!
# Serial runs, and interleavings equal to one

`Sequential` is a run of whole activities one after another, the latest first. What an activity does
is a relation, so that the same rule serves executions under a transition relation and runs at a
given instant. `Timed` activities carry the time they are performed at, and
`Sequential.chronological_invariant` is the rule for runs in which that time does not decrease.

`Interleaving.serializable` says when an interleaving is equal to a serial run. Every step must
either leave the state alone and its thread with calls to make, or be an *atomic commit*: it ends
its thread, and the whole program of the thread, run alone from the state the step was made in,
could have ended with the same outcome and the same state. The serial order is that of the commits.
-/

set_option autoImplicit false
set_option relaxedAutoImplicit false

namespace Effects

/-- One activity of a serial run: its outcome, `none` being an abort, and the states around it. -/
structure Completed (A : Type) (α : A → Type) (σ : Type) where
  before : σ
  activity : A
  outcome : Option (α activity)
  after : σ

/-- The serial runs from a state, with the activities completed so far, the latest first. -/
inductive Sequential {A σ : Type} {α : A → Type}
    (perform : (activity : A) → σ → Option (α activity) → σ → Prop) (start : σ) :
    List (Completed A α σ) → σ → Prop
  | start : Sequential perform start [] start
  | next {history : List (Completed A α σ)} {completed : Completed A α σ}
      (hearlier : Sequential perform start history completed.before)
      (hperform : perform completed.activity completed.before completed.outcome completed.after) :
      Sequential perform start (completed :: history) completed.after

section Sequential

variable {A σ : Type} {α : A → Type}
  {perform : (activity : A) → σ → Option (α activity) → σ → Prop} {start last : σ}
  {history : List (Completed A α σ)}

/-- A serial run goes on with one more activity. -/
theorem Sequential.extend {before after : σ} {activity : A} {outcome : Option (α activity)}
    (hearlier : Sequential perform start history before)
    (hperform : perform activity before outcome after) :
    Sequential perform start (⟨before, activity, outcome, after⟩ :: history) after :=
  .next hearlier hperform

/-- The invariant rule of serial runs, for runs whose activities are all admitted. -/
theorem Sequential.invariant (invariant : σ → Prop) (admitted : Completed A α σ → Prop)
    (hstart : invariant start)
    (hperform : ∀ completed : Completed A α σ,
      perform completed.activity completed.before completed.outcome completed.after →
      admitted completed → invariant completed.before → invariant completed.after)
    (hrun : Sequential perform start history last)
    (hadmitted : ∀ completed ∈ history, admitted completed) : invariant last := by
  induction hrun with
  | start => exact hstart
  | next hearlier hlatest ih =>
    obtain ⟨hlast, hbefore⟩ := List.forall_mem_cons.mp hadmitted
    exact hperform _ hlatest hlast (ih hbefore)

/-- Every activity of a serial run was performed in a state that a serial run reaches. -/
theorem Sequential.reached {completed : Completed A α σ}
    (hrun : Sequential perform start history last) (hmem : completed ∈ history) :
    ∃ earlier, Sequential perform start earlier completed.before ∧
      perform completed.activity completed.before completed.outcome completed.after := by
  induction hrun with
  | start => cases hmem
  | @next history latest hearlier hlatest ih =>
    rcases List.mem_cons.mp hmem with hsame | hbefore
    · subst hsame
      exact ⟨history, hearlier, hlatest⟩
    · exact ih hbefore

/-- A serial run is cut at any of its activities. -/
theorem Sequential.split {later earlier : List (Completed A α σ)} {completed : Completed A α σ}
    (hrun : Sequential perform start (later ++ completed :: earlier) last) :
    Sequential perform start earlier completed.before ∧
      perform completed.activity completed.before completed.outcome completed.after := by
  induction later generalizing last with
  | nil =>
    obtain _ | ⟨hearlier, hperform⟩ := hrun
    exact ⟨hearlier, hperform⟩
  | cons latest later ih =>
    obtain _ | ⟨hbefore, -⟩ := hrun
    exact ih hbefore

end Sequential

section Timed

variable {τ A σ : Type} [LE τ] {α : A → Type}

/-- An activity and the time it is performed at. -/
structure Timed (τ A : Type) where
  time : τ
  activity : A

/-- The times of the activities do not decrease along the run. -/
def Chronological (history : List (Completed (Timed τ A) (fun timed ↦ α timed.activity) σ)) :
    Prop :=
  history.Pairwise fun later earlier ↦ earlier.activity.time ≤ later.activity.time

/-- The invariant rule of serial runs in time, for invariants that speak of the history. -/
theorem Sequential.chronological_invariant
    {perform : (timed : Timed τ A) → σ → Option (α timed.activity) → σ → Prop} {start last : σ}
    {history : List (Completed (Timed τ A) (fun timed ↦ α timed.activity) σ)}
    (invariant : List (Completed (Timed τ A) (fun timed ↦ α timed.activity) σ) → σ → Prop)
    (admitted : Completed (Timed τ A) (fun timed ↦ α timed.activity) σ → Prop)
    (hstart : invariant [] start)
    (hperform : ∀ history completed,
      perform completed.activity completed.before completed.outcome completed.after →
      admitted completed →
      (∀ earlier ∈ history, earlier.activity.time ≤ completed.activity.time) →
      invariant history completed.before → invariant (completed :: history) completed.after)
    (hrun : Sequential perform start history last) (hclock : Chronological history)
    (hadmitted : ∀ completed ∈ history, admitted completed) : invariant history last := by
  induction hrun with
  | start => exact hstart
  | next hearlier hlatest ih =>
    obtain ⟨hlast, hbefore⟩ := List.forall_mem_cons.mp hadmitted
    obtain ⟨htimes, hordered⟩ := List.pairwise_cons.mp hclock
    exact hperform _ _ hlatest hlast htimes (ih hordered hbefore)

end Timed

section Machine

variable {E : Interface} {A σ : Type} {α : A → Type} (machine : Machine E σ)
  (program : (activity : A) → Program E (α activity))

/-- Run one more activity on a machine. -/
def performNext (reached : List (Completed A α σ) × σ) (activity : A) :
    List (Completed A α σ) × σ :=
  (⟨reached.2, activity, ((program activity).run machine reached.2).1,
      ((program activity).run machine reached.2).2⟩ :: reached.1,
    ((program activity).run machine reached.2).2)

/-- Run a list of activities on a machine, in order. -/
def performAll (start : σ) (activities : List A) : List (Completed A α σ) × σ :=
  activities.foldl (performNext machine program) ([], start)

/-- What a list of activities computes on an allowed machine is a serial run. -/
theorem Sequential.performAll {transition : Transition E σ} (hallows : transition.Allows machine)
    (start : σ) (activities : List A) :
    Sequential (fun activity ↦ Program.Exec transition (program activity)) start
      (performAll machine program start activities).1
      (performAll machine program start activities).2 := by
  have hall : ∀ reached : List (Completed A α σ) × σ,
      Sequential (fun activity ↦ Program.Exec transition (program activity)) start reached.1
        reached.2 →
      Sequential (fun activity ↦ Program.Exec transition (program activity)) start
        (activities.foldl (performNext machine program) reached).1
        (activities.foldl (performNext machine program) reached).2 := by
    induction activities with
    | nil => exact fun reached hrun ↦ hrun
    | cons activity activities ih =>
      intro reached hrun
      exact ih _ (hrun.next (Program.exec_run hallows (program activity) reached.2))
  exact hall ([], start) .start

/-- The last state of the run is what the activities make of the first one by one. -/
theorem performAll_state (start : σ) (activities : List A) :
    (performAll machine program start activities).2 =
      activities.foldl (fun state activity ↦ ((program activity).run machine state).2) start := by
  have hall : ∀ reached : List (Completed A α σ) × σ,
      (activities.foldl (performNext machine program) reached).2 =
        activities.foldl (fun state activity ↦ ((program activity).run machine state).2)
          reached.2 := by
    induction activities with
    | nil => exact fun reached ↦ rfl
    | cons activity activities ih => exact fun reached ↦ ih _
  exact hall ([], start)

/-- The activities of the run are the ones in the list. -/
theorem performAll_activity (start : σ) (activities : List A) :
    ∀ completed ∈ (performAll machine program start activities).1,
      completed.activity ∈ activities := by
  have hall : ∀ (reached : List (Completed A α σ) × σ) (completed : Completed A α σ),
      completed ∈ (activities.foldl (performNext machine program) reached).1 →
      completed ∈ reached.1 ∨ completed.activity ∈ activities := by
    induction activities with
    | nil => exact fun reached completed hmem ↦ Or.inl hmem
    | cons activity activities ih =>
      intro reached completed hmem
      rcases ih _ completed hmem with hnext | hlater
      · rcases List.mem_cons.mp hnext with hlatest | hbefore
        · rw [hlatest]
          exact Or.inr List.mem_cons_self
        · exact Or.inl hbefore
      · exact Or.inr (List.mem_cons_of_mem _ hlater)
  intro completed hmem
  exact (hall ([], start) completed hmem).resolve_left List.not_mem_nil

end Machine

/-! ### Interleavings that are equal to a serial run -/

variable {E : Interface} {ι σ : Type} {α : ι → Type}

/-- A step that ends its thread as a run of the thread's whole program from the state the step was
made in could have ended. -/
def AtomicCommit (transition : Transition E σ) (start after : Configuration E ι α σ)
    (move : Move E ι α σ) : Prop :=
  ∃ outcome, after.threads move.thread = .ended outcome ∧
    Program.Exec transition (start.threads move.thread) move.before.state outcome after.state

/-- A step that leaves the state alone and its thread with calls to make. -/
def Silent (after : Configuration E ι α σ) (move : Move E ι α σ) : Prop :=
  after.state = move.before.state ∧ (after.threads move.thread).nextCall ≠ none

/-- A serial run accounts for a configuration: it reaches the state, every thread it has performed
has ended with the outcome it had there, no thread is performed twice, and every thread that has
ended has been performed. -/
structure Accounts (transition : Transition E σ) (start : Configuration E ι α σ)
    (order : List (Completed ι α σ)) (last : Configuration E ι α σ) : Prop where
  serial : Sequential (fun i ↦ Program.Exec transition (start.threads i)) start.state order
    last.state
  outcomes : ∀ completed ∈ order, last.threads completed.activity = .ended completed.outcome
  nodup : (order.map Completed.activity).Nodup
  complete : ∀ i, (last.threads i).nextCall = none → i ∈ order.map Completed.activity

/-- The threads of a serial run that accounts for a configuration have no call left. -/
theorem Accounts.nextCall_eq_none {transition : Transition E σ}
    {start last : Configuration E ι α σ} {order : List (Completed ι α σ)}
    (haccounts : Accounts transition start order last) {i : ι}
    (hmem : i ∈ order.map Completed.activity) : (last.threads i).nextCall = none := by
  obtain ⟨completed, hcompleted, hactivity⟩ := List.mem_map.mp hmem
  subst hactivity
  exact (Program.nextCall_eq_none_iff _).mpr ⟨_, haccounts.outcomes completed hcompleted⟩

variable [DecidableEq ι] {transition : Transition E σ} {start last : Configuration E ι α σ}
  {trace : List (Move E ι α σ)}

/-- A silent step changes nothing that a serial run accounts for. -/
theorem Accounts.silent {order : List (Completed ι α σ)} {move : Move E ι α σ}
    {after : Configuration E ι α σ} (haccounts : Accounts transition start order move.before)
    (hstep : Step transition move after) (hsilent : Silent after move) :
    Accounts transition start order after := by
  obtain ⟨hstate, hpending⟩ := hsilent
  obtain ⟨next, hthread, -, -⟩ := hstep.exists_next
  have hother : ∀ i, (after.threads i).nextCall = none → i ≠ move.thread := by
    intro i hnone hi
    subst hi
    exact hpending hnone
  refine ⟨?_, fun completed hcompleted ↦ ?_, haccounts.nodup, fun i hnone ↦ ?_⟩
  · rw [hstate]
    exact haccounts.serial
  · have hne : completed.activity ≠ move.thread := by
      intro hi
      have hended := haccounts.nextCall_eq_none (List.mem_map_of_mem hcompleted)
      rw [hi, hthread] at hended
      cases hended
    rw [hstep.threads_of_ne hne]
    exact haccounts.outcomes completed hcompleted
  · rw [hstep.threads_of_ne (hother i hnone)] at hnone
    exact haccounts.complete i hnone

/-- An atomic commit performs its thread at the end of the serial run. -/
theorem Accounts.commit {order : List (Completed ι α σ)} {move : Move E ι α σ}
    {after : Configuration E ι α σ} {outcome : Option (α move.thread)}
    (haccounts : Accounts transition start order move.before) (hstep : Step transition move after)
    (hended : after.threads move.thread = .ended outcome)
    (hexec : Program.Exec transition (start.threads move.thread) move.before.state outcome
      after.state) :
    Accounts transition start (⟨move.before.state, move.thread, outcome, after.state⟩ :: order)
      after := by
  obtain ⟨next, hthread, -, -⟩ := hstep.exists_next
  -- The thread of the step had a call to make, so it is not yet in the order.
  have hfresh : move.thread ∉ order.map Completed.activity := by
    intro hmem
    have hnone := haccounts.nextCall_eq_none hmem
    rw [hthread] at hnone
    cases hnone
  refine ⟨.next haccounts.serial hexec, ?_, List.nodup_cons.mpr ⟨hfresh, haccounts.nodup⟩, ?_⟩
  · refine List.forall_mem_cons.mpr ⟨hended, fun completed hcompleted ↦ ?_⟩
    have hne : completed.activity ≠ move.thread := fun hi ↦
      hfresh (hi ▸ List.mem_map_of_mem hcompleted)
    rw [hstep.threads_of_ne hne]
    exact haccounts.outcomes completed hcompleted
  · intro i hnone
    by_cases hi : i = move.thread
    · rw [hi]
      exact List.mem_cons_self
    · rw [hstep.threads_of_ne hi] at hnone
      exact List.mem_cons_of_mem _ (haccounts.complete i hnone)

/-- Commit-point serialization: if every step is silent or an atomic commit, the interleaving is
equal to the serial run in the order of the commits. The order grows with the run: at each move an
earlier part of it accounts for what had happened by then, so a thread that had ended before another
made its first call comes before it. -/
theorem Interleaving.serializable (admitted : Move E ι α σ → Prop)
    (hpending : ∀ i, (start.threads i).nextCall ≠ none)
    (hatomic : ∀ earlier move after, Interleaving transition start earlier move.before →
      Step transition move after → admitted move →
      Silent after move ∨ AtomicCommit transition start after move)
    (hrun : Interleaving transition start trace last) (hadmitted : ∀ move ∈ trace, admitted move) :
    ∃ order, Accounts transition start order last ∧
      ∀ move ∈ trace, ∃ earlier, earlier <:+ order ∧
        Accounts transition start earlier move.before := by
  induction hrun with
  | start =>
    refine ⟨[], ⟨.start, List.forall_mem_nil _, List.nodup_nil, fun i hnone ↦ ?_⟩,
      List.forall_mem_nil _⟩
    exact absurd hnone (hpending i)
  | @step trace move after hbefore hstep ih =>
    obtain ⟨hlatest, hearlier⟩ := List.forall_mem_cons.mp hadmitted
    obtain ⟨order, haccounts, hgrows⟩ := ih hearlier
    rcases hatomic trace move after hbefore hstep hlatest with hsilent | ⟨outcome, hended, hexec⟩
    · refine ⟨order, haccounts.silent hstep hsilent, ?_⟩
      exact List.forall_mem_cons.mpr ⟨⟨order, List.suffix_refl order, haccounts⟩, hgrows⟩
    · refine ⟨_, haccounts.commit hstep hended hexec, ?_⟩
      refine List.forall_mem_cons.mpr ⟨⟨order, List.suffix_cons _ order, haccounts⟩, ?_⟩
      intro move hmove
      obtain ⟨earlier, hsuffix, hbeforeMove⟩ := hgrows move hmove
      exact ⟨earlier, hsuffix.trans (List.suffix_cons _ order), hbeforeMove⟩

end Effects
