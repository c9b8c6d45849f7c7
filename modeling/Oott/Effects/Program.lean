import Mathlib.Tactic.Common

/-!
# Programs over an interface of calls

A program is a finite tree: it returns a value, aborts, or makes one call of its interface and
continues with the response. The tree fixes no meaning for the calls. Two meanings are given here.
A `Machine` answers every call by a function of the state, and `Program.run` runs a program on it;
a `Transition` says which responses and successor states a call may have, and `Program.Exec` is the
set of executions it allows, so that failing calls and an arbitrary clock are one relation.

An abort keeps the state reached so far: nothing that a program has already written is undone.

`Program.run_bind` and `Program.exec_bind_inv` take a run apart at a `bind`,
`Program.Exec.preserves` is the invariant rule for whole executions, `Program.Always` says that
every call a program can still make satisfies a predicate, and `Program.Returns` that it does not
abort under some responses. `Program.Keeps` and `Program.Alike` are
an invariant and a relation of runs, each with its rule for `bind`.
-/

set_option autoImplicit false
set_option relaxedAutoImplicit false

namespace Effects

/-- The calls a program may make, each with the type of its response. -/
structure Interface where
  Op : Type
  Response : Op → Type

/-- A program over an interface: a returned value, an abort, or a call and what follows it. -/
inductive Program (E : Interface) (α : Type)
  | ret (value : α)
  | abort
  | call (op : E.Op) (next : E.Response op → Program E α)

variable {E : Interface} {α β γ σ : Type}

namespace Program

/-- Sequential composition: an abort of the first program aborts the whole. -/
def bind : Program E α → (α → Program E β) → Program E β
  | ret value, f => f value
  | abort, _ => abort
  | call op next, f => call op fun response ↦ bind (next response) f

instance : Monad (Program E) where
  pure := ret
  bind := bind

/-- A single call, returning its response. -/
def perform (op : E.Op) : Program E (E.Response op) := call op ret

/-- An optional value, `none` being an abort. -/
def orAbort : Option α → Program E α
  | some value => ret value
  | none => abort

/-- The program that has already ended with the given outcome, `none` being an abort. -/
abbrev ended : Option α → Program E α := orAbort

/-- The outcome of a program that has ended. -/
def outcome : Program E α → Option (Option α)
  | ret value => some (some value)
  | abort => some none
  | call _ _ => none

/-- The call a program is about to make, if it has not ended. -/
def nextCall : Program E α → Option E.Op
  | ret _ => none
  | abort => none
  | call op _ => some op

@[simp] theorem pure_eq_ret (value : α) : (pure value : Program E α) = ret value := rfl

@[simp] theorem ret_bind (value : α) (f : α → Program E β) : (ret value >>= f) = f value := rfl

@[simp] theorem abort_bind (f : α → Program E β) : ((abort : Program E α) >>= f) = abort := rfl

@[simp] theorem call_bind (op : E.Op) (next : E.Response op → Program E α)
    (f : α → Program E β) : (call op next >>= f) = call op fun response ↦ next response >>= f := rfl

@[simp] theorem perform_bind (op : E.Op) (f : E.Response op → Program E β) :
    (perform op >>= f) = call op f := rfl

@[simp] theorem orAbort_some (value : α) : (orAbort (some value) : Program E α) = ret value := rfl

@[simp] theorem orAbort_none : (orAbort none : Program E α) = abort := rfl

@[simp] theorem nextCall_ret (value : α) : (ret value : Program E α).nextCall = none := rfl

@[simp] theorem nextCall_abort : (abort : Program E α).nextCall = none := rfl

@[simp] theorem nextCall_call (op : E.Op) (next : E.Response op → Program E α) :
    (call op next).nextCall = some op := rfl

/-- A program has ended exactly when it has no call left. -/
theorem nextCall_eq_none_iff (program : Program E α) :
    program.nextCall = none ↔ ∃ outcome, program = ended outcome := by
  constructor
  · intro hnone
    cases program with
    | ret value => exact ⟨some value, rfl⟩
    | abort => exact ⟨none, rfl⟩
    | call op next => simp at hnone
  · rintro ⟨outcome, rfl⟩
    cases outcome <;> rfl

theorem outcome_eq_some_iff {program : Program E α} {result : Option α} :
    program.outcome = some result ↔ program = ended result := by
  cases program <;> cases result <;> simp [outcome, ended, orAbort]

theorem nextCall_eq_none_of_outcome {program : Program E α}
    (hended : program.outcome.isSome = true) : program.nextCall = none := by
  obtain ⟨result, hresult⟩ := Option.isSome_iff_exists.mp hended
  rw [outcome_eq_some_iff] at hresult
  exact (nextCall_eq_none_iff program).mpr ⟨result, hresult⟩

/-! ### Every call a program can make -/

/-- Every call the program can still make, whatever the responses, satisfies `allowed`. -/
def Always (allowed : E.Op → Prop) : Program E α → Prop
  | ret _ => True
  | abort => True
  | call op next => allowed op ∧ ∀ response, Always allowed (next response)

variable {allowed : E.Op → Prop}

@[simp] theorem always_ret (value : α) : Always allowed (ret value : Program E α) := trivial

@[simp] theorem always_abort : Always allowed (abort : Program E α) := trivial

@[simp] theorem always_call (op : E.Op) (next : E.Response op → Program E α) :
    Always allowed (call op next) ↔ allowed op ∧ ∀ response, Always allowed (next response) :=
  Iff.rfl

theorem always_perform {op : E.Op} (hop : allowed op) : Always allowed (perform op) :=
  ⟨hop, fun _ ↦ trivial⟩

theorem always_orAbort (value : Option α) : Always allowed (orAbort value : Program E α) := by
  cases value <;> trivial

theorem Always.bind {program : Program E α} {f : α → Program E β}
    (hprogram : Always allowed program) (hf : ∀ value, Always allowed (f value)) :
    Always allowed (program >>= f) := by
  induction program with
  | ret value => exact hf value
  | abort => trivial
  | call op next ih => exact ⟨hprogram.1, fun response ↦ ih response (hprogram.2 response)⟩

theorem Always.mono {wider : E.Op → Prop} {program : Program E α}
    (hprogram : Always allowed program) (hwider : ∀ op, allowed op → wider op) :
    Always wider program := by
  induction program with
  | ret value => trivial
  | abort => trivial
  | call op next ih =>
    exact ⟨hwider op hprogram.1, fun response ↦ ih response (hprogram.2 response)⟩

/-! ### Programs that return -/

/-- The program does not abort as long as every response is admitted. -/
def Returns (admitted : (op : E.Op) → E.Response op → Prop) : Program E α → Prop
  | ret _ => True
  | abort => False
  | call op next => ∀ response, admitted op response → Returns admitted (next response)

variable {admitted : (op : E.Op) → E.Response op → Prop}

theorem returns_perform (op : E.Op) : Returns admitted (perform op) := fun _ _ ↦ trivial

theorem returns_orAbort {value : Option α} (hvalue : value ≠ none) :
    Returns admitted (orAbort value : Program E α) := by
  cases value with
  | none => exact hvalue rfl
  | some value => trivial

theorem Returns.bind {program : Program E α} {f : α → Program E β}
    (hprogram : Returns admitted program) (hf : ∀ value, Returns admitted (f value)) :
    Returns admitted (program >>= f) := by
  induction program with
  | ret value => exact hf value
  | abort => exact hprogram.elim
  | call op next ih => exact fun response hresponse ↦ ih response (hprogram response hresponse)

end Program

/-! ### Running a program on a machine -/

/-- A machine answers every call and moves its state. -/
abbrev Machine (E : Interface) (σ : Type) := (op : E.Op) → σ → E.Response op × σ

namespace Program

/-- Run a program on a machine: the outcome, `none` being an abort, and the last state. -/
def run (machine : Machine E σ) : Program E α → σ → Option α × σ
  | ret value, state => (some value, state)
  | abort, state => (none, state)
  | call op next, state => run machine (next (machine op state).1) (machine op state).2

variable (machine : Machine E σ)

@[simp] theorem run_ret (value : α) (state : σ) :
    run machine (ret value : Program E α) state = (some value, state) := rfl

@[simp] theorem run_abort (state : σ) :
    run machine (abort : Program E α) state = (none, state) := rfl

@[simp] theorem run_call (op : E.Op) (next : E.Response op → Program E α) (state : σ) :
    run machine (call op next) state =
      run machine (next (machine op state).1) (machine op state).2 := rfl

/-- A run of a sequence is the run of its first part followed by the run of its second, unless the
first part aborts. -/
theorem run_bind (program : Program E α) (f : α → Program E β) (state : σ) :
    run machine (program >>= f) state =
      match run machine program state with
      | (some value, middle) => run machine (f value) middle
      | (none, middle) => (none, middle) := by
  induction program generalizing state with
  | ret value => rfl
  | abort => rfl
  | call op next ih => exact ih _ _

/-- A sequence that returns has run its first part to a value and its second from there. -/
theorem run_bind_eq_some {program : Program E α} {f : α → Program E β} {state final : σ} {value : β}
    (hrun : run machine (program >>= f) state = (some value, final)) :
    ∃ first middle, run machine program state = (some first, middle) ∧
      run machine (f first) middle = (some value, final) := by
  rw [run_bind] at hrun
  split at hrun
  · next first middle hfirst => exact ⟨first, middle, hfirst, hrun⟩
  · cases hrun

/-- Every run of the program, also one that aborts, keeps the invariant. -/
def Keeps (invariant : σ → Prop) (program : Program E α) : Prop :=
  ∀ state, invariant state → invariant (run machine program state).2

/-- Runs of the two programs from related states end in related states, and either both abort or
both return, with values that agree. -/
def Alike (related : σ → σ → Prop) (agree : α → β → Prop) (first : Program E α)
    (second : Program E β) : Prop :=
  ∀ state state', related state state' →
    Option.Rel agree (run machine first state).1 (run machine second state').1 ∧
      related (run machine first state).2 (run machine second state').2

variable {machine}

theorem Keeps.ret {invariant : σ → Prop} (value : α) :
    Keeps machine invariant (.ret value : Program E α) := fun _ hstate ↦ hstate

theorem Keeps.bind {invariant : σ → Prop} {program : Program E α} {f : α → Program E β}
    (hprogram : Keeps machine invariant program)
    (hf : ∀ value, Keeps machine invariant (f value)) :
    Keeps machine invariant (program >>= f) := by
  intro state hstate
  have hfirst := hprogram state hstate
  rw [run_bind]
  split
  · next value middle hrun =>
    rw [hrun] at hfirst
    exact hf value middle hfirst
  · next middle hrun =>
    rw [hrun] at hfirst
    exact hfirst

theorem Alike.ret {related : σ → σ → Prop} {agree : α → β → Prop} {value : α} {value' : β}
    (hagree : agree value value') :
    Alike machine related agree (.ret value : Program E α) (.ret value') :=
  fun _ _ hstates ↦ ⟨.some hagree, hstates⟩

theorem Alike.bind {α' β' : Type} {related : σ → σ → Prop} {agree : α → β → Prop}
    {agree' : α' → β' → Prop} {first : Program E α} {second : Program E β}
    {f : α → Program E α'} {g : β → Program E β'}
    (hprograms : Alike machine related agree first second)
    (hrest : ∀ value value', agree value value' →
      Alike machine related agree' (f value) (g value')) :
    Alike machine related agree' (first >>= f) (second >>= g) := by
  intro state state' hstates
  obtain ⟨houtcomes, hmiddle⟩ := hprograms state state' hstates
  rw [run_bind, run_bind]
  rcases hfirst : run machine first state with ⟨outcome, middle⟩
  rcases hsecond : run machine second state' with ⟨outcome', middle'⟩
  rw [hfirst, hsecond] at houtcomes hmiddle
  cases houtcomes with
  | none => exact ⟨.none, hmiddle⟩
  | some hagree => exact hrest _ _ hagree _ _ hmiddle

theorem Alike.mono {related : σ → σ → Prop} {agree agree' : α → β → Prop} {first : Program E α}
    {second : Program E β} (halike : Alike machine related agree first second)
    (hagree : ∀ value value', agree value value' → agree' value value') :
    Alike machine related agree' first second := by
  intro state state' hstates
  obtain ⟨houtcomes, hafter⟩ := halike state state' hstates
  refine ⟨?_, hafter⟩
  generalize (run machine first state).1 = outcome at houtcomes
  generalize (run machine second state').1 = outcome' at houtcomes
  cases houtcomes with
  | none => exact .none
  | some hvalues => exact .some (hagree _ _ hvalues)

/-- Runs that agree on equal values have equal outcomes. -/
theorem Alike.outcome_eq {related : σ → σ → Prop} {first second : Program E α}
    (halike : Alike machine related (· = ·) first second) {state state' : σ}
    (hstates : related state state') :
    (run machine first state).1 = (run machine second state').1 := by
  have houtcomes := (halike state state' hstates).1
  generalize (run machine first state).1 = outcome at houtcomes
  generalize (run machine second state').1 = outcome' at houtcomes
  cases houtcomes with
  | none => rfl
  | some hvalues => exact congrArg some hvalues

end Program

/-! ### Executions under a transition relation -/

/-- Which responses and successor states a call may have in a state. -/
abbrev Transition (E : Interface) (σ : Type) := (op : E.Op) → σ → E.Response op → σ → Prop

/-- The relation of a machine: the one answer it gives. -/
def Transition.ofMachine (machine : Machine E σ) : Transition E σ :=
  fun op state response next ↦ response = (machine op state).1 ∧ next = (machine op state).2

/-- A transition relation allows a machine when it allows every answer the machine gives. -/
def Transition.Allows (transition : Transition E σ) (machine : Machine E σ) : Prop :=
  ∀ op state, transition op state (machine op state).1 (machine op state).2

theorem Transition.allows_ofMachine (machine : Machine E σ) :
    (Transition.ofMachine machine).Allows machine := fun _ _ ↦ ⟨rfl, rfl⟩

namespace Program

/-- The executions of a program from a state: their outcomes, `none` being an abort, and their last
states. -/
inductive Exec (transition : Transition E σ) : Program E α → σ → Option α → σ → Prop
  | ret (value : α) (state : σ) : Exec transition (.ret value) state (some value) state
  | abort (state : σ) : Exec transition .abort state none state
  | call {op : E.Op} {next : E.Response op → Program E α} {state middle final : σ}
      {response : E.Response op} {outcome : Option α}
      (hcall : transition op state response middle)
      (hrest : Exec transition (next response) middle outcome final) :
      Exec transition (.call op next) state outcome final

variable {transition : Transition E σ}

@[simp] theorem exec_ret_iff {value : α} {state final : σ} {outcome : Option α} :
    Exec transition (.ret value) state outcome final ↔ outcome = some value ∧ final = state := by
  constructor
  · rintro (_ | _)
    exact ⟨rfl, rfl⟩
  · rintro ⟨rfl, rfl⟩
    exact .ret value final

@[simp] theorem exec_abort_iff {state final : σ} {outcome : Option α} :
    Exec transition (.abort : Program E α) state outcome final ↔
      outcome = none ∧ final = state := by
  constructor
  · rintro (_ | _)
    exact ⟨rfl, rfl⟩
  · rintro ⟨rfl, rfl⟩
    exact .abort final

theorem exec_orAbort_iff {value outcome : Option α} {state final : σ} :
    Exec transition (orAbort value) state outcome final ↔ outcome = value ∧ final = state := by
  cases value with
  | none => exact exec_abort_iff
  | some value => exact exec_ret_iff

theorem exec_call_iff {op : E.Op} {next : E.Response op → Program E α} {state final : σ}
    {outcome : Option α} :
    Exec transition (.call op next) state outcome final ↔
      ∃ response middle, transition op state response middle ∧
        Exec transition (next response) middle outcome final := by
  constructor
  · rintro (_ | _ | ⟨hcall, hrest⟩)
    exact ⟨_, _, hcall, hrest⟩
  · rintro ⟨response, middle, hcall, hrest⟩
    exact .call hcall hrest

theorem exec_perform_bind_iff {op : E.Op} {f : E.Response op → Program E α} {state final : σ}
    {outcome : Option α} :
    Exec transition (perform op >>= f) state outcome final ↔
      ∃ response middle, transition op state response middle ∧
        Exec transition (f response) middle outcome final := exec_call_iff

/-- An execution of a sequence runs the first part to a value and then the second part, or aborts
with the first part. -/
theorem exec_bind_inv {program : Program E α} {f : α → Program E β} {state final : σ}
    {outcome : Option β} (hexec : Exec transition (program >>= f) state outcome final) :
    (∃ value middle, Exec transition program state (some value) middle ∧
      Exec transition (f value) middle outcome final) ∨
      (Exec transition program state none final ∧ outcome = none) := by
  induction program generalizing state with
  | ret value => exact Or.inl ⟨value, state, .ret value state, hexec⟩
  | abort =>
    obtain ⟨rfl, rfl⟩ := exec_abort_iff.mp hexec
    exact Or.inr ⟨.abort final, rfl⟩
  | call op next ih =>
    obtain ⟨response, middle, hcall, hrest⟩ := exec_call_iff.mp hexec
    rcases ih response hrest with ⟨value, last, hfirst, hsecond⟩ | ⟨hfirst, hnone⟩
    · exact Or.inl ⟨value, last, .call hcall hfirst, hsecond⟩
    · exact Or.inr ⟨.call hcall hfirst, hnone⟩

/-- The invariant rule: what every allowed call preserves, every execution preserves. Only the
calls the program can make need to be considered. -/
theorem Exec.preserves {allowed : E.Op → Prop} (invariant : σ → Prop)
    (hcalls : ∀ op state response middle, allowed op → transition op state response middle →
      invariant state → invariant middle)
    {program : Program E α} {state final : σ} {outcome : Option α}
    (hexec : Exec transition program state outcome final) (hallowed : Always allowed program)
    (hstate : invariant state) : invariant final := by
  induction hexec with
  | ret value state => exact hstate
  | abort state => exact hstate
  | call hcall hrest ih =>
    exact ih (hallowed.2 _) (hcalls _ _ _ _ hallowed.1 hcall hstate)

/-- A program that returns does so in every execution in which the responses are admitted. -/
theorem Exec.outcome_ne_none {admitted : (op : E.Op) → E.Response op → Prop} (invariant : σ → Prop)
    (hcalls : ∀ op state response middle, transition op state response middle →
      invariant state → admitted op response ∧ invariant middle)
    {program : Program E α} {state final : σ} {outcome : Option α}
    (hexec : Exec transition program state outcome final) (hreturns : Returns admitted program)
    (hstate : invariant state) : outcome ≠ none := by
  induction hexec with
  | ret value state => exact Option.some_ne_none value
  | abort state => exact hreturns.elim
  | call hcall hrest ih =>
    obtain ⟨hadmitted, hmiddle⟩ := hcalls _ _ _ _ hcall hstate
    exact ih (hreturns _ hadmitted) hmiddle

/-- Under the relation of a machine, the only execution is the run. -/
theorem exec_ofMachine_iff {machine : Machine E σ} {program : Program E α} {state final : σ}
    {outcome : Option α} :
    Exec (.ofMachine machine) program state outcome final ↔
      run machine program state = (outcome, final) := by
  induction program generalizing state with
  | ret value => rw [exec_ret_iff, run_ret, Prod.mk.injEq, eq_comm, @eq_comm _ final]
  | abort => rw [exec_abort_iff, run_abort, Prod.mk.injEq, eq_comm, @eq_comm _ final]
  | call op next ih =>
    rw [exec_call_iff, run_call]
    constructor
    · intro ⟨response, middle, ⟨hresponse, hmiddle⟩, hrest⟩
      subst hresponse hmiddle
      exact (ih _).mp hrest
    · intro hrun
      exact ⟨_, _, ⟨rfl, rfl⟩, (ih _).mpr hrun⟩

/-- The run on an allowed machine is one of the executions. -/
theorem exec_run {machine : Machine E σ} (hallows : transition.Allows machine)
    (program : Program E α) (state : σ) :
    Exec transition program state (run machine program state).1
      (run machine program state).2 := by
  induction program generalizing state with
  | ret value => exact .ret value state
  | abort => exact .abort state
  | call op next ih => exact .call (hallows op state) (ih _ _)

end Program

end Effects
