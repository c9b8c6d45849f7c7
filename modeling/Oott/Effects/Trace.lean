import Oott.Effects.Program

/-!
# Executions with their calls

An execution together with the calls it makes and the responses they get. Where calls may fail, the
responses say which of them did: a trace is the pattern of success and failure of one execution.
-/

set_option autoImplicit false
set_option relaxedAutoImplicit false

namespace Effects

variable {E : Interface} {α β σ : Type}

/-- A call and the response it got. -/
structure Answer (E : Interface) where
  op : E.Op
  response : E.Response op

namespace Program

/-- The executions of a program, with the calls made, in order, and their responses. -/
inductive Traced (transition : Transition E σ) :
    Program E α → σ → List (Answer E) → Option α → σ → Prop
  | ret (value : α) (state : σ) : Traced transition (.ret value) state [] (some value) state
  | abort (state : σ) : Traced transition .abort state [] none state
  | call {op : E.Op} {next : E.Response op → Program E α} {state middle final : σ}
      {response : E.Response op} {trace : List (Answer E)} {outcome : Option α}
      (hcall : transition op state response middle)
      (hrest : Traced transition (next response) middle trace outcome final) :
      Traced transition (.call op next) state (⟨op, response⟩ :: trace) outcome final

variable {transition : Transition E σ} {state final : σ} {trace : List (Answer E)}

@[simp] theorem traced_ret_iff {value : α} {outcome : Option α} :
    Traced transition (.ret value) state trace outcome final ↔
      trace = [] ∧ outcome = some value ∧ final = state := by
  constructor
  · rintro (_ | _)
    exact ⟨rfl, rfl, rfl⟩
  · rintro ⟨rfl, rfl, rfl⟩
    exact .ret value final

@[simp] theorem traced_abort_iff {outcome : Option α} :
    Traced transition (.abort : Program E α) state trace outcome final ↔
      trace = [] ∧ outcome = none ∧ final = state := by
  constructor
  · rintro (_ | _)
    exact ⟨rfl, rfl, rfl⟩
  · rintro ⟨rfl, rfl, rfl⟩
    exact .abort final

theorem traced_orAbort_iff {value outcome : Option α} :
    Traced transition (orAbort value) state trace outcome final ↔
      trace = [] ∧ outcome = value ∧ final = state := by
  cases value with
  | none => exact traced_abort_iff
  | some value => exact traced_ret_iff

theorem traced_call_iff {op : E.Op} {next : E.Response op → Program E α} {outcome : Option α} :
    Traced transition (.call op next) state trace outcome final ↔
      ∃ response middle rest, trace = ⟨op, response⟩ :: rest ∧
        transition op state response middle ∧
        Traced transition (next response) middle rest outcome final := by
  constructor
  · rintro (_ | _ | ⟨hcall, hrest⟩)
    exact ⟨_, _, _, rfl, hcall, hrest⟩
  · rintro ⟨response, middle, rest, rfl, hcall, hrest⟩
    exact .call hcall hrest

/-- A traced execution of a sequence runs the first part to a value and then the second part, or
aborts with the first part. -/
theorem traced_bind_inv {program : Program E α} {f : α → Program E β} {outcome : Option β}
    (htraced : Traced transition (program >>= f) state trace outcome final) :
    (∃ value middle first second, trace = first ++ second ∧
      Traced transition program state first (some value) middle ∧
      Traced transition (f value) middle second outcome final) ∨
      (Traced transition program state trace none final ∧ outcome = none) := by
  induction program generalizing state trace with
  | ret value => exact Or.inl ⟨value, state, [], trace, rfl, .ret value state, htraced⟩
  | abort =>
    obtain ⟨rfl, rfl, rfl⟩ := traced_abort_iff.mp htraced
    exact Or.inr ⟨.abort final, rfl⟩
  | call op next ih =>
    obtain ⟨response, middle, rest, rfl, hcall, hrest⟩ := traced_call_iff.mp htraced
    rcases ih response hrest with
      ⟨value, last, first, second, rfl, hfirst, hsecond⟩ | ⟨hfirst, hnone⟩
    · exact Or.inl ⟨value, last, ⟨op, response⟩ :: first, second, rfl, .call hcall hfirst,
        hsecond⟩
    · exact Or.inr ⟨.call hcall hfirst, hnone⟩

/-- A sequence that returns has run both of its parts to a value. -/
theorem traced_bind_some {program : Program E α} {f : α → Program E β} {result : β}
    (htraced : Traced transition (program >>= f) state trace (some result) final) :
    ∃ value middle first second, trace = first ++ second ∧
      Traced transition program state first (some value) middle ∧
      Traced transition (f value) middle second (some result) final := by
  rcases traced_bind_inv htraced with hreturned | ⟨-, hnone⟩
  · exact hreturned
  · cases hnone

/-- The executions are those that make some calls. -/
theorem exec_iff_traced {program : Program E α} {outcome : Option α} :
    Exec transition program state outcome final ↔
      ∃ trace, Traced transition program state trace outcome final := by
  constructor
  · intro hexec
    induction hexec with
    | ret value state => exact ⟨[], .ret value state⟩
    | abort state => exact ⟨[], .abort state⟩
    | call hcall _ ih =>
      obtain ⟨trace, htrace⟩ := ih
      exact ⟨_, .call hcall htrace⟩
  · rintro ⟨trace, htraced⟩
    induction htraced with
    | ret value state => exact .ret value state
    | abort state => exact .abort state
    | call hcall _ ih => exact .call hcall ih

/-- The calls of an execution are among those the program can make. -/
theorem Traced.allowed {allowed : E.Op → Prop} {program : Program E α} {outcome : Option α}
    (htraced : Traced transition program state trace outcome final)
    (halways : program.Always allowed) : ∀ answer ∈ trace, allowed answer.op := by
  induction htraced with
  | ret value state => exact List.forall_mem_nil _
  | abort state => exact List.forall_mem_nil _
  | call _ _ ih => exact List.forall_mem_cons.mpr ⟨halways.1, ih (halways.2 _)⟩

end Program

end Effects
