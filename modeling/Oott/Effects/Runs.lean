import Mathlib.Data.List.DropRight
import Mathlib.Data.List.Infix
import Mathlib.Tactic.Common

/-!
# Runs of a labelled step relation

A run is a sequence of steps from a starting state. The history of a run has each step with the
state that it was taken in, so that what the labels of a run say of its states can be stated.
`Run.invariant` is the invariant rule, with the history. Where a property is kept by exactly the
steps that are good, a run keeps it in all its states exactly when all its steps are
(`Run.forall_visited_iff`). `lastOf` and `sinceLast` are what a history has to say of its steps of
some kind.
-/

set_option autoImplicit false
set_option relaxedAutoImplicit false

namespace Effects

/-- A step that has been taken: the state before it and its label. -/
structure Taken (σ Label : Type) where
  before : σ
  label : Label

variable {σ Label : Type}

/-- The runs from a starting state, each with its history and the state it has led to. -/
inductive Run (step : σ → Label → σ → Prop) (start : σ) : List (Taken σ Label) → σ → Prop
  | start : Run step start [] start
  | step {history : List (Taken σ Label)} {before after : σ} {label : Label}
      (hbefore : Run step start history before) (hstep : step before label after) :
      Run step start (history ++ [⟨before, label⟩]) after

variable {step : σ → Label → σ → Prop} {start last : σ} {history : List (Taken σ Label)}

/-- The invariant rule: an invariant of the start that every step preserves holds after every
run. -/
theorem Run.invariant (invariant : List (Taken σ Label) → σ → Prop) (hstart : invariant [] start)
    (hstep : ∀ history before label after, invariant history before → step before label after →
      invariant (history ++ [⟨before, label⟩]) after)
    (hrun : Run step start history last) : invariant history last := by
  induction hrun with
  | start => exact hstart
  | step _ hnext ih => exact hstep _ _ _ _ ih hnext

/-- A run whose steps are all of an admitted kind keeps what such steps preserve. -/
theorem Run.invariant_of_admitted (kept : σ → Prop) (admitted : Label → Prop)
    (hstart : kept start)
    (hstep : ∀ before label after, kept before → admitted label → step before label after →
      kept after)
    (hrun : Run step start history last)
    (hadmitted : ∀ taken ∈ history, admitted taken.label) : kept last := by
  induction hrun with
  | start => exact hstart
  | step _ hnext ih =>
    obtain ⟨hearlier, hlatest⟩ := List.forall_mem_append.mp hadmitted
    exact hstep _ _ _ (ih hearlier) (hlatest _ (List.mem_singleton_self _)) hnext

/-- The states that a run has been in, each with the history that had led to it. -/
def Visited (history : List (Taken σ Label)) (last : σ) (earlier : List (Taken σ Label))
    (state : σ) : Prop :=
  (earlier = history ∧ state = last) ∨ ∃ label, earlier ++ [⟨state, label⟩] <+: history

theorem visited_nil {earlier : List (Taken σ Label)} {state : σ} :
    Visited [] last earlier state ↔ earlier = [] ∧ state = last := by
  simp [Visited]

theorem visited_append {before state : σ} {label : Label} {earlier : List (Taken σ Label)} :
    Visited (history ++ [⟨before, label⟩]) last earlier state ↔
      (earlier = history ++ [⟨before, label⟩] ∧ state = last) ∨
        Visited history before earlier state := by
  unfold Visited
  refine or_congr_right ?_
  constructor
  · rintro ⟨other, hinit⟩
    rcases List.prefix_concat_iff.1 hinit with heq | hinit
    · obtain ⟨hearlier, htaken⟩ := List.append_inj' heq rfl
      simp only [List.cons.injEq, Taken.mk.injEq, and_true] at htaken
      exact .inl ⟨hearlier, htaken.1⟩
    · exact .inr ⟨other, hinit⟩
  · rintro (⟨rfl, rfl⟩ | ⟨other, hinit⟩)
    · exact ⟨label, List.prefix_rfl⟩
    · exact ⟨other, hinit.trans (List.prefix_append _ _)⟩

/-- The rule for what exactly the good steps keep: where a good step, and no other, keeps a property
that holds at the start, it holds in every state of a run exactly when every step is good. -/
theorem Run.forall_visited_iff {property : List (Taken σ Label) → σ → Prop}
    {good : Taken σ Label → Prop} (hstart : property [] start)
    (hstep : ∀ history before label after, Run step start history before →
      property history before → step before label after →
      (property (history ++ [⟨before, label⟩]) after ↔ good ⟨before, label⟩))
    (hrun : Run step start history last) :
    (∀ earlier state, Visited history last earlier state → property earlier state) ↔
      ∀ taken ∈ history, good taken := by
  induction hrun with
  | start => simp [visited_nil, hstart]
  | @step history before after label hbefore hnext ih =>
    simp only [visited_append, List.forall_mem_append, List.forall_mem_singleton]
    constructor
    · intro hall
      have hearlier := fun earlier state hvisited ↦ hall earlier state (.inr hvisited)
      have hhere := hearlier history before (.inl ⟨rfl, rfl⟩)
      exact ⟨ih.1 hearlier, (hstep _ _ _ _ hbefore hhere hnext).1 (hall _ _ (.inl ⟨rfl, rfl⟩))⟩
    · rintro ⟨hgood, hlast⟩ earlier state (⟨rfl, rfl⟩ | hvisited)
      · have hhere := ih.2 hgood history before (.inl ⟨rfl, rfl⟩)
        exact (hstep _ _ _ _ hbefore hhere hnext).2 hlast
      · exact ih.2 hgood earlier state hvisited

/-! ### Histories -/

section Histories

variable {α : Type} (select : Taken σ Label → Option α) (mark : Taken σ Label → Bool)

/-- What the last step of some kind has. -/
def lastOf (history : List (Taken σ Label)) : Option α := (history.filterMap select).getLast?

theorem lastOf_append (taken : Taken σ Label) :
    lastOf select (history ++ [taken]) = (select taken).or (lastOf select history) := by
  unfold lastOf
  rw [List.filterMap_append, List.getLast?_append]
  cases hselect : select taken <;> simp [hselect]

/-- The steps since the last one of some kind. -/
def sinceLast (history : List (Taken σ Label)) : List (Taken σ Label) :=
  history.rtakeWhile fun taken ↦ !mark taken

theorem sinceLast_append (taken : Taken σ Label) :
    sinceLast mark (history ++ [taken]) =
      if mark taken then [] else sinceLast mark history ++ [taken] := by
  unfold sinceLast
  rw [List.rtakeWhile_concat]
  cases mark taken <;> rfl

end Histories

end Effects
