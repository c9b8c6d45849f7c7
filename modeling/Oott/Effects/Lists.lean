import Oott.Effects.Program

/-!
# Programs over the members of a list

`List.mapM` and `List.forM` of programs: the members are worked on in order, each in the state that
the one before has left. `Program.run_mapM` is the rule of the first: what every member keeps holds
at the end, and the values correspond to the members. `Program.run_forM` is the rule of the second,
with an invariant of the members worked on so far, and `Program.Alike.forM` its rule for two runs.
-/

set_option autoImplicit false
set_option relaxedAutoImplicit false

namespace Effects.Program

variable {E : Interface} {α β σ : Type} {machine : Machine E σ}

instance : LawfulMonad (Program E) :=
  LawfulMonad.mk' (Program E)
    (fun program ↦ by
      induction program with
      | ret value => rfl
      | abort => rfl
      | call op next ih => exact congrArg (call op) (funext ih))
    (fun _ _ ↦ rfl)
    (fun program f g ↦ by
      induction program with
      | ret value => rfl
      | abort => rfl
      | call op next ih => exact congrArg (call op) (funext ih))

/-- When every member returns from a state that satisfies the invariant, with a value that
corresponds to it, and keeps the invariant, so does the list. -/
theorem run_mapM {invariant : σ → Prop} {corresponds : α → β → Prop} {f : α → Program E β}
    {members : List α}
    (hmember : ∀ member ∈ members, ∀ state, invariant state → ∃ value after,
      run machine (f member) state = (some value, after) ∧ corresponds member value ∧
        invariant after) {state : σ} (hstate : invariant state) :
    ∃ values after, run machine (members.mapM f) state = (some values, after) ∧
      List.Forall₂ corresponds members values ∧ invariant after := by
  induction members generalizing state with
  | nil => exact ⟨[], state, rfl, .nil, hstate⟩
  | cons member rest ih =>
    obtain ⟨hfirst, hrest⟩ := List.forall_mem_cons.mp hmember
    obtain ⟨value, middle, hvalue, hcorresponds, hmiddle⟩ := hfirst state hstate
    obtain ⟨values, after, hvalues, hothers, hafter⟩ := ih hrest hmiddle
    refine ⟨value :: values, after, ?_, .cons hcorresponds hothers, hafter⟩
    rw [List.mapM_cons, run_bind, hvalue]
    simp only
    rw [run_bind, hvalues]
    rfl

/-- When every member returns from a state that the members before it have led to, and leads on from
there, the list leads to its end. -/
theorem run_forM {invariant : List α → σ → Prop} {f : α → Program E Unit}
    (hmember : ∀ earlier member state, invariant earlier state → ∃ after,
      run machine (f member) state = (some (), after) ∧ invariant (earlier ++ [member]) after)
    (members earlier : List α) (state : σ) (hstate : invariant earlier state) :
    ∃ after, run machine (members.forM f) state = (some (), after) ∧
      invariant (earlier ++ members) after := by
  induction members generalizing earlier state with
  | nil =>
    rw [List.append_nil]
    exact ⟨state, rfl, hstate⟩
  | cons member rest ih =>
    obtain ⟨middle, hfirst, hmiddle⟩ := hmember earlier member state hstate
    obtain ⟨after, hrest, hafter⟩ := ih _ _ hmiddle
    refine ⟨after, ?_, ?_⟩
    · change run machine (f member >>= fun _ ↦ rest.forM f) state = _
      rw [run_bind, hfirst]
      exact hrest
    · rwa [List.append_assoc] at hafter

/-- Lists whose members correspond are worked on alike when corresponding members are. -/
theorem Alike.forM {related : σ → σ → Prop} {corresponds : α → β → Prop} {f : α → Program E Unit}
    {g : β → Program E Unit}
    (hmember : ∀ member other, corresponds member other →
      Alike machine related (· = ·) (f member) (g other))
    {members : List α} {others : List β} (hlists : List.Forall₂ corresponds members others) :
    Alike machine related (· = ·) (members.forM f) (others.forM g) := by
  induction hlists with
  | nil => exact .ret rfl
  | cons hfirst hrest ih => exact (hmember _ _ hfirst).bind fun _ _ _ ↦ ih

end Effects.Program
