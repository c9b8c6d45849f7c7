import Mathlib.Data.List.Infix
import Mathlib.Tactic.Common

/-!
# Patterns with wildcards

The `LIKE` operator over any alphabet. A pattern is a list of symbols, of which one stands for any
text and one for any single symbol; every other symbol stands for those with the same folded form.
Between two wildcards for any text, a pattern without further wildcards says that it is contained in
the text, up to folding (`accepts_contains_iff`). With a wildcard in it the pattern accepts a text
that does not contain it (`accepts_filled`,
`not_contains_of_literal`).
-/

set_option autoImplicit false
set_option relaxedAutoImplicit false

/-- The two wildcards, and the folding under which symbols are compared. -/
structure Like (α : Type) where
  many : α
  one : α
  fold : α → α

namespace Like

variable {α : Type} [DecidableEq α] (like : Like α)

/-- Whether a pattern accepts a text. -/
def accepts : List α → List α → Bool
  | [], text => text.isEmpty
  | c :: pattern, text =>
    if c = like.many then text.tails.any (accepts pattern)
    else match text with
      | [] => false
      | d :: rest => (decide (c = like.one) || decide (like.fold c = like.fold d)) &&
          accepts pattern rest

/-- Neither wildcard occurs in the pattern. -/
def Literal (pattern : List α) : Prop := like.many ∉ pattern ∧ like.one ∉ pattern

instance (pattern : List α) : Decidable (like.Literal pattern) :=
  inferInstanceAs (Decidable (_ ∧ _))

/-- A text contains another, up to folding. -/
def Contains (text part : List α) : Prop := part.map like.fold <:+: text.map like.fold

instance (text part : List α) : Decidable (like.Contains text part) :=
  inferInstanceAs (Decidable (_ <:+: _))

/-- The text that a pattern describes when its wildcards stand for as little as they can. -/
def filled (filler : α) : List α → List α
  | [] => []
  | c :: pattern =>
    if c = like.many then filled filler pattern
    else (if c = like.one then filler else c) :: filled filler pattern

variable {like} {pattern text : List α}

theorem accepts_many :
    like.accepts (like.many :: pattern) text ↔
      ∃ front rest, text = front ++ rest ∧ like.accepts pattern rest := by
  rw [accepts.eq_def]
  simp only [if_true, List.any_eq_true, List.mem_tails]
  constructor
  · rintro ⟨rest, ⟨front, hfront⟩, haccepts⟩
    exact ⟨front, rest, hfront.symm, haccepts⟩
  · rintro ⟨front, rest, htext, haccepts⟩
    exact ⟨rest, ⟨front, htext.symm⟩, haccepts⟩

theorem accepts_cons {c d : α} {rest : List α} (hmany : c ≠ like.many) :
    like.accepts (c :: pattern) (d :: rest) ↔
      (c = like.one ∨ like.fold c = like.fold d) ∧ like.accepts pattern rest := by
  rw [accepts.eq_def]
  dsimp only
  rw [if_neg hmany, Bool.and_eq_true, Bool.or_eq_true, decide_eq_true_iff, decide_eq_true_iff]

theorem not_accepts_cons_nil {c : α} (hmany : c ≠ like.many) :
    ¬ like.accepts (c :: pattern) [] := by
  rw [accepts.eq_def]
  dsimp only
  rw [if_neg hmany]
  exact Bool.false_ne_true

/-- A symbol of a pattern that is no wildcard stands for a symbol of every text that is accepted. -/
theorem exists_mem_of_accepts {c : α} (hmem : c ∈ pattern) (hmany : c ≠ like.many)
    (hone : c ≠ like.one) (haccepts : like.accepts pattern text) :
    ∃ d ∈ text, like.fold c = like.fold d := by
  induction pattern generalizing text with
  | nil => cases hmem
  | cons first pattern ih =>
    by_cases hfirst : first = like.many
    · subst hfirst
      obtain ⟨front, rest, rfl, hrest⟩ := accepts_many.mp haccepts
      obtain ⟨d, hd, hfold⟩ := ih ((List.mem_cons.mp hmem).resolve_left hmany) hrest
      exact ⟨d, List.mem_append_right front hd, hfold⟩
    · cases text with
      | nil => exact absurd haccepts (not_accepts_cons_nil hfirst)
      | cons d rest =>
        obtain ⟨hsymbol, hrest⟩ := (accepts_cons hfirst).mp haccepts
        rcases List.mem_cons.mp hmem with rfl | hlater
        · exact ⟨d, List.mem_cons_self, hsymbol.resolve_left hone⟩
        · obtain ⟨d, hd, hfold⟩ := ih hlater hrest
          exact ⟨d, List.mem_cons_of_mem _ hd, hfold⟩

/-- A pattern that ends with a wildcard for any text accepts what starts as the pattern does. -/
theorem accepts_of_start (hstart : pattern.map like.fold <+: text.map like.fold) :
    like.accepts (pattern ++ [like.many]) text := by
  induction pattern generalizing text with
  | nil => exact accepts_many.mpr ⟨text, [], (List.append_nil text).symm, rfl⟩
  | cons c pattern ih =>
    cases text with
    | nil => exact absurd (List.prefix_nil.mp hstart) (List.cons_ne_nil _ _)
    | cons d rest =>
      rw [List.map_cons, List.map_cons, List.cons_prefix_cons] at hstart
      by_cases hmany : c = like.many
      · rw [hmany]
        exact accepts_many.mpr ⟨[d], rest, rfl, ih hstart.2⟩
      · exact (accepts_cons hmany).mpr ⟨Or.inr hstart.1, ih hstart.2⟩

theorem start_of_accepts (hpattern : like.Literal pattern)
    (haccepts : like.accepts (pattern ++ [like.many]) text) :
    pattern.map like.fold <+: text.map like.fold := by
  induction pattern generalizing text with
  | nil => exact List.nil_prefix
  | cons c pattern ih =>
    obtain ⟨hmany, hmanys⟩ := not_or.mp (mt List.mem_cons.mpr hpattern.1)
    obtain ⟨hone, hones⟩ := not_or.mp (mt List.mem_cons.mpr hpattern.2)
    cases text with
    | nil => exact absurd haccepts (not_accepts_cons_nil (Ne.symm hmany))
    | cons d rest =>
      obtain ⟨hsymbol, hrest⟩ := (accepts_cons (Ne.symm hmany)).mp haccepts
      rw [List.map_cons, List.map_cons, List.cons_prefix_cons]
      exact ⟨hsymbol.resolve_left (Ne.symm hone), ih ⟨hmanys, hones⟩ hrest⟩

/-- A pattern between two wildcards for any text accepts every text that contains it. -/
theorem accepts_of_contains (hcontains : like.Contains text pattern) :
    like.accepts (like.many :: pattern ++ [like.many]) text := by
  obtain ⟨front, back, hinfix⟩ := hcontains
  obtain ⟨before, behind, rfl, hfront, hbehind⟩ :=
    List.map_eq_append_iff.mp ((List.append_assoc _ _ _).symm.trans hinfix).symm
  exact accepts_many.mpr ⟨before, behind, rfl, accepts_of_start ⟨back, hbehind.symm⟩⟩

/-- Without wildcards of its own it accepts no other text. -/
theorem accepts_contains_iff (hpattern : like.Literal pattern) :
    like.accepts (like.many :: pattern ++ [like.many]) text ↔ like.Contains text pattern := by
  refine ⟨fun haccepts ↦ ?_, accepts_of_contains⟩
  obtain ⟨front, rest, rfl, hrest⟩ := accepts_many.mp haccepts
  unfold Contains
  rw [List.map_append]
  exact (start_of_accepts hpattern hrest).isInfix.trans (List.suffix_append _ _).isInfix

theorem accepts_filled_append (filler : α) (back : List α) :
    like.accepts (pattern ++ [like.many]) (like.filled filler pattern ++ back) := by
  induction pattern with
  | nil => exact accepts_many.mpr ⟨back, [], (List.append_nil back).symm, rfl⟩
  | cons c pattern ih =>
    unfold filled
    split_ifs with hmany hone
    · rw [hmany]
      exact accepts_many.mpr ⟨[], _, rfl, ih⟩
    · rw [List.cons_append, List.cons_append, accepts_cons hmany]
      exact ⟨Or.inl hone, ih⟩
    · rw [List.cons_append, List.cons_append, accepts_cons hmany]
      exact ⟨Or.inr rfl, ih⟩

/-- A pattern between two wildcards for any text accepts the text that fills its wildcards. -/
theorem accepts_filled (filler : α) :
    like.accepts (like.many :: pattern ++ [like.many]) (like.filled filler pattern) := by
  refine accepts_many.mpr ⟨[], _, rfl, ?_⟩
  exact (List.append_nil (like.filled filler pattern)) ▸ accepts_filled_append filler []

theorem literal_filled {filler : α} (hmany : filler ≠ like.many) (hone : filler ≠ like.one) :
    like.Literal (like.filled filler pattern) := by
  induction pattern with
  | nil => exact ⟨List.not_mem_nil, List.not_mem_nil⟩
  | cons c pattern ih =>
    unfold filled
    split_ifs with hmany' hone'
    · exact ih
    · exact ⟨List.not_mem_cons_of_ne_of_not_mem hmany.symm ih.1,
        List.not_mem_cons_of_ne_of_not_mem hone.symm ih.2⟩
    · exact ⟨List.not_mem_cons_of_ne_of_not_mem (Ne.symm hmany') ih.1,
        List.not_mem_cons_of_ne_of_not_mem (Ne.symm hone') ih.2⟩

omit [DecidableEq α] in
/-- A text without the wildcards does not contain a pattern with one, when the wildcards are folded
apart from every other symbol. -/
theorem not_contains_of_literal (hfold : ∀ c, like.fold c = like.fold like.many → c = like.many)
    (hfold' : ∀ c, like.fold c = like.fold like.one → c = like.one) (htext : like.Literal text)
    (hpattern : ¬ like.Literal pattern) : ¬ like.Contains text pattern := by
  intro hcontains
  refine hpattern ⟨fun hmem ↦ ?_, fun hmem ↦ ?_⟩
  · obtain ⟨c, hc, heq⟩ := List.mem_map.mp (hcontains.subset (List.mem_map_of_mem hmem))
    exact htext.1 (hfold c heq ▸ hc)
  · obtain ⟨c, hc, heq⟩ := List.mem_map.mp (hcontains.subset (List.mem_map_of_mem hmem))
    exact htext.2 (hfold' c heq ▸ hc)

end Like
