import Mathlib.Data.List.Nodup
import Mathlib.Data.List.Pairwise
import Mathlib.Data.Nat.Find
import Mathlib.Order.Lattice
import Mathlib.Tactic.Common

/-!
# Ordered answers and their pages

An `ORDER BY` is a list of terms, compared one after another. It fixes the answer to a query only up
to rows that are equal in every term: any permutation of the rows that respects the terms is an
answer (`Answers`), and two queries for the same rows may get two of them. A client that pages
through a list asks one query a page, so that the pages come from different answers.

`pagesPartition_iff` says when that goes well, whatever the answers: a row is first on every page,
that is, no rows that the terms leave tied straddle the boundary between two pages. An order that
tells all rows apart always does (`pagesPartition_of_distinguishes`).
-/

set_option autoImplicit false
set_option relaxedAutoImplicit false

namespace Query

variable {α κ : Type} [LinearOrder κ]

/-! ### `ORDER BY` -/

/-- One term of an `ORDER BY`. -/
structure SortTerm (α κ : Type) where
  key : α → κ
  descending : Bool

/-- The term puts a row strictly before another. -/
def SortTerm.Before (term : SortTerm α κ) (first second : α) : Prop :=
  if term.descending then term.key second < term.key first else term.key first < term.key second

instance (term : SortTerm α κ) (first second : α) : Decidable (term.Before first second) :=
  inferInstanceAs (Decidable (ite _ _ _))

/-- The terms allow a row to come before another. -/
def Precedes : List (SortTerm α κ) → α → α → Prop
  | [], _, _ => True
  | term :: terms, first, second =>
    term.Before first second ∨ term.key first = term.key second ∧ Precedes terms first second

instance decidablePrecedes : (terms : List (SortTerm α κ)) → DecidableRel (Precedes terms)
  | [], _, _ => inferInstanceAs (Decidable True)
  | _ :: terms, first, second =>
    have : Decidable (Precedes terms first second) := decidablePrecedes terms first second
    inferInstanceAs (Decidable (_ ∨ _ ∧ _))

/-- The terms tell any two of the rows apart. -/
def Distinguishes (terms : List (SortTerm α κ)) (rows : List α) : Prop :=
  ∀ first ∈ rows, ∀ second ∈ rows,
    (∀ term ∈ terms, term.key first = term.key second) → first = second

section Terms

variable {term : SortTerm α κ} {terms : List (SortTerm α κ)} {first second third : α}

theorem SortTerm.Before.trans (h : term.Before first second) (h' : term.Before second third) :
    term.Before first third := by
  unfold SortTerm.Before at h h' ⊢
  cases hdirection : term.descending with
  | false =>
    rw [hdirection] at h h'
    exact lt_trans (α := κ) h h'
  | true =>
    rw [hdirection] at h h'
    exact lt_trans (α := κ) h' h

theorem SortTerm.before_trichotomy (term : SortTerm α κ) (first second : α) :
    term.Before first second ∨ term.key first = term.key second ∨ term.Before second first := by
  unfold SortTerm.Before
  cases term.descending with
  | false => exact lt_trichotomy _ _
  | true => exact (lt_trichotomy _ _).elim (Or.inr ∘ Or.inr) fun h ↦
      h.elim (Or.inr ∘ Or.inl) Or.inl

theorem Precedes.trans (h : Precedes terms first second) (h' : Precedes terms second third) :
    Precedes terms first third := by
  induction terms with
  | nil => trivial
  | cons term terms ih =>
    rcases h with h | ⟨heq, hrest⟩
    · rcases h' with h' | ⟨heq', -⟩
      · exact Or.inl (h.trans h')
      · unfold SortTerm.Before at h
        rw [heq'] at h
        exact Or.inl h
    · rcases h' with h' | ⟨heq', hrest'⟩
      · unfold SortTerm.Before at h'
        rw [← heq] at h'
        exact Or.inl h'
      · exact Or.inr ⟨heq.trans heq', ih hrest hrest'⟩

theorem precedes_total (terms : List (SortTerm α κ)) (first second : α) :
    Precedes terms first second ∨ Precedes terms second first := by
  induction terms with
  | nil => exact Or.inl trivial
  | cons term terms ih =>
    rcases term.before_trichotomy first second with hlt | heq | hgt
    · exact Or.inl (Or.inl hlt)
    · exact ih.imp (fun h ↦ Or.inr ⟨heq, h⟩) fun h ↦ Or.inr ⟨heq.symm, h⟩
    · exact Or.inr (Or.inl hgt)

theorem SortTerm.Before.asymm (h : term.Before first second) : ¬ term.Before second first := by
  unfold SortTerm.Before at h ⊢
  cases hdirection : term.descending with
  | false =>
    rw [hdirection] at h
    exact lt_asymm (α := κ) h
  | true =>
    rw [hdirection] at h
    exact lt_asymm (α := κ) h

theorem SortTerm.not_before_of_eq (heq : term.key first = term.key second) :
    ¬ term.Before first second := by
  unfold SortTerm.Before
  rw [heq, ite_self]
  exact lt_irrefl _

/-- Rows that may come in either order are equal in every term. -/
theorem key_eq_of_precedes (h : Precedes terms first second) (h' : Precedes terms second first) :
    ∀ term ∈ terms, term.key first = term.key second := by
  induction terms with
  | nil => exact List.forall_mem_nil _
  | cons term terms ih =>
    rcases h with h | ⟨heq, hrest⟩
    · rcases h' with h' | ⟨heq', -⟩
      · exact absurd h' h.asymm
      · exact absurd h (SortTerm.not_before_of_eq heq'.symm)
    · have hrest' := h'.resolve_left (SortTerm.not_before_of_eq heq.symm)
      exact List.forall_mem_cons.mpr ⟨heq, ih hrest hrest'.2⟩

end Terms

/-! ### Answers and pages -/

/-- An answer to a query for the rows: they all, in an order that the terms allow. -/
structure Answers (terms : List (SortTerm α κ)) (rows answer : List α) : Prop where
  perm : answer.Perm rows
  ordered : answer.Pairwise (Precedes terms)

/-- The rows that come strictly before a row. -/
def countBefore (terms : List (SortTerm α κ)) (rows : List α) (row : α) : ℕ :=
  rows.countP fun other ↦ ¬ Precedes terms row other

/-- A client that asks for the pages at the offsets 0, `size`, 2 `size` and so on until one is empty
has got every row once, whatever pages it was given. -/
def PagesPartition (pageAt : ℕ → List α → Prop) (size : ℕ) (rows : List α) : Prop :=
  ∀ pages : ℕ → List α, (∀ index, pageAt (index * size) (pages index)) →
    ∃ count, pages count = [] ∧ (∀ index < count, pages index ≠ []) ∧
      ((List.range count).flatMap pages).Perm rows

/-- A page of an answer. -/
def PageOf (terms : List (SortTerm α κ)) (rows : List α) (size offset : ℕ) (page : List α) : Prop :=
  ∃ answer, Answers terms rows answer ∧ page = (answer.drop offset).take size

section Answers

variable {terms : List (SortTerm α κ)} {rows answer other : List α} {size : ℕ}

/-- A stable sort gives an answer. -/
theorem answers_mergeSort (terms : List (SortTerm α κ)) (rows : List α) :
    Answers terms rows (rows.mergeSort fun first second ↦ Precedes terms first second) := by
  refine ⟨List.mergeSort_perm _ _, (List.pairwise_mergeSort ?_ ?_ _).imp of_decide_eq_true⟩
  · intro first second third h h'
    exact decide_eq_true ((of_decide_eq_true h).trans (of_decide_eq_true h'))
  · intro first second
    rw [Bool.or_eq_true, decide_eq_true_iff, decide_eq_true_iff]
    exact precedes_total terms first second

/-- There is an answer. -/
theorem exists_answers (terms : List (SortTerm α κ)) (rows : List α) :
    ∃ answer, Answers terms rows answer := ⟨_, answers_mergeSort terms rows⟩

/-- An answer cut before the row at an offset. -/
theorem exists_answers_split (terms : List (SortTerm α κ)) {offset : ℕ}
    (hoffset : offset < rows.length) :
    ∃ earlier row later, Answers terms rows (earlier ++ row :: later) ∧
      earlier.length = offset := by
  obtain ⟨answer, hanswer⟩ := exists_answers terms rows
  have hlength : offset < answer.length := hanswer.perm.length_eq ▸ hoffset
  refine ⟨answer.take offset, answer[offset], answer.drop (offset + 1), ?_,
    List.length_take_of_le (Nat.le_of_lt hlength)⟩
  rwa [← List.drop_eq_getElem_cons hlength, List.take_append_drop]

/-- The rows strictly before some row are the first ones of an answer. -/
theorem filter_before_eq_take {row : α} (hordered : answer.Pairwise (Precedes terms)) :
    (answer.filter fun other ↦ ¬ Precedes terms row other) =
      answer.take (answer.countP fun other ↦ ¬ Precedes terms row other) := by
  induction answer with
  | nil => rfl
  | cons first rest ih =>
    obtain ⟨hfirst, hrest⟩ := List.pairwise_cons.mp hordered
    by_cases hbefore : Precedes terms row first
    · -- From here on no row comes strictly before the given one.
      have hnone : ∀ other ∈ first :: rest, ¬ ¬ Precedes terms row other := by
        refine List.forall_mem_cons.mpr ⟨not_not.mpr hbefore, fun other hother ↦ ?_⟩
        exact not_not.mpr (hbefore.trans (hfirst other hother))
      have hcount : (first :: rest).countP (fun other ↦ ¬ Precedes terms row other) = 0 :=
        List.countP_eq_zero.mpr fun other hother ↦ by simpa using hnone other hother
      rw [hcount, List.take_zero, List.filter_eq_nil_iff]
      exact fun other hother ↦ by simpa using hnone other hother
    · rw [List.filter_cons_of_pos (by simpa using hbefore),
        List.countP_cons_of_pos (by simpa using hbefore), List.take_succ_cons, ih hrest]

/-- Any two answers begin with the same rows, up to a row that as many rows come before. -/
theorem take_perm {row : α} (hanswer : Answers terms rows answer)
    (hother : Answers terms rows other) :
    (answer.take (countBefore terms rows row)).Perm (other.take (countBefore terms rows row)) := by
  have hfirst {list : List α} (hlist : Answers terms rows list) :
      list.take (countBefore terms rows row) =
        list.filter fun other ↦ ¬ Precedes terms row other := by
    unfold countBefore
    rw [filter_before_eq_take hlist.ordered, hlist.perm.countP_eq]
  rw [hfirst hanswer, hfirst hother]
  exact (hanswer.perm.trans hother.perm.symm).filter _

/-- On every page some row is the first, whatever the answer. -/
def FirstOnPages (terms : List (SortTerm α κ)) (rows : List α) (size : ℕ) : Prop :=
  ∀ index, index * size < rows.length → ∃ row ∈ rows, countBefore terms rows row = index * size

/-- The pages up to a boundary are the rows up to it, if they come from answers. -/
theorem flatMap_pages_perm (hfirst : FirstOnPages terms rows size) {pages : ℕ → List α}
    (hpages : ∀ index, PageOf terms rows size (index * size) (pages index))
    (hanswer : Answers terms rows answer) (count : ℕ) :
    ((List.range count).flatMap pages).Perm (answer.take (count * size)) := by
  induction count generalizing answer with
  | zero => simp
  | succ count ih =>
    obtain ⟨own, hown, hpage⟩ := hpages count
    have hwhole : ((List.range (count + 1)).flatMap pages).Perm
        (own.take ((count + 1) * size)) := by
      rw [List.range_succ, List.flatMap_append, List.flatMap_singleton, hpage, Nat.succ_mul,
        List.take_add]
      exact (ih hown).append_right _
    refine hwhole.trans ?_
    by_cases hboundary : (count + 1) * size < rows.length
    · obtain ⟨row, -, hrow⟩ := hfirst (count + 1) hboundary
      rw [← hrow]
      exact take_perm hown hanswer
    · have hle := Nat.le_of_not_lt hboundary
      rw [List.take_of_length_le (hown.perm.length_eq ▸ hle),
        List.take_of_length_le (hanswer.perm.length_eq ▸ hle)]
      exact hown.perm.trans hanswer.perm.symm

/-- A page has rows exactly when it begins before the end. -/
theorem PageOf.eq_nil_iff (hsize : 0 < size) {offset : ℕ} {page : List α}
    (hpage : PageOf terms rows size offset page) : page = [] ↔ rows.length ≤ offset := by
  obtain ⟨answer, hanswer, rfl⟩ := hpage
  rw [List.take_eq_nil_iff, List.drop_eq_nil_iff, hanswer.perm.length_eq]
  exact or_iff_right (Nat.ne_of_gt hsize)

/-- With a row that is first on every page, paging gives every row once. -/
theorem pagesPartition_of_firstOnPages (hsize : 0 < size)
    (hfirst : FirstOnPages terms rows size) :
    PagesPartition (PageOf terms rows size) size rows := by
  intro pages hpages
  have hend : ∃ count, rows.length ≤ count * size := ⟨rows.length, Nat.le_mul_of_pos_right _ hsize⟩
  refine ⟨Nat.find hend, ((hpages _).eq_nil_iff hsize).mpr (Nat.find_spec hend),
    fun index hindex hnil ↦ ?_, ?_⟩
  · exact Nat.find_min hend hindex (((hpages index).eq_nil_iff hsize).mp hnil)
  · obtain ⟨answer, hanswer⟩ := exists_answers terms rows
    refine (flatMap_pages_perm hfirst hpages hanswer _).trans ?_
    have hle : answer.length ≤ Nat.find hend * size := by
      rw [hanswer.perm.length_eq]
      exact Nat.find_spec hend
    rw [List.take_of_length_le hle]
    exact hanswer.perm

/-- Two rows next to each other that the terms leave tied may be exchanged. -/
theorem Answers.swap {before after : List α} {first second : α}
    (hanswer : Answers terms rows (before ++ first :: second :: after))
    (htied : Precedes terms second first) :
    Answers terms rows (before ++ second :: first :: after) where
  perm := ((List.Perm.swap first second after).append_left before).trans hanswer.perm
  ordered := by
    have hordered := hanswer.ordered
    rw [List.pairwise_append, List.pairwise_cons, List.pairwise_cons] at hordered ⊢
    simp only [List.forall_mem_cons] at hordered ⊢
    obtain ⟨hbefore, ⟨⟨-, hfirst⟩, hsecond, hafter⟩, hcross⟩ := hordered
    refine ⟨hbefore, ⟨⟨htied, hsecond⟩, hfirst, hafter⟩, fun row hrow ↦ ?_⟩
    obtain ⟨hrowFirst, hrowSecond, hrowAfter⟩ := hcross row hrow
    exact ⟨hrowSecond, hrowFirst, hrowAfter⟩

/-- A row is on the page that begins at most a page before it. -/
theorem mem_page {before after : List α} {row : α} {offset : ℕ} (hle : offset ≤ before.length)
    (hlt : before.length < offset + size) :
    row ∈ ((before ++ row :: after).drop offset).take size := by
  rw [List.drop_append_of_le_length hle, List.take_append, List.mem_append, List.length_drop]
  right
  obtain ⟨kept, hkept⟩ : ∃ kept, size - (before.length - offset) = kept + 1 :=
    Nat.exists_eq_succ_of_ne_zero (by omega)
  rw [hkept, List.take_succ_cons]
  exact List.mem_cons_self

/-- No row is on two of the pages that together have different rows once. -/
theorem not_mem_later_page (hrows : rows.Nodup) {pages : ℕ → List α} {count first second : ℕ}
    (hperm : ((List.range count).flatMap pages).Perm rows) (hlt : first < second)
    (hcount : second < count) {row : α} (hrow : row ∈ pages first) : row ∉ pages second := by
  have hdisjoint := (List.nodup_flatMap.mp (hperm.symm.nodup hrows)).2
  rw [List.pairwise_iff_getElem] at hdisjoint
  have hpair := hdisjoint first second (by rw [List.length_range]; omega)
    (by rw [List.length_range]; omega) hlt
  rw [List.getElem_range, List.getElem_range] at hpair
  exact fun hlater ↦ hpair hrow hlater

/-- When the rows on both sides of a boundary are tied, a client may get one of them twice. -/
theorem not_pagesPartition_of_tied (hsize : 0 < size) (hrows : rows.Nodup)
    {before after : List α} {last first : α} {index : ℕ}
    (hanswer : Answers terms rows (before ++ last :: first :: after))
    (hboundary : before.length + 1 = (index + 1) * size) (htied : Precedes terms first last) :
    ¬ PagesPartition (PageOf terms rows size) size rows := by
  intro hpartition
  let answer := before ++ last :: first :: after
  let swapped := before ++ first :: last :: after
  have hswapped : Answers terms rows swapped := hanswer.swap htied
  -- The pages up to the boundary come from one answer and the later ones from the other.
  let pages : ℕ → List α := fun page ↦
    ((if page ≤ index then answer else swapped).drop (page * size)).take size
  have hpages : ∀ page, PageOf terms rows size (page * size) (pages page) := by
    intro page
    by_cases hpage : page ≤ index
    · exact ⟨answer, hanswer, by simp only [pages, if_pos hpage]⟩
    · exact ⟨swapped, hswapped, by simp only [pages, if_neg hpage]⟩
  obtain ⟨count, hcount, -, hperm⟩ := hpartition pages hpages
  have hlength : rows.length = before.length + 2 + after.length := by
    rw [← hanswer.perm.length_eq]
    simp only [List.length_append, List.length_cons]
    omega
  have hreached : index + 1 < count := by
    rw [(hpages count).eq_nil_iff hsize, hlength] at hcount
    by_contra hle
    have hmul : count * size ≤ (index + 1) * size :=
      Nat.mul_le_mul_right size (Nat.le_of_not_lt hle)
    omega
  have hsucc : (index + 1) * size = index * size + size := Nat.succ_mul index size
  have hearlier : last ∈ pages index := by
    simp only [pages, if_pos (Nat.le_refl index)]
    exact mem_page (by omega) (by omega)
  have hlater : last ∈ pages (index + 1) := by
    have happend : swapped = (before ++ [first]) ++ last :: after := by simp [swapped]
    have hlength : (before ++ [first]).length = (index + 1) * size := by
      rw [List.length_append, List.length_singleton, hboundary]
    simp only [pages, if_neg (Nat.not_succ_le_self index)]
    rw [happend]
    exact mem_page (by omega) (by omega)
  exact not_mem_later_page hrows hperm (Nat.lt_succ_self index) hreached hearlier hlater

/-- The rows before a row in an answer, if none of them is tied with it, are those strictly before
it. -/
theorem Answers.countBefore_eq {earlier later : List α} {row : α}
    (hanswer : Answers terms rows (earlier ++ row :: later))
    (huntied : ∀ other ∈ earlier, ¬ Precedes terms row other) :
    countBefore terms rows row = earlier.length := by
  obtain ⟨-, hfromRow, -⟩ := List.pairwise_append.mp hanswer.ordered
  have hlater : ∀ other ∈ row :: later, Precedes terms row other := by
    refine List.forall_mem_cons.mpr ⟨?_, (List.pairwise_cons.mp hfromRow).1⟩
    exact (precedes_total terms row row).elim id id
  unfold countBefore
  rw [← hanswer.perm.countP_eq, List.countP_append,
    List.countP_eq_length.mpr fun other hother ↦ by simpa using huntied other hother,
    List.countP_eq_zero.mpr fun other hother ↦ by simpa using hlater other hother, Nat.add_zero]

/-- If paging gives every one of different rows once, some row is the first on every page. -/
theorem firstOnPages_of_pagesPartition (hsize : 0 < size) (hrows : rows.Nodup)
    (hpartition : PagesPartition (PageOf terms rows size) size rows) :
    FirstOnPages terms rows size := by
  intro boundary hboundary
  obtain ⟨earlier, row, later, hanswer, hearlier⟩ := exists_answers_split terms hboundary
  refine ⟨row, hanswer.perm.mem_iff.mp (by simp), ?_⟩
  rw [hanswer.countBefore_eq fun other hother hprecedes ↦ ?_, hearlier]
  -- The last row before the boundary is then tied with the first one after it.
  obtain ⟨before, last, rfl⟩ := List.eq_nil_or_concat' earlier |>.resolve_left
    (List.ne_nil_of_mem hother)
  have htied : Precedes terms row last := by
    rcases List.mem_append.mp hother with hmem | hmem
    · have hordered := (List.pairwise_append.mp hanswer.ordered).1
      have hlast := (List.pairwise_append.mp hordered).2.2 other hmem last
        (List.mem_singleton_self last)
      exact hprecedes.trans hlast
    · rwa [← List.mem_singleton.mp hmem]
  rw [List.length_append, List.length_singleton] at hearlier
  obtain ⟨index, rfl⟩ : ∃ index, boundary = index + 1 := by
    refine Nat.exists_eq_succ_of_ne_zero fun hzero ↦ ?_
    rw [hzero, Nat.zero_mul] at hearlier
    exact absurd hearlier (Nat.succ_ne_zero _)
  rw [List.append_assoc] at hanswer
  exact not_pagesPartition_of_tied hsize hrows hanswer hearlier htied hpartition

/-- Paging through different rows gives every one of them once, whatever the answers, exactly when
some row is the first on every page. -/
theorem pagesPartition_iff (hsize : 0 < size) (hrows : rows.Nodup) :
    PagesPartition (PageOf terms rows size) size rows ↔ FirstOnPages terms rows size :=
  ⟨firstOnPages_of_pagesPartition hsize hrows, pagesPartition_of_firstOnPages hsize⟩

/-- An order that tells different rows apart has a row that is first on every page. -/
theorem firstOnPages_of_distinguishes (hrows : rows.Nodup)
    (hdistinguishes : Distinguishes terms rows) : FirstOnPages terms rows size := by
  intro boundary hboundary
  obtain ⟨earlier, row, later, hanswer, hearlier⟩ := exists_answers_split terms hboundary
  have hrow : row ∈ rows := hanswer.perm.mem_iff.mp (by simp)
  refine ⟨row, hrow, ?_⟩
  rw [hanswer.countBefore_eq fun other hother hprecedes ↦ ?_, hearlier]
  have hcross := (List.pairwise_append.mp hanswer.ordered).2.2 other hother row List.mem_cons_self
  have hsame : row = other := hdistinguishes row hrow other
    (hanswer.perm.mem_iff.mp (List.mem_append_left _ hother)) (key_eq_of_precedes hprecedes hcross)
  have hnodup := List.nodup_append.mp (hanswer.perm.symm.nodup hrows)
  exact hnodup.2.2 other hother row List.mem_cons_self hsame.symm

/-- Paging in an order that tells different rows apart gives every one of them once. -/
theorem pagesPartition_of_distinguishes (hsize : 0 < size) (hrows : rows.Nodup)
    (hdistinguishes : Distinguishes terms rows) :
    PagesPartition (PageOf terms rows size) size rows :=
  pagesPartition_of_firstOnPages hsize (firstOnPages_of_distinguishes hrows hdistinguishes)

end Answers

end Query
