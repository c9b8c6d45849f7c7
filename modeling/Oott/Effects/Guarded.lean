import Oott.Effects.Interleaving
import Oott.Effects.Trace

/-!
# Programs that remember their answers

What a program may call next can depend on the answers it has had. `Program.Guarded` says of a
program that each of its calls is allowed by a memory that grows with the answers; without the
memory it is `Program.Always`. In an interleaving a guarded thread stays guarded by what it recalls
of its own moves (`Interleaving.guarded`), so that each of them was allowed
(`Interleaving.allowed_of_guarded`).

`Program.Leads` says what is left of a program after some answers; the moves of a thread lead from
its program to what it still has to run (`Interleaving.leads`).

A program over a small interface is a program over a larger one: `Program.translate` makes each call
there.
-/

set_option autoImplicit false
set_option relaxedAutoImplicit false

namespace Effects

variable {E F : Interface} {α β κ : Type}

namespace Program

/-- Every call the program can still make is allowed by the memory of the answers before it. -/
def Guarded (remember : κ → (op : E.Op) → E.Response op → κ) (allowed : κ → E.Op → Prop) :
    κ → Program E α → Prop
  | _, ret _ => True
  | _, abort => True
  | memory, call op next =>
    allowed memory op ∧ ∀ response, Guarded remember allowed (remember memory op response)
      (next response)

variable {remember : κ → (op : E.Op) → E.Response op → κ} {allowed : κ → E.Op → Prop} {memory : κ}

theorem Guarded.bind {program : Program E α} {f : α → Program E β}
    (hprogram : Guarded remember allowed memory program)
    (hf : ∀ memory value, Guarded remember allowed memory (f value)) :
    Guarded remember allowed memory (program >>= f) := by
  induction program generalizing memory with
  | ret value => exact hf memory value
  | abort => trivial
  | call op next ih => exact ⟨hprogram.1, fun response ↦ ih response (hprogram.2 response)⟩

/-- Whatever the memory is, a program of allowed calls is guarded. -/
theorem Always.guarded {always : E.Op → Prop} {program : Program E α}
    (halways : program.Always always) (hallowed : ∀ memory op, always op → allowed memory op) :
    Guarded remember allowed memory program := by
  induction program generalizing memory with
  | ret value => trivial
  | abort => trivial
  | call op next ih =>
    exact ⟨hallowed _ _ halways.1, fun response ↦ ih response (halways.2 response)⟩

/-- A program of calls that the memory allows, and that do not change it, is guarded. -/
theorem Always.guarded_of_still {still : E.Op → Prop} {program : Program E α}
    (halways : program.Always still)
    (hstill : ∀ op, still op →
      allowed memory op ∧ ∀ response, remember memory op response = memory) :
    Guarded remember allowed memory program := by
  induction program with
  | ret value => trivial
  | abort => trivial
  | call op next ih =>
    obtain ⟨hallowed, hsame⟩ := hstill op halways.1
    refine ⟨hallowed, fun response ↦ ?_⟩
    rw [hsame response]
    exact ih response (halways.2 response)

/-- Such calls come before a guarded program. -/
theorem Always.guarded_bind {still : E.Op → Prop} {program : Program E α} {f : α → Program E β}
    (halways : program.Always still)
    (hstill : ∀ op, still op →
      allowed memory op ∧ ∀ response, remember memory op response = memory)
    (hf : ∀ value, Guarded remember allowed memory (f value)) :
    Guarded remember allowed memory (program >>= f) := by
  induction program with
  | ret value => exact hf value
  | abort => trivial
  | call op next ih =>
    obtain ⟨hallowed, hsame⟩ := hstill op halways.1
    refine ⟨hallowed, fun response ↦ ?_⟩
    rw [hsame response]
    exact ih response (halways.2 response)

theorem Guarded.forM {members : List α} {f : α → Program E Unit}
    (hf : ∀ memory member, Guarded remember allowed memory (f member)) :
    Guarded remember allowed memory (members.forM f) := by
  induction members generalizing memory with
  | nil => trivial
  | cons member rest ih => exact (hf memory member).bind fun _ _ ↦ ih

/-- What is left of a program once its calls have had some answers, in order. -/
inductive Leads : Program E α → List (Answer E) → Program E α → Prop
  | start (program : Program E α) : Leads program [] program
  | call {op : E.Op} {next : E.Response op → Program E α} {response : E.Response op}
      {answers : List (Answer E)} {rest : Program E α}
      (hrest : Leads (next response) answers rest) :
      Leads (.call op next) (⟨op, response⟩ :: answers) rest

theorem Leads.append {program : Program E α} {answers : List (Answer E)} {op : E.Op}
    {next : E.Response op → Program E α}
    (hleads : Leads program answers (.call op next)) (response : E.Response op) :
    Leads program (answers ++ [⟨op, response⟩]) (next response) := by
  generalize hrest : Program.call op next = rest at hleads
  induction hleads with
  | start =>
    subst hrest
    exact .call (.start _)
  | call _ ih => exact .call (ih hrest)

/-- A program that has ended has had no more answers. -/
theorem leads_ret_iff {value : α} {answers : List (Answer E)} {rest : Program E α} :
    Leads (.ret value) answers rest ↔ answers = [] ∧ rest = .ret value := by
  constructor
  · rintro (_ | _)
    exact ⟨rfl, rfl⟩
  · rintro ⟨rfl, rfl⟩
    exact .start _

/-- A call that has led to an end has been answered. -/
theorem leads_call_ret_iff {op : E.Op} {next : E.Response op → Program E α}
    {answers : List (Answer E)} {value : α} :
    Leads (.call op next) answers (.ret value) ↔
      ∃ response rest, answers = ⟨op, response⟩ :: rest ∧
        Leads (next response) rest (.ret value) := by
  constructor
  · rintro (_ | hrest)
    exact ⟨_, _, rfl, hrest⟩
  · rintro ⟨response, rest, rfl, hrest⟩
    exact .call hrest

end Program

/-! ### In an interleaving -/

section Interleavings

variable {ι σ : Type} {α : ι → Type} [DecidableEq ι] {transition : Transition E σ}
  {start last : Configuration E ι α σ} {trace : List (Move E ι α σ)}
  (remember : κ → (op : E.Op) → E.Response op → κ) (memory : κ)

/-- What a thread recalls of its own moves. -/
def recalled (i : ι) : List (Move E ι α σ) → κ
  | [] => memory
  | move :: earlier =>
    if move.thread = i then remember (recalled i earlier) move.op move.response
    else recalled i earlier

variable {remember memory} {allowed : κ → E.Op → Prop} {i : ι}

theorem recalled_cons_self {move : Move E ι α σ} {earlier : List (Move E ι α σ)}
    (hi : move.thread = i) :
    recalled remember memory i (move :: earlier) =
      remember (recalled remember memory i earlier) move.op move.response := if_pos hi

theorem recalled_cons_of_ne {move : Move E ι α σ} {earlier : List (Move E ι α σ)}
    (hi : move.thread ≠ i) :
    recalled remember memory i (move :: earlier) = recalled remember memory i earlier := if_neg hi

/-- A guarded thread stays guarded by what it recalls. -/
theorem Interleaving.guarded
    (hstart : (start.threads i).Guarded remember allowed memory)
    (hrun : Interleaving transition start trace last) :
    (last.threads i).Guarded remember allowed (recalled remember memory i trace) := by
  induction hrun with
  | start => exact hstart
  | @step trace move after hbefore hstep ih =>
    by_cases hi : move.thread = i
    · subst hi
      obtain ⟨next, hthread, -, hafter⟩ := hstep.exists_next
      rw [hthread] at ih
      rw [hafter, recalled_cons_self rfl]
      exact ih.2 _
    · rw [hstep.threads_of_ne (Ne.symm hi), recalled_cons_of_ne hi]
      exact ih

/-- A move of a guarded thread is allowed by what the thread recalls. -/
theorem Step.allowed_of_guarded {move : Move E ι α σ} {after : Configuration E ι α σ}
    (hguarded : (move.before.threads move.thread).Guarded remember allowed memory)
    (hstep : Step transition move after) : allowed memory move.op := by
  obtain ⟨next, hthread, -, -⟩ := hstep.exists_next
  rw [hthread] at hguarded
  exact hguarded.1

/-- A move of a thread is one of the calls that the thread can always make. -/
theorem Interleaving.allowed_of_always {always : E.Op → Prop} {move : Move E ι α σ}
    {after : Configuration E ι α σ} (hbefore : Interleaving transition start trace move.before)
    (halways : (start.threads move.thread).Always always)
    (hstep : Step transition move after) : always move.op := by
  have hguarded : (start.threads move.thread).Guarded (fun (_ : Unit) _ _ ↦ ()) (fun _ ↦ always)
      () := halways.guarded fun _ _ hop ↦ hop
  exact Step.allowed_of_guarded (hbefore.guarded hguarded) hstep

/-- The call of a move and its response. -/
def Move.answer (move : Move E ι α σ) : Answer E := ⟨move.op, move.response⟩

/-- The moves of a thread, the latest first. -/
def movesOf (i : ι) (trace : List (Move E ι α σ)) : List (Move E ι α σ) :=
  trace.filter fun move ↦ move.thread = i

section Moves

variable {moves : List (Move E ι α σ)} {first second : Answer E}

omit [DecidableEq ι] in
/-- A single move, by its answer. -/
theorem eq_singleton_of_answers (hanswers : moves.reverse.map Move.answer = [first]) :
    ∃ move, moves = [move] ∧ move.answer = first := by
  obtain ⟨move, hreverse, hanswer⟩ := List.map_eq_singleton_iff.mp hanswers
  exact ⟨move, by simpa using congrArg List.reverse hreverse, hanswer⟩

omit [DecidableEq ι] in
/-- Two moves by their answers, the later one first. -/
theorem eq_pair_of_answers (hanswers : moves.reverse.map Move.answer = [first, second]) :
    ∃ later earlier, moves = [later, earlier] ∧ earlier.answer = first ∧
      later.answer = second := by
  obtain ⟨earlier, rest, hreverse, hfirst, hrest⟩ := List.map_eq_cons_iff.mp hanswers
  obtain ⟨later, rfl, hsecond⟩ := List.map_eq_singleton_iff.mp hrest
  exact ⟨later, earlier, by simpa using congrArg List.reverse hreverse, hfirst, hsecond⟩

/-- The trace around the two moves of a thread. -/
theorem split_of_movesOf {i : ι} {later earlier : Move E ι α σ}
    (hmoves : movesOf i trace = [later, earlier]) :
    ∃ after middle before, trace = after ++ later :: (middle ++ earlier :: before) := by
  obtain ⟨after, rest, rfl, -, -, hrest⟩ := List.filter_eq_cons_iff.mp hmoves
  obtain ⟨middle, before, rfl, -, -, -⟩ := List.filter_eq_cons_iff.mp hrest
  exact ⟨after, middle, before, rfl⟩

end Moves

/-- The answers that a thread has had lead to what it still has to run. -/
theorem Interleaving.leads (hrun : Interleaving transition start trace last) (i : ι) :
    (start.threads i).Leads ((movesOf i trace).reverse.map Move.answer) (last.threads i) := by
  induction hrun with
  | start => exact .start _
  | @step trace move after hbefore hstep ih =>
    by_cases hi : move.thread = i
    · have hmoves : movesOf i (move :: trace) = move :: movesOf i trace :=
        List.filter_cons_of_pos (by simpa using hi)
      subst hi
      obtain ⟨next, hthread, -, hafter⟩ := hstep.exists_next
      rw [hthread] at ih
      rw [hafter, hmoves, List.reverse_cons, List.map_append]
      exact ih.append move.response
    · have hmoves : movesOf i (move :: trace) = movesOf i trace :=
        List.filter_cons_of_neg (by simpa using hi)
      rw [hstep.threads_of_ne (Ne.symm hi), hmoves]
      exact ih

/-- A run is cut at any of its moves. -/
theorem Interleaving.split {later earlier : List (Move E ι α σ)} {move : Move E ι α σ}
    (hrun : Interleaving transition start (later ++ move :: earlier) last) :
    Interleaving transition start earlier move.before ∧
      ∃ after, Step transition move after ∧
        Interleaving transition start (move :: earlier) after := by
  induction later generalizing last with
  | nil =>
    obtain _ | ⟨hbefore, hstep⟩ := hrun
    exact ⟨hbefore, last, hstep, .step hbefore hstep⟩
  | cons latest later ih =>
    obtain _ | ⟨hbefore, -⟩ := hrun
    exact ih hbefore

end Interleavings

/-! ### In a larger interface -/

/-- How the calls of an interface are made in another one. -/
structure Embedding (E F : Interface) where
  op : E.Op → F.Op
  response : (call : E.Op) → F.Response (op call) → E.Response call

namespace Program

/-- The program in the larger interface. -/
def translate (embedding : Embedding E F) : Program E α → Program F α
  | ret value => ret value
  | abort => abort
  | call op next => call (embedding.op op) fun response ↦
      translate embedding (next (embedding.response op response))

variable {embedding : Embedding E F}

/-- The translation of a sequence is the sequence of the translations. -/
theorem translate_bind (program : Program E α) (f : α → Program E β) :
    (program >>= f).translate embedding =
      program.translate embedding >>= fun value ↦ (f value).translate embedding := by
  induction program with
  | ret value => rfl
  | abort => rfl
  | call op next ih => exact congrArg (call _) (funext fun response ↦ ih _)

theorem translate_forM (members : List α) (f : α → Program E Unit) :
    (members.forM f).translate embedding =
      members.forM fun member ↦ (f member).translate embedding := by
  induction members with
  | nil => rfl
  | cons member rest ih =>
    change (f member >>= fun _ ↦ rest.forM f).translate embedding = _
    rw [translate_bind]
    exact congrArg (bind _) (funext fun _ ↦ ih)

end Program

end Effects
