import Mathlib.Data.List.Flatten
import Mathlib.Data.List.Perm.Subperm
import Mathlib.Logic.Function.Basic
import Mathlib.Tactic.Common
import Mathlib.Algebra.Order.Group.Unbundled.Int

/-!
# Rate limiting

`push_relay/src/rateLimit.ts`: a counter for each key that starts again with the first call at least
a window's length after the one that opened the window. A refused call is counted too. The counter
of a key depends on the calls of that key only, whichever of the two stores keeps it
(`RateLimitStore.Counts`); so the calls of a key split into windows (`checkAll_windows`), each of
which allows its first calls up to the limit.

Times are in milliseconds, and a transaction of the document store is one step.
-/

set_option autoImplicit false
set_option relaxedAutoImplicit false

namespace Oott.PushRelay

/-- `RateLimitOptions`. -/
structure RateLimitOptions where
  limit : ℕ
  windowMs : Int

/-- `DEFAULT_RATE_LIMIT`. -/
def defaultRateLimit : RateLimitOptions := ⟨300, 60 * 60 * 1000⟩

/-- `RateLimitStore`: `hit` records a call and returns the running count. -/
structure RateLimitStore (σ : Type) where
  hit : String → Int → Int → σ → ℕ × σ

/-- `RateLimitDecision`. -/
structure RateLimitDecision where
  allowed : Bool
  count : ℕ
deriving DecidableEq

/-- `checkRateLimit`. -/
def checkRateLimit {σ : Type} (store : RateLimitStore σ) (key : String)
    (options : RateLimitOptions) (now : Int) (state : σ) : RateLimitDecision × σ :=
  let (count, state) := store.hit key options.windowMs now state
  (⟨decide (count ≤ options.limit), count⟩, state)

/-- `WindowState`. -/
structure WindowState where
  count : ℕ
  windowStart : Int
deriving DecidableEq

/-- `nextWindow`. -/
def nextWindow (previous : Option WindowState) (windowMs now : Int) : WindowState :=
  match previous with
  | some previous =>
    if now - previous.windowStart < windowMs then ⟨previous.count + 1, previous.windowStart⟩
    else ⟨1, now⟩
  | none => ⟨1, now⟩

/-- `InMemoryRateLimitStore`. -/
def inMemoryRateLimitStore : RateLimitStore (String → Option WindowState) where
  hit key windowMs now windows :=
    let state := nextWindow (windows key) windowMs now
    (state.count, Function.update windows key (some state))

/-- `createFirestoreRateLimitStore`, where `doc` is the document the store keeps for a key, that
of the encoded key in its collection. -/
def createFirestoreRateLimitStore {Ref : Type} [DecidableEq Ref] (doc : String → Ref) :
    RateLimitStore (Ref → Option WindowState) where
  hit key windowMs now documents :=
    let ref := doc key
    let state := nextWindow (documents ref) windowMs now
    (state.count, Function.update documents ref (some state))

/-! ### Sequences of calls -/

/-- A call of `checkRateLimit`. -/
structure RateLimitCall where
  key : String
  now : Int
deriving DecidableEq

/-- A call and what was decided on it. -/
abbrev Checked := RateLimitCall × RateLimitDecision

/-- The calls one after the other, each with its decision. -/
def checkAll {σ : Type} (store : RateLimitStore σ) (options : RateLimitOptions) :
    List RateLimitCall → σ → List Checked
  | [], _ => []
  | call :: rest, state =>
    let (decision, state) := checkRateLimit store call.key options call.now state
    (call, decision) :: checkAll store options rest state

/-- What a store keeps for each key: a call moves the entry of its key to the next window state and
leaves the others alone. -/
structure RateLimitStore.Counts {σ : Type} (store : RateLimitStore σ)
    (entry : σ → String → Option WindowState) : Prop where
  count : ∀ key windowMs now state,
    (store.hit key windowMs now state).1 = (nextWindow (entry state key) windowMs now).count
  entry_self : ∀ key windowMs now state,
    entry (store.hit key windowMs now state).2 key =
      some (nextWindow (entry state key) windowMs now)
  entry_other : ∀ key windowMs now state other, other ≠ key →
    entry (store.hit key windowMs now state).2 other = entry state other

theorem inMemoryRateLimitStore_counts : inMemoryRateLimitStore.Counts fun windows ↦ windows where
  count _ _ _ _ := rfl
  entry_self key _ _ windows := Function.update_self key _ windows
  entry_other _ _ _ windows _ hother := Function.update_of_ne hother _ windows

theorem createFirestoreRateLimitStore_counts {Ref : Type} [DecidableEq Ref] {doc : String → Ref}
    (hdoc : Function.Injective doc) :
    (createFirestoreRateLimitStore doc).Counts fun documents key ↦ documents (doc key) where
  count _ _ _ _ := rfl
  entry_self key _ _ documents := Function.update_self (doc key) _ documents
  entry_other _ _ _ documents _ hother := Function.update_of_ne (hdoc.ne hother) _ documents

section Runs

variable {σ τ : Type} {store : RateLimitStore σ} {entry : σ → String → Option WindowState}
  {other : RateLimitStore τ} {entry' : τ → String → Option WindowState}
  {options : RateLimitOptions} {key : String}

/-- The checked calls of a key. -/
def ofKey (key : String) (checked : List Checked) : List Checked :=
  checked.filter fun checked ↦ checked.1.key = key

/-- The decision on a call. -/
def decisionAt (options : RateLimitOptions) (previous : Option WindowState) (now : Int) :
    RateLimitDecision :=
  let count := (nextWindow previous options.windowMs now).count
  ⟨decide (count ≤ options.limit), count⟩

theorem checkAll_cons (hcounts : store.Counts entry) (call : RateLimitCall)
    (rest : List RateLimitCall) (state : σ) :
    checkAll store options (call :: rest) state =
      (call, decisionAt options (entry state call.key) call.now) ::
        checkAll store options rest (store.hit call.key options.windowMs call.now state).2 := by
  simp only [checkAll, checkRateLimit, decisionAt, hcounts.count]

theorem length_checkAll (calls : List RateLimitCall) (state : σ) :
    (checkAll store options calls state).length = calls.length := by
  induction calls generalizing state with
  | nil => rfl
  | cons call rest ih => exact congrArg (· + 1) (ih _)

theorem mem_of_mem_checkAll {calls : List RateLimitCall} {state : σ} {checked : Checked}
    (hmem : checked ∈ checkAll store options calls state) : checked.1 ∈ calls := by
  induction calls generalizing state with
  | nil => cases hmem
  | cons call rest ih =>
    rcases List.mem_cons.mp hmem with rfl | hmem
    · exact List.mem_cons_self
    · exact List.mem_cons_of_mem _ (ih hmem)

/-- Stores with the same entries decide alike. -/
theorem checkAll_eq (hcounts : store.Counts entry) (hcounts' : other.Counts entry')
    (calls : List RateLimitCall) {state : σ} {state' : τ} (hentries : entry state = entry' state') :
    checkAll store options calls state = checkAll other options calls state' := by
  induction calls generalizing state state' with
  | nil => rfl
  | cons call rest ih =>
    rw [checkAll_cons hcounts, checkAll_cons hcounts', hentries]
    refine congrArg (_ :: ·) (ih (funext fun key ↦ ?_))
    by_cases hkey : key = call.key
    · rw [hkey, hcounts.entry_self, hcounts'.entry_self, hentries]
    · rw [hcounts.entry_other _ _ _ _ _ hkey, hcounts'.entry_other _ _ _ _ _ hkey, hentries]

/-- The decisions on the calls of a key are those that its calls alone would get. -/
theorem checkAll_filter (hcounts : store.Counts entry) (calls : List RateLimitCall)
    (state state' : σ) (hentry : entry state key = entry state' key) :
    ofKey key (checkAll store options calls state) =
      checkAll store options (calls.filter fun call ↦ call.key = key) state' := by
  unfold ofKey
  induction calls generalizing state state' with
  | nil => rfl
  | cons call rest ih =>
    rw [checkAll_cons hcounts]
    by_cases hkey : call.key = key
    · rw [List.filter_cons_of_pos (by simpa using hkey),
        List.filter_cons_of_pos (by simpa using hkey), checkAll_cons hcounts, hkey, hentry]
      refine congrArg (_ :: ·) (ih _ _ ?_)
      rw [hcounts.entry_self, hcounts.entry_self, hentry]
    · rw [List.filter_cons_of_neg (by simpa using hkey),
        List.filter_cons_of_neg (by simpa using hkey)]
      refine ih _ _ ?_
      rw [hcounts.entry_other _ _ _ _ _ (Ne.symm hkey), hentry]

end Runs

/-! ### Windows -/

/-- The decision that lets the first `limit` calls of a window through, on its `n`-th call. -/
def nthDecision (options : RateLimitOptions) (n : ℕ) : RateLimitDecision :=
  ⟨decide (n ≤ options.limit), n⟩

/-- A window that starts at `opened`: its first call is made then, its calls are made within the
window's length, and exactly the first `limit` of them are allowed. -/
structure IsWindow (options : RateLimitOptions) (opened : Int) (window : List Checked) :
    Prop where
  opening : window.head?.map (fun checked ↦ checked.1.now) = some opened
  within : ∀ checked ∈ window,
    opened ≤ checked.1.now ∧ checked.1.now < opened + options.windowMs
  decisions : window.map Prod.snd = (List.range' 1 window.length).map (nthDecision options)

/-- The calls are those of the windows, one window after the other and each at least a window's
length after the one before. -/
structure SplitsIntoWindows (options : RateLimitOptions) (checked : List Checked)
    (windows : List (Int × List Checked)) : Prop where
  flatten : checked = (windows.map Prod.snd).flatten
  isWindow : ∀ window ∈ windows, IsWindow options window.1 window.2
  apart : windows.Pairwise fun first second ↦ first.1 + options.windowMs ≤ second.1

section Windows

variable {σ : Type} {store : RateLimitStore σ} {entry : σ → String → Option WindowState}
  {options : RateLimitOptions} {key : String}

/-- A call opens a window, which the calls after it go on. -/
theorem SplitsIntoWindows.opened {call : RateLimitCall} {continuing : List Checked}
    {rest : List Checked} {windows : List (Int × List Checked)} (hwindow : 0 < options.windowMs)
    (hwithin : ∀ checked ∈ continuing,
      call.now ≤ checked.1.now ∧ checked.1.now < call.now + options.windowMs)
    (hdecisions : continuing.map Prod.snd =
      (List.range' 2 continuing.length).map (nthDecision options))
    (hrest : SplitsIntoWindows options rest windows)
    (hlater : ∀ window ∈ windows, call.now + options.windowMs ≤ window.1) :
    SplitsIntoWindows options ((call, nthDecision options 1) :: (continuing ++ rest))
      ((call.now, (call, nthDecision options 1) :: continuing) :: windows) where
  flatten := by rw [hrest.flatten]; rfl
  isWindow := by
    intro window hmem
    rcases List.mem_cons.mp hmem with rfl | hmem
    · refine ⟨rfl, fun checked hchecked ↦ ?_, ?_⟩
      · rcases List.mem_cons.mp hchecked with rfl | hchecked
        · exact ⟨le_refl _, by show call.now < call.now + _; omega⟩
        · exact hwithin checked hchecked
      · show _ :: continuing.map Prod.snd = _
        rw [hdecisions]
        rfl
    · exact hrest.isWindow window hmem
  apart := List.pairwise_cons.mpr ⟨hlater, hrest.apart⟩

/-- A call of the key: the decision on it, and the entry it leaves. -/
theorem checkAll_cons_of_key (hcounts : store.Counts entry) {call : RateLimitCall}
    {rest : List RateLimitCall} {state : σ} {next : WindowState} (hkey : call.key = key)
    (hnext : nextWindow (entry state key) options.windowMs call.now = next) :
    ∃ later, checkAll store options (call :: rest) state =
        (call, nthDecision options next.count) :: checkAll store options rest later ∧
      entry later key = some next := by
  refine ⟨(store.hit call.key options.windowMs call.now state).2, ?_, ?_⟩
  · rw [checkAll_cons hcounts, hkey, ← hnext]
    rfl
  · rw [hkey, hcounts.entry_self, hnext]

/-- The calls of a key with an open window: some continue it, and the others split into windows. -/
theorem checkAll_continues (hcounts : store.Counts entry) (hwindow : 0 < options.windowMs)
    {calls : List RateLimitCall} (hkey : ∀ call ∈ calls, call.key = key)
    (hsorted : calls.Pairwise fun first second ↦ first.now ≤ second.now) {previous : WindowState}
    (hafter : ∀ call ∈ calls, previous.windowStart ≤ call.now) {state : σ}
    (hentry : entry state key = some previous) :
    ∃ (continuing rest : List Checked) (windows : List (Int × List Checked)),
      checkAll store options calls state = continuing ++ rest ∧
      (∀ checked ∈ continuing, previous.windowStart ≤ checked.1.now ∧
        checked.1.now < previous.windowStart + options.windowMs) ∧
      continuing.map Prod.snd =
        (List.range' (previous.count + 1) continuing.length).map (nthDecision options) ∧
      SplitsIntoWindows options rest windows ∧
      ∀ window ∈ windows, previous.windowStart + options.windowMs ≤ window.1 := by
  induction calls generalizing previous state with
  | nil =>
    exact ⟨[], [], [], rfl, fun checked hchecked ↦ absurd hchecked List.not_mem_nil, rfl,
      ⟨rfl, fun window hmem ↦ absurd hmem List.not_mem_nil, List.Pairwise.nil⟩,
      fun window hmem ↦ absurd hmem List.not_mem_nil⟩
  | cons call rest ih =>
    have hcallKey : call.key = key := hkey call List.mem_cons_self
    have hrestKey : ∀ later ∈ rest, later.key = key :=
      fun later hlater ↦ hkey later (List.mem_cons_of_mem call hlater)
    have hcall : previous.windowStart ≤ call.now := hafter call List.mem_cons_self
    obtain ⟨hnow, hsorted⟩ := List.pairwise_cons.mp hsorted
    by_cases hopen : call.now - previous.windowStart < options.windowMs
    · -- the call continues the open window
      have hstep : nextWindow (entry state key) options.windowMs call.now =
          ⟨previous.count + 1, previous.windowStart⟩ := hentry ▸ if_pos hopen
      obtain ⟨later, hchecked, hnext⟩ := checkAll_cons_of_key hcounts hcallKey hstep
      have hrest : ∀ later ∈ rest,
          (WindowState.mk (previous.count + 1) previous.windowStart).windowStart ≤ later.now :=
        fun later hlater ↦ hafter later (List.mem_cons_of_mem call hlater)
      obtain ⟨continuing, others, windows, hall, hwithin, hdecisions, hsplit, hlater⟩ :=
        ih hrestKey hsorted hrest hnext
      refine ⟨(call, nthDecision options (previous.count + 1)) :: continuing, others, windows,
        ?_, ?_, ?_, hsplit, hlater⟩
      · rw [hchecked, hall]
        rfl
      · intro checked hchecked
        rcases List.mem_cons.mp hchecked with rfl | hchecked
        · exact ⟨hcall, by show call.now < _; omega⟩
        · exact hwithin checked hchecked
      · show _ :: continuing.map Prod.snd = _
        rw [hdecisions]
        rfl
    · -- the call opens a window of its own
      have hstep : nextWindow (entry state key) options.windowMs call.now = ⟨1, call.now⟩ :=
        hentry ▸ if_neg hopen
      obtain ⟨later, hchecked, hnext⟩ := checkAll_cons_of_key hcounts hcallKey hstep
      obtain ⟨continuing, others, windows, hall, hwithin, hdecisions, hsplit, hlater⟩ :=
        ih hrestKey hsorted hnow hnext
      refine ⟨[], _, _, ?_, fun checked hchecked ↦ absurd hchecked List.not_mem_nil, rfl,
        hsplit.opened hwindow hwithin hdecisions hlater, fun window hmem ↦ ?_⟩
      · rw [hchecked, hall]
        rfl
      · rcases List.mem_cons.mp hmem with rfl | hmem
        · show previous.windowStart + _ ≤ call.now
          omega
        · have : call.now + options.windowMs ≤ window.1 := hlater window hmem
          omega

/-- The calls of a key that has no entry split into windows. -/
theorem checkAll_windows (hcounts : store.Counts entry) (hwindow : 0 < options.windowMs)
    {calls : List RateLimitCall} (hkey : ∀ call ∈ calls, call.key = key)
    (hsorted : calls.Pairwise fun first second ↦ first.now ≤ second.now) {state : σ}
    (hentry : entry state key = none) :
    ∃ windows, SplitsIntoWindows options (checkAll store options calls state) windows := by
  cases calls with
  | nil => exact ⟨[], rfl, fun window hmem ↦ absurd hmem List.not_mem_nil, List.Pairwise.nil⟩
  | cons call rest =>
    obtain ⟨hnow, hsorted⟩ := List.pairwise_cons.mp hsorted
    have hstep : nextWindow (entry state key) options.windowMs call.now = ⟨1, call.now⟩ :=
      hentry ▸ rfl
    obtain ⟨later, hchecked, hnext⟩ :=
      checkAll_cons_of_key hcounts (hkey call List.mem_cons_self) hstep
    obtain ⟨continuing, others, windows, hall, hwithin, hdecisions, hsplit, hlater⟩ :=
      checkAll_continues hcounts hwindow
        (fun later hlater ↦ hkey later (List.mem_cons_of_mem call hlater)) hsorted hnow hnext
    rw [hchecked, hall]
    exact ⟨_, hsplit.opened hwindow hwithin hdecisions hlater⟩

end Windows

/-! ### How many calls are allowed -/

section Allowed

variable {options : RateLimitOptions}

/-- A window allows at most `limit` calls. -/
theorem IsWindow.countP_allowed_le {opened : Int} {window : List Checked}
    (hwindow : IsWindow options opened window) :
    window.countP (fun checked ↦ checked.2.allowed) ≤ options.limit := by
  have hcount : window.countP (fun checked ↦ checked.2.allowed) =
      (List.range' 1 window.length).countP fun n ↦ decide (n ≤ options.limit) := by
    calc window.countP (fun checked ↦ checked.2.allowed)
        = (window.map Prod.snd).countP fun decision ↦ decision.allowed := List.countP_map.symm
      _ = ((List.range' 1 window.length).map (nthDecision options)).countP
            fun decision ↦ decision.allowed := by rw [hwindow.decisions]
      _ = _ := List.countP_map
  rw [hcount, List.countP_eq_length_filter]
  have hsub : ((List.range' 1 window.length).filter fun n ↦ decide (n ≤ options.limit)) ⊆
      List.range' 1 options.limit := by
    intro n hn
    obtain ⟨hn, hlimit⟩ := List.mem_filter.mp hn
    have := of_decide_eq_true hlimit
    simp only [List.mem_range'_1] at hn ⊢
    omega
  have hnodup := (List.nodup_range' (s := 1) (n := window.length)).filter
    fun n ↦ decide (n ≤ options.limit)
  simpa using (List.subperm_of_subset hnodup hsub).length_le

/-- A list of lists, of which those that count in the sum hold at most `bound` each. -/
theorem countP_flatten_le {ι α : Type} {counted : α → Bool} {bound : ℕ}
    (touching : ι × List α → Bool) {lists : List (ι × List α)}
    (hbound : ∀ list ∈ lists, list.2.countP counted ≤ bound)
    (hzero : ∀ list ∈ lists, touching list = false → list.2.countP counted = 0) :
    (lists.map Prod.snd).flatten.countP counted ≤ (lists.filter touching).length * bound := by
  induction lists with
  | nil => exact Nat.zero_le _
  | cons list rest ih =>
    have hrest := ih (fun other hother ↦ hbound other (List.mem_cons_of_mem list hother))
      fun other hother ↦ hzero other (List.mem_cons_of_mem list hother)
    have hlist := hbound list List.mem_cons_self
    rw [List.map_cons, List.flatten_cons, List.countP_append]
    by_cases htouching : touching list
    · rw [List.filter_cons_of_pos htouching, List.length_cons, Nat.succ_mul]
      omega
    · rw [List.filter_cons_of_neg htouching,
        hzero list List.mem_cons_self (by simpa using htouching), Nat.zero_add]
      exact hrest

/-- The window touches the interval of a window's length from `start`. -/
def touches (options : RateLimitOptions) (start : Int) (window : Int × List Checked) : Bool :=
  decide (start < window.1 + options.windowMs ∧ window.1 < start + options.windowMs)

/-- At most two windows touch an interval of a window's length. -/
theorem SplitsIntoWindows.length_touching_le {checked : List Checked}
    {windows : List (Int × List Checked)} (hsplit : SplitsIntoWindows options checked windows)
    (start : Int) : (windows.filter (touches options start)).length ≤ 2 := by
  have hapart := hsplit.apart.filter (touches options start)
  have htouches : ∀ window ∈ windows.filter (touches options start),
      start < window.1 + options.windowMs ∧ window.1 < start + options.windowMs :=
    fun window hmem ↦ of_decide_eq_true (List.mem_filter.mp hmem).2
  match hlist : windows.filter (touches options start) with
  | [] => exact Nat.zero_le _
  | [_] => exact Nat.le_succ 1
  | [_, _] => exact Nat.le_refl 2
  | first :: second :: third :: _ =>
    -- the third starts two lengths after the first, which ends after the interval's start
    rw [hlist] at hapart htouches
    have hfirst := htouches first (by simp)
    have hthird := htouches third (by simp)
    obtain ⟨hnext, hapart⟩ := List.pairwise_cons.mp hapart
    have hsecond := hnext second (by simp)
    have hlast := (List.pairwise_cons.mp hapart).1 third (by simp)
    omega

/-- The call is made in the interval of a window's length from `start`, and is allowed. -/
def allowedWithin (options : RateLimitOptions) (start : Int) (checked : Checked) : Bool :=
  decide (start ≤ checked.1.now ∧ checked.1.now < start + options.windowMs) && checked.2.allowed

/-- Any interval of a window's length holds at most twice the limit of allowed calls. -/
theorem SplitsIntoWindows.countP_allowed_le {checked : List Checked}
    {windows : List (Int × List Checked)} (hsplit : SplitsIntoWindows options checked windows)
    (start : Int) : checked.countP (allowedWithin options start) ≤ 2 * options.limit := by
  have hbound : ∀ window ∈ windows,
      window.2.countP (allowedWithin options start) ≤ options.limit := fun window hmem ↦
    (List.countP_mono_left fun checked _ hboth ↦ (Bool.and_eq_true_iff.mp hboth).2).trans
      (hsplit.isWindow window hmem).countP_allowed_le
  have hzero : ∀ window ∈ windows, touches options start window = false →
      window.2.countP (allowedWithin options start) = 0 := by
    intro window hmem haway
    refine List.countP_eq_zero.mpr fun checked hchecked hboth ↦ ?_
    have hin := of_decide_eq_true (Bool.and_eq_true_iff.mp hboth).1
    have hwithin := (hsplit.isWindow window hmem).within checked hchecked
    have := of_decide_eq_false haway
    omega
  calc checked.countP (allowedWithin options start)
      = (windows.map Prod.snd).flatten.countP (allowedWithin options start) := by
        rw [hsplit.flatten]
    _ ≤ (windows.filter (touches options start)).length * options.limit :=
        countP_flatten_le (touches options start) hbound hzero
    _ ≤ 2 * options.limit := Nat.mul_le_mul_right _ (hsplit.length_touching_le start)

section Single

variable {σ : Type} {store : RateLimitStore σ} {entry : σ → String → Option WindowState}
  {key : String} {calls : List RateLimitCall} {state : σ}

/-- The calls of a key that all continue its open window: the rest of the limit is allowed. -/
theorem countP_allowed_of_open (hcounts : store.Counts entry)
    (hkey : ∀ call ∈ calls, call.key = key) {previous : WindowState}
    (hentry : entry state key = some previous)
    (hopen : ∀ call ∈ calls, call.now - previous.windowStart < options.windowMs) :
    (checkAll store options calls state).countP (fun checked ↦ checked.2.allowed) =
      min calls.length (options.limit - previous.count) := by
  induction calls generalizing state previous with
  | nil => exact (Nat.zero_min _).symm
  | cons call rest ih =>
    obtain ⟨hcallKey, hrestKey⟩ := List.forall_mem_cons.mp hkey
    obtain ⟨hcall, hrest⟩ := List.forall_mem_cons.mp hopen
    have hstep : nextWindow (entry state key) options.windowMs call.now =
        ⟨previous.count + 1, previous.windowStart⟩ := hentry ▸ if_pos hcall
    obtain ⟨later, hchecked, hnext⟩ := checkAll_cons_of_key hcounts hcallKey hstep
    rw [hchecked, List.countP_cons, ih hrestKey hnext hrest]
    simp only [nthDecision, decide_eq_true_eq, List.length_cons]
    split_ifs <;> omega

/-- The calls of a key within a window's length of a time at which it has no open window: they all
fall into one window. -/
theorem countP_allowed_of_fresh (hcounts : store.Counts entry)
    (hkey : ∀ call ∈ calls, call.key = key) {opened : Int}
    (hwithin : ∀ call ∈ calls, opened ≤ call.now ∧ call.now < opened + options.windowMs)
    (hfresh : ∀ call ∈ calls, ∀ previous, entry state call.key = some previous →
      options.windowMs ≤ opened - previous.windowStart) :
    (checkAll store options calls state).countP (fun checked ↦ checked.2.allowed) =
      min calls.length options.limit := by
  cases calls with
  | nil => exact (Nat.zero_min _).symm
  | cons call rest =>
    obtain ⟨hcallKey, hrestKey⟩ := List.forall_mem_cons.mp hkey
    obtain ⟨hcall, hrest⟩ := List.forall_mem_cons.mp hwithin
    have hstep : nextWindow (entry state key) options.windowMs call.now = ⟨1, call.now⟩ := by
      cases hentry : entry state key with
      | none => rfl
      | some previous =>
        have := hfresh call List.mem_cons_self previous (hcallKey.symm ▸ hentry)
        exact if_neg (by omega)
    obtain ⟨later, hchecked, hnext⟩ := checkAll_cons_of_key hcounts hcallKey hstep
    have hopen : ∀ later ∈ rest,
        later.now - (WindowState.mk 1 call.now).windowStart < options.windowMs := by
      intro later hlater
      have := hrest later hlater
      show later.now - call.now < _
      omega
    rw [hchecked, List.countP_cons, countP_allowed_of_open hcounts hrestKey hnext hopen]
    simp only [nthDecision, decide_eq_true_eq, List.length_cons]
    split_ifs <;> omega

/-- How many calls of a key are allowed among calls of any keys, all made within a window's length
of a time at which none of them has an open window. -/
theorem countP_allowed_ofKey (hcounts : store.Counts entry) {opened : Int}
    (hwithin : ∀ call ∈ calls, opened ≤ call.now ∧ call.now < opened + options.windowMs)
    (hfresh : ∀ call ∈ calls, ∀ previous, entry state call.key = some previous →
      options.windowMs ≤ opened - previous.windowStart) (key : String) :
    (ofKey key (checkAll store options calls state)).countP (fun checked ↦ checked.2.allowed) =
      min (calls.countP fun call ↦ call.key = key) options.limit := by
  rw [checkAll_filter hcounts calls state state rfl,
    @List.countP_eq_length_filter _ (fun call : RateLimitCall ↦ decide (call.key = key))]
  exact countP_allowed_of_fresh hcounts
    (fun call hmem ↦ of_decide_eq_true (List.mem_filter.mp hmem).2)
    (fun call hmem ↦ hwithin call (List.mem_filter.mp hmem).1)
    fun call hmem ↦ hfresh call (List.mem_filter.mp hmem).1

theorem length_ofKey_checkAll (hcounts : store.Counts entry) (key : String) :
    (ofKey key (checkAll store options calls state)).length =
      calls.countP fun call ↦ call.key = key := by
  rw [checkAll_filter hcounts calls state state rfl, length_checkAll,
    List.countP_eq_length_filter]

/-- The calls of two keys are among all calls. -/
theorem countP_ofKey_add_le {first second : String} (hne : first ≠ second)
    (checked : List Checked) (counted : Checked → Bool) :
    (ofKey first checked).countP counted + (ofKey second checked).countP counted ≤
      checked.countP counted := by
  rw [List.countP_eq_countP_filter_add checked counted fun checked ↦ checked.1.key = first]
  refine Nat.add_le_add_left (List.Sublist.countP_le ?_) _
  refine List.monotone_filter_right checked fun checked hsecond ↦ ?_
  have hkey : checked.1.key = second := of_decide_eq_true hsecond
  simpa [hkey] using hne.symm

theorem mem_ofKey_self {checked : List Checked} {call : Checked} (hmem : call ∈ checked) :
    call ∈ ofKey call.1.key checked := List.mem_filter.mpr ⟨hmem, decide_eq_true rfl⟩

/-- More calls than a positive limit, not all of one key, are allowed beyond it when each key has
the limit to itself. -/
theorem limit_lt_countP {checked : List Checked}
    (hallowed : ∀ key, (ofKey key checked).countP (fun checked ↦ checked.2.allowed) =
      min (calls.countP fun call ↦ call.key = key) options.limit)
    (hofKey : ∀ key, (ofKey key checked).length = calls.countP fun call ↦ call.key = key)
    (hlength : checked.length = calls.length) (hlimit : options.limit ≠ 0)
    (hmore : options.limit < calls.length)
    (hkeys : ¬ ∀ first ∈ calls, ∀ second ∈ calls, first.key = second.key) :
    options.limit < checked.countP fun checked ↦ checked.2.allowed := by
  by_cases hfull : ∃ key, options.limit ≤ calls.countP fun call ↦ call.key = key
  · -- one key uses up the limit, and a call of another key is allowed besides
    obtain ⟨key, hfull⟩ := hfull
    obtain ⟨call, hmem, hne⟩ : ∃ call ∈ calls, call.key ≠ key := by
      by_contra hall
      exact hkeys fun first hfirst second hsecond ↦
        (not_not.mp fun hne ↦ hall ⟨first, hfirst, hne⟩).trans
          (not_not.mp fun hne ↦ hall ⟨second, hsecond, hne⟩).symm
    have hsome : 0 < calls.countP fun other ↦ other.key = call.key :=
      List.countP_pos_iff.mpr ⟨call, hmem, decide_eq_true rfl⟩
    have hboth := countP_ofKey_add_le hne.symm checked fun checked ↦ checked.2.allowed
    rw [hallowed, hallowed] at hboth
    omega
  · -- no key reaches the limit, so every call is allowed
    have hevery : ∀ call ∈ checked, call.2.allowed = true := by
      intro call hmem
      have hfew := not_le.mp (not_exists.mp hfull call.1.key)
      have hsame : (ofKey call.1.key checked).countP (fun checked ↦ checked.2.allowed) =
          (ofKey call.1.key checked).length := by
        rw [hallowed, hofKey]
        omega
      exact List.countP_eq_length.mp hsame call (mem_ofKey_self hmem)
    rw [List.countP_eq_length.mpr hevery, hlength]
    exact hmore

/-- Calls made within a window's length of a time at which none of their keys has an open window
stay within the limit exactly when the limit is zero, when they are no more than the limit, or when
they share a key. -/
theorem countP_allowed_le_iff (hcounts : store.Counts entry) {opened : Int}
    (hwithin : ∀ call ∈ calls, opened ≤ call.now ∧ call.now < opened + options.windowMs)
    (hfresh : ∀ call ∈ calls, ∀ previous, entry state call.key = some previous →
      options.windowMs ≤ opened - previous.windowStart) :
    (checkAll store options calls state).countP (fun checked ↦ checked.2.allowed) ≤
        options.limit ↔
      options.limit = 0 ∨ calls.length ≤ options.limit ∨
        ∀ first ∈ calls, ∀ second ∈ calls, first.key = second.key := by
  have hallowed := countP_allowed_ofKey hcounts hwithin hfresh
  have hlength : (checkAll store options calls state).length = calls.length :=
    length_checkAll calls state
  constructor
  · intro hcount
    by_contra hnone
    obtain ⟨hlimit, hnone⟩ := not_or.mp hnone
    obtain ⟨hmore, hkeys⟩ := not_or.mp hnone
    exact absurd hcount <| not_le.mpr <| limit_lt_countP hallowed (length_ofKey_checkAll hcounts)
      hlength hlimit (not_le.mp hmore) hkeys
  · rintro (hzero | hfew | hshared)
    · refine (List.countP_eq_zero.mpr fun call hmem hpassed ↦ ?_).le.trans (Nat.zero_le _)
      have hpos : 0 < (ofKey call.1.key (checkAll store options calls state)).countP
          fun checked ↦ checked.2.allowed :=
        List.countP_pos_iff.mpr ⟨call, mem_ofKey_self hmem, hpassed⟩
      rw [hallowed, hzero] at hpos
      omega
    · exact List.countP_le_length.trans (hlength ▸ hfew)
    · cases hchecked : checkAll store options calls state with
      | nil => exact Nat.zero_le _
      | cons first rest =>
        have hcall {call : Checked} (hmem : call ∈ first :: rest) : call.1 ∈ calls :=
          mem_of_mem_checkAll (hchecked ▸ hmem)
        have hall : ofKey first.1.key (first :: rest) = first :: rest := by
          refine List.filter_eq_self.mpr fun call hmem ↦ decide_eq_true ?_
          exact hshared _ (hcall hmem) _ (hcall List.mem_cons_self)
        rw [← hall, ← hchecked, hallowed]
        exact Nat.min_le_right _ _

end Single

end Allowed

/-! ### Soundness -/

/-- Rate limiting is sound for each key. For calls in the order of their times, from empty stores:
the calls of a key split into windows that allow exactly their first `limit` calls; any interval of
a window's length holds at most `2 * limit` allowed calls of a key; what is decided on the calls of
a key is not changed by those of other keys; and the document store decides as the one in memory. -/
theorem checkRateLimit_sound (options : RateLimitOptions) (hwindow : 0 < options.windowMs)
    (calls : List RateLimitCall)
    (hsorted : calls.Pairwise fun first second ↦ first.now ≤ second.now) :
    (∀ key, ∃ windows, SplitsIntoWindows options
      (ofKey key (checkAll inMemoryRateLimitStore options calls fun _ ↦ none)) windows) ∧
    (∀ key start, (ofKey key
      (checkAll inMemoryRateLimitStore options calls fun _ ↦ none)).countP
        (allowedWithin options start) ≤ 2 * options.limit) ∧
    (∀ key others, others.filter (fun call ↦ call.key = key) =
        calls.filter (fun call ↦ call.key = key) →
      ofKey key (checkAll inMemoryRateLimitStore options others fun _ ↦ none) =
        ofKey key (checkAll inMemoryRateLimitStore options calls fun _ ↦ none)) ∧
    ∀ (Ref : Type) [DecidableEq Ref] (doc : String → Ref), Function.Injective doc →
      checkAll (createFirestoreRateLimitStore doc) options calls (fun _ ↦ none) =
        checkAll inMemoryRateLimitStore options calls fun _ ↦ none := by
  have hsplits : ∀ key, ∃ windows, SplitsIntoWindows options
      (ofKey key (checkAll inMemoryRateLimitStore options calls fun _ ↦ none)) windows := by
    intro key
    have hown : ∀ call ∈ calls.filter (fun call ↦ call.key = key), call.key = key :=
      fun call hmem ↦ of_decide_eq_true (List.mem_filter.mp hmem).2
    rw [checkAll_filter inMemoryRateLimitStore_counts calls _ (fun _ ↦ none) rfl]
    exact checkAll_windows inMemoryRateLimitStore_counts hwindow hown (hsorted.filter _) rfl
  refine ⟨hsplits, fun key start ↦ ?_, fun key others hothers ↦ ?_, fun Ref _ doc hdoc ↦ ?_⟩
  · obtain ⟨windows, hsplit⟩ := hsplits key
    exact hsplit.countP_allowed_le start
  · rw [checkAll_filter inMemoryRateLimitStore_counts others _ (fun _ ↦ none) rfl,
      checkAll_filter inMemoryRateLimitStore_counts calls _ (fun _ ↦ none) rfl, hothers]
  · exact checkAll_eq (createFirestoreRateLimitStore_counts hdoc) inMemoryRateLimitStore_counts
      calls rfl

/-- With one call for each ten milliseconds, a key is let through again ten milliseconds after the
call that opened its window, whatever a second key does. -/
theorem checkRateLimit_sound_secondWindow :
    ∃ windows, SplitsIntoWindows ⟨1, 10⟩ [(⟨"a", 0⟩, ⟨true, 1⟩), (⟨"a", 9⟩, ⟨false, 2⟩),
      (⟨"a", 10⟩, ⟨true, 1⟩)] windows :=
  (checkRateLimit_sound ⟨1, 10⟩ (by decide) [⟨"a", 0⟩, ⟨"b", 3⟩, ⟨"a", 9⟩, ⟨"a", 10⟩]
    (by simp)).1 "a"

end Oott.PushRelay
