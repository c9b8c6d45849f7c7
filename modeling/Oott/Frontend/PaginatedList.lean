import Oott.Frontend.PolledValue
import Mathlib.Order.Lattice

/-!
# Paged lists

`utils/paginated_list_state.dart`, the state that the paged lists share, and what both lists build
from it. Every fetch supersedes the one before it, which may complete all the same: its completion
is dropped, since its token is no longer `fetchToken`. Tokens are numbered in the order in which
they are made. Scrolling and the progress cue of the app shell are left out.
-/

set_option autoImplicit false
set_option relaxedAutoImplicit false

namespace Oott

/-- A request for a page, with what the list does with its result. -/
structure PageRequest (Query : Type) where
  token : ℕ
  page : ℕ
  perPage : ℕ
  query : Query
  animateDiff : Bool
deriving DecidableEq

/-- `PaginatedListState`, with the requests that have not completed. -/
structure PaginatedList (Query : Type) where
  currentPage : ℕ := 0
  totalCount : ℕ := 0
  isLoading : Bool := false
  isPaging : Bool := false
  didInitialFetch : Bool := false
  error : Option String := none
  fetchToken : Option ℕ := none
  mounted : Bool := true
  fetchesStarted : ℕ := 0
  inFlight : List (PageRequest Query) := []

/-- What a list builds: the skeleton, an error, the empty state, or its rows, with or without the
pagination bar. -/
inductive ListView (Row : Type)
  | skeleton
  | error (message : String)
  | emptyState
  | list (rows : List Row) (paginationBar : Bool)

namespace ListView

variable {Row : Type}

/-- The rows that a list shows. -/
def shownRows : ListView Row → List Row
  | list rows _ => rows
  | _ => []

/-- Whether a list shows the pagination bar. -/
def showsPaginationBar : ListView Row → Bool
  | list _ paginationBar => paginationBar
  | _ => false

end ListView

namespace PaginatedList

variable {Query Row : Type}

/-- `totalPages`, for a page size. -/
def totalPages (list : PaginatedList Query) (pageSize : ℕ) : ℕ :=
  max 1 (min (1 <<< 30) ((list.totalCount + pageSize - 1) / pageSize))

/-- `runFetch`, up to the call of the fetch. -/
def runFetch (list : PaginatedList Query) (isListEmpty : Bool) (page perPage : ℕ) (query : Query)
    (paging animateDiff : Bool) : PaginatedList Query :=
  { list with
    fetchToken := some list.fetchesStarted
    fetchesStarted := list.fetchesStarted + 1
    inFlight := list.inFlight ++ [⟨list.fetchesStarted, page, perPage, query, animateDiff⟩]
    isLoading := isListEmpty
    isPaging := paging
    error := none }

/-- A request has completed. -/
def received (list : PaginatedList Query) (token : ℕ) : PaginatedList Query :=
  { list with inFlight := list.inFlight.filter fun request ↦ request.token ≠ token }

/-- The guard of `runFetch`: the list is mounted, and the token has not been superseded. -/
def IsCurrent (list : PaginatedList Query) (token : ℕ) : Prop :=
  list.mounted = true ∧ list.fetchToken = some token

instance (list : PaginatedList Query) (token : ℕ) : Decidable (list.IsCurrent token) :=
  inferInstanceAs (Decidable (_ ∧ _))

/-- What the results of both lists set. -/
def applied (list : PaginatedList Query) (page totalCount : ℕ) : PaginatedList Query :=
  { list with
    currentPage := page
    totalCount := totalCount
    isLoading := false
    isPaging := false }

/-- The error handling of `runFetch`. -/
def failed (list : PaginatedList Query) (message : String) : PaginatedList Query :=
  { list with
    error := some message
    isLoading := false
    isPaging := false }

/-- `runFetch`, from the completion of the fetch on, with the result that `onResult` is called
with. -/
def settle {Result : Type} (list : PaginatedList Query) (token : ℕ)
    (outcome : FetchOutcome Result) : PaginatedList Query × Option Result :=
  let list := list.received token
  if ¬ list.IsCurrent token then (list, none)
  else match outcome with
    | .value result => (list, some result)
    | .error message => (list.failed message, none)
    | .cancelled => (list, none)

/-- `dispose`. -/
def dispose (list : PaginatedList Query) : PaginatedList Query := { list with mounted := false }

/-- `_buildNotificationSlivers` and `_buildBody`, for a page size. -/
def view (list : PaginatedList Query) (rows : List Row) (pageSize : ℕ) : ListView Row :=
  if list.isLoading then .skeleton
  else match list.error with
    | some message => .error message
    | none =>
      if rows.isEmpty then .emptyState
      else .list rows (0 < list.currentPage ∨ 1 < list.totalPages pageSize)

/-- No request is in flight, apart from superseded ones. -/
def Idle (list : PaginatedList Query) : Prop :=
  ∀ request ∈ list.inFlight, list.fetchToken ≠ some request.token

instance (list : PaginatedList Query) : Decidable list.Idle :=
  inferInstanceAs (Decidable (∀ request ∈ list.inFlight, _))

/-- What the fetches keep: a request has the token that it was given, the list loads only while one
is in flight, and has an error only while none is. -/
structure Sound (list : PaginatedList Query) : Prop where
  inFlight_started : ∀ request ∈ list.inFlight, request.token < list.fetchesStarted
  loading : list.mounted = true → list.isLoading = true → ¬ list.Idle
  errored : list.error ≠ none → list.Idle

section Fetches

variable {list : PaginatedList Query} {isListEmpty paging animateDiff : Bool} {page perPage : ℕ}
  {query : Query} {request : PageRequest Query} {token totalCount : ℕ} {message : String}

/-- What a completion does: nothing when the request has been superseded, or else what its outcome
says. -/
theorem settle_cases {Result : Type} {outcome : FetchOutcome Result}
    (hcancelled : outcome = .cancelled → ¬ list.IsCurrent token) :
    (¬ list.IsCurrent token ∧ list.settle token outcome = (list.received token, none)) ∨
      list.IsCurrent token ∧
        ((∃ result, outcome = .value result ∧
          list.settle token outcome = (list.received token, some result)) ∨
        ∃ message, outcome = .error message ∧
          list.settle token outcome = ((list.received token).failed message, none)) := by
  by_cases hcurrent : list.IsCurrent token
  · refine .inr ⟨hcurrent, ?_⟩
    have hreceived : (list.received token).IsCurrent token := hcurrent
    cases outcome with
    | value result => exact .inl ⟨result, rfl, by simp [settle, hreceived]⟩
    | error message => exact .inr ⟨message, rfl, by simp [settle, hreceived]⟩
    | cancelled => exact absurd hcurrent (hcancelled rfl)
  · have hreceived : ¬ (list.received token).IsCurrent token := hcurrent
    exact .inl ⟨hcurrent, by simp [settle, hreceived]⟩

theorem Sound.initial (didInitialFetch : Bool) :
    Sound ({ didInitialFetch := didInitialFetch } : PaginatedList Query) where
  inFlight_started := by simp
  loading := by simp
  errored := by simp

theorem not_idle_runFetch :
    ¬ (list.runFetch isListEmpty page perPage query paging animateDiff).Idle := by
  intro hidle
  exact hidle ⟨list.fetchesStarted, page, perPage, query, animateDiff⟩ (by simp [runFetch]) rfl

/-- The only request with the token after a fetch has been started is its own. -/
theorem Sound.eq_of_runFetch (hsound : list.Sound)
    (hmem : request ∈ (list.runFetch isListEmpty page perPage query paging animateDiff).inFlight)
    (htoken : (list.runFetch isListEmpty page perPage query paging animateDiff).fetchToken =
      some request.token) :
    request = ⟨list.fetchesStarted, page, perPage, query, animateDiff⟩ := by
  simp only [runFetch, List.mem_append, List.mem_singleton, Option.some_inj] at hmem htoken
  rcases hmem with hmem | rfl
  · exact absurd htoken (hsound.inFlight_started request hmem).ne'
  · rfl

theorem Sound.runFetch (hsound : list.Sound) :
    (list.runFetch isListEmpty page perPage query paging animateDiff).Sound where
  inFlight_started := by
    intro request hmem
    simp only [PaginatedList.runFetch, List.mem_append, List.mem_singleton] at hmem ⊢
    rcases hmem with hmem | rfl
    · exact Nat.lt_succ_of_lt (hsound.inFlight_started request hmem)
    · exact Nat.lt_succ_self _
  loading := fun _ _ ↦ not_idle_runFetch
  errored := fun herror ↦ absurd rfl herror

theorem mem_received :
    request ∈ (list.received token).inFlight ↔ request ∈ list.inFlight ∧ request.token ≠ token := by
  simp [received]

theorem idle_received (htoken : list.fetchToken = some token) : (list.received token).Idle := by
  intro request hmem heq
  have hne := (mem_received.1 hmem).2
  exact hne (Option.some_inj.1 (heq.symm.trans htoken))

/-- The completion of a superseded request changes nothing for the one that has superseded it. -/
theorem idle_received_iff (htoken : list.fetchToken ≠ some token) :
    (list.received token).Idle ↔ list.Idle := by
  refine ⟨fun hidle request hmem heq ↦ ?_, fun hidle request hmem ↦ ?_⟩
  · have hne : request.token ≠ token := fun hsame ↦ htoken (hsame ▸ heq)
    exact hidle request (mem_received.2 ⟨hmem, hne⟩) heq
  · exact hidle request (mem_received.1 hmem).1

theorem Sound.received (hsound : list.Sound) (hcurrent : ¬ list.IsCurrent token) :
    (list.received token).Sound where
  inFlight_started := fun request hmem ↦ hsound.inFlight_started request (mem_received.1 hmem).1
  loading := by
    intro hmounted hloading
    rw [idle_received_iff fun htoken ↦ hcurrent ⟨hmounted, htoken⟩]
    exact hsound.loading hmounted hloading
  errored := fun herror request hmem ↦ hsound.errored herror request (mem_received.1 hmem).1

theorem Sound.applied (hsound : list.Sound) (htoken : list.fetchToken = some token) :
    ((list.received token).applied page totalCount).Sound where
  inFlight_started := fun request hmem ↦ hsound.inFlight_started request (mem_received.1 hmem).1
  loading := by simp [PaginatedList.applied]
  errored := fun _ ↦ idle_received htoken

theorem Sound.failed (hsound : list.Sound) (htoken : list.fetchToken = some token) :
    ((list.received token).failed message).Sound where
  inFlight_started := fun request hmem ↦ hsound.inFlight_started request (mem_received.1 hmem).1
  loading := by simp [PaginatedList.failed]
  errored := fun _ ↦ idle_received htoken

theorem Sound.dispose (hsound : list.Sound) : list.dispose.Sound where
  inFlight_started := hsound.inFlight_started
  loading := by simp [PaginatedList.dispose]
  errored := hsound.errored

end Fetches

/-! ### Being stranded -/

section Stranded

variable {list : PaginatedList Query} {rows : List Row} {isListEmpty paging animateDiff : Bool}
  {page perPage pageSize : ℕ} {query : Query} {token totalCount : ℕ} {message : String}

/-- Whenever no request is in flight, no error is shown and the total is positive, the list shows a
row or the pagination bar, on a screen of any size. -/
def LeavesAWay (list : PaginatedList Query) (rows : List Row) : Prop :=
  list.mounted = true → list.Idle → list.error = none → 0 < list.totalCount →
    ∀ pageSize, (list.view rows pageSize).shownRows ≠ [] ∨
      (list.view rows pageSize).showsPaginationBar = true

/-- No request is in flight, no error is shown and the total is positive, but there is no row. -/
def Stranded (list : PaginatedList Query) (isListEmpty : Bool) : Prop :=
  list.mounted = true ∧ list.Idle ∧ list.error = none ∧ 0 < list.totalCount ∧ isListEmpty = true

/-- The view has the pagination bar only below the rows. -/
theorem Sound.leavesAWay_iff (hsound : list.Sound) :
    list.LeavesAWay rows ↔ ¬ list.Stranded rows.isEmpty := by
  have hloading (hmounted : list.mounted = true) (hidle : list.Idle) : list.isLoading = false :=
    Bool.eq_false_iff.2 fun hloading ↦ hsound.loading hmounted hloading hidle
  constructor
  · rintro hway ⟨hmounted, hidle, herror, htotal, hempty⟩
    have hview : list.view rows 1 = .emptyState := by
      simp [view, hloading hmounted hidle, herror, List.isEmpty_iff.1 hempty]
    rcases hway hmounted hidle herror htotal 1 with hshown | hbar
    · simp [hview, ListView.shownRows] at hshown
    · simp [hview, ListView.showsPaginationBar] at hbar
  · intro hstranded hmounted hidle herror htotal pageSize
    have hempty : rows.isEmpty = false :=
      Bool.eq_false_iff.2 fun hempty ↦ hstranded ⟨hmounted, hidle, herror, htotal, hempty⟩
    left
    have hview : (list.view rows pageSize).shownRows = rows := by
      simp [view, hloading hmounted hidle, herror, hempty, ListView.shownRows]
    rw [hview]
    simpa using hempty

theorem not_stranded_runFetch :
    ¬ (list.runFetch isListEmpty page perPage query paging animateDiff).Stranded rows.isEmpty :=
  fun hstranded ↦ not_idle_runFetch hstranded.2.1

theorem not_stranded_received (hstranded : ¬ list.Stranded isListEmpty)
    (hcurrent : ¬ list.IsCurrent token) : ¬ (list.received token).Stranded isListEmpty := by
  rintro ⟨hmounted, hidle, hrest⟩
  have hsame := idle_received_iff fun htoken ↦ hcurrent ⟨hmounted, htoken⟩
  exact hstranded ⟨hmounted, hsame.1 hidle, hrest⟩

/-- A result strands the user where it has no row although its total is positive. -/
theorem Sound.stranded_applied_iff (hsound : list.Sound) (hcurrent : list.IsCurrent token)
    {request : PageRequest Query} (hinFlight : request ∈ list.inFlight)
    (htoken : request.token = token) :
    ((list.received token).applied page totalCount).Stranded isListEmpty ↔
      0 < totalCount ∧ isListEmpty = true := by
  refine ⟨fun ⟨_, _, _, htotal, hempty⟩ ↦ ⟨htotal, hempty⟩, fun ⟨htotal, hempty⟩ ↦ ?_⟩
  have herror : list.error = none := by
    by_contra herror
    exact hsound.errored herror request hinFlight (htoken ▸ hcurrent.2)
  exact ⟨hcurrent.1, idle_received hcurrent.2, herror, htotal, hempty⟩

theorem not_stranded_failed : ¬ (list.failed message).Stranded isListEmpty :=
  fun ⟨_, _, herror, _⟩ ↦ nomatch herror

theorem not_stranded_dispose : ¬ list.dispose.Stranded isListEmpty :=
  fun ⟨hmounted, _⟩ ↦ nomatch hmounted

end Stranded

end PaginatedList

end Oott
