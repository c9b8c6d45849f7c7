import Oott.Effects.Runs
import Mathlib.Data.Finset.Card

/-!
# Polling

`utils/polled_value.dart`: a value that is fetched at every tick of a timer and whenever the last
reason for a pause is gone. A fetch is told apart from the others by its `CancelToken`, so that its
completion is applied only while it is the latest one; tokens and timers are numbered in the order
in which they are made. A fetch may complete at any time and with anything, also when its token has
been cancelled. The clock, and with it the freshness of what is shown, is left out.

What is shown is kept with the fetches it comes from (`PolledValue.shown`), and `PolledInvariant`
has what every run keeps. Which reasons are held, and whether the value has been disposed of, is
read off the labels of a run (`ReasonHeld`, `DisposedBy`): the last label that concerns a reason
decides.
-/

set_option autoImplicit false
set_option relaxedAutoImplicit false

namespace Oott

open Effects

/-- `PolledPauseReason`. -/
inductive PolledPauseReason
  | manual
  | unreachable
deriving DecidableEq

/-- There are two reasons. -/
theorem PolledPauseReason.exists_iff {property : PolledPauseReason → Prop} :
    (∃ reason, property reason) ↔ property .manual ∨ property .unreachable := by
  constructor
  · rintro ⟨reason, hreason⟩
    cases reason with
    | manual => exact .inl hreason
    | unreachable => exact .inr hreason
  · rintro (hmanual | hunreachable)
    · exact ⟨_, hmanual⟩
    · exact ⟨_, hunreachable⟩

/-- What a fetch completes with: a value, an error as it is shown to the user, or the error of a
cancelled request. -/
inductive FetchOutcome (T : Type)
  | value (result : T)
  | error (message : String)
  | cancelled

/-- `PolledValue`, with the timers that run, the fetches that have not completed, and what has been
applied and notified, each with the fetch it comes from. -/
structure PolledValue (T : Type) where
  pauseReasons : Finset PolledPauseReason := ∅
  pollTimer : Option ℕ := none
  cancelToken : Option ℕ := none
  disposed : Bool := false
  listening : Bool := true
  value : Option T := none
  lastErrorMessage : Option String := none
  timers : List ℕ := []
  timersStarted : ℕ := 0
  fetchesStarted : ℕ := 0
  inFlight : List ℕ := []
  shown : List (ℕ × FetchOutcome T) := []

namespace PolledValue

variable {T : Type}

/-- `_load`, up to the call of the fetch. -/
def load (polled : PolledValue T) : PolledValue T :=
  { polled with
    cancelToken := some polled.fetchesStarted
    fetchesStarted := polled.fetchesStarted + 1
    inFlight := polled.inFlight ++ [polled.fetchesStarted] }

/-- `_load`, from the completion of the fetch on. -/
def completed (polled : PolledValue T) (fetch : ℕ) (outcome : FetchOutcome T) : PolledValue T :=
  let polled := { polled with inFlight := polled.inFlight.erase fetch }
  if polled.disposed ∨ some fetch ≠ polled.cancelToken then polled
  else match outcome with
    | .value result =>
      { polled with
        value := some result
        lastErrorMessage := none
        shown := polled.shown ++ [(fetch, outcome)] }
    | .error message =>
      { polled with
        lastErrorMessage := some message
        shown := polled.shown ++ [(fetch, outcome)] }
    | .cancelled => polled

/-- `_startPolling`. -/
def startPolling (polled : PolledValue T) : PolledValue T :=
  match polled.pollTimer with
  | some _ => polled
  | none =>
    { polled with
      pollTimer := some polled.timersStarted
      timers := polled.timers ++ [polled.timersStarted]
      timersStarted := polled.timersStarted + 1 }

/-- `_stopPolling`. Cancelling the token leaves the fetch in flight. -/
def stopPolling (polled : PolledValue T) : PolledValue T :=
  { polled with
    pollTimer := none
    timers := polled.timers.filter fun timer ↦ polled.pollTimer ≠ some timer }

/-- `pauseFor`. -/
def pauseFor (polled : PolledValue T) (reason : PolledPauseReason) : PolledValue T :=
  let added := reason ∉ polled.pauseReasons
  let polled := { polled with pauseReasons := insert reason polled.pauseReasons }
  if added ∧ polled.pauseReasons.card = 1 then polled.stopPolling else polled

/-- `resumeFor`. -/
def resumeFor (polled : PolledValue T) (reason : PolledPauseReason) : PolledValue T :=
  if polled.disposed then polled
  else
    let removed := reason ∈ polled.pauseReasons
    let polled := { polled with pauseReasons := polled.pauseReasons.erase reason }
    if removed ∧ polled.pauseReasons = ∅ then polled.load.startPolling else polled

/-- `_onReachabilityChanged`, which is called while it is registered as a listener. -/
def onReachabilityChanged (polled : PolledValue T) (isOnline : Bool) : PolledValue T :=
  if polled.listening then
    if isOnline then polled.resumeFor .unreachable else polled.pauseFor .unreachable
  else polled

/-- `dispose`. -/
def dispose (polled : PolledValue T) : PolledValue T :=
  { polled with disposed := true, listening := false }.stopPolling

/-- The constructor. -/
def new (T : Type) (isOnline : Bool) : PolledValue T :=
  if isOnline then (PolledValue.load {}).startPolling else { pauseReasons := {.unreachable} }

end PolledValue

/-- What can happen to a polled value. -/
inductive PolledLabel (T : Type)
  | tick (timer : ℕ)
  | pauseFor (reason : PolledPauseReason)
  | resumeFor (reason : PolledPauseReason)
  | reachabilityChanged (isOnline : Bool)
  | disposed
  | completed (fetch : ℕ) (outcome : FetchOutcome T)

/-- The steps: a timer that runs ticks, and a fetch that is in flight completes. -/
inductive PolledStep {T : Type} : PolledValue T → PolledLabel T → PolledValue T → Prop
  | tick {polled : PolledValue T} {timer : ℕ} (hruns : timer ∈ polled.timers) :
      PolledStep polled (.tick timer) polled.load
  | pauseFor {polled : PolledValue T} (reason : PolledPauseReason) :
      PolledStep polled (.pauseFor reason) (polled.pauseFor reason)
  | resumeFor {polled : PolledValue T} (reason : PolledPauseReason) :
      PolledStep polled (.resumeFor reason) (polled.resumeFor reason)
  | reachabilityChanged {polled : PolledValue T} (isOnline : Bool) :
      PolledStep polled (.reachabilityChanged isOnline) (polled.onReachabilityChanged isOnline)
  | disposed {polled : PolledValue T} : PolledStep polled .disposed polled.dispose
  | completed {polled : PolledValue T} {fetch : ℕ} (outcome : FetchOutcome T)
      (hinFlight : fetch ∈ polled.inFlight) :
      PolledStep polled (.completed fetch outcome) (polled.completed fetch outcome)

/-! ### What the labels say -/

section Labels

variable {T : Type}

/-- Whether a label has a reason held, or released. -/
def PolledLabel.holds (reason : PolledPauseReason) : PolledLabel T → Option Bool
  | .pauseFor other => if other = reason then some true else none
  | .resumeFor other => if other = reason then some false else none
  | .reachabilityChanged isOnline => if reason = .unreachable then some !isOnline else none
  | _ => none

/-- A tick of a timer. -/
def PolledLabel.isTick : PolledLabel T → Bool
  | .tick _ => true
  | _ => false

/-- A call of `dispose`. -/
def PolledLabel.isDispose : PolledLabel T → Bool
  | .disposed => true
  | _ => false

/-- The fetch that a label completes, with its outcome. -/
def PolledLabel.completion : PolledLabel T → Option (ℕ × FetchOutcome T)
  | .completed fetch outcome => some (fetch, outcome)
  | _ => none

/-- A reason is held after labels: the last one that concerns it has it held. A value that is made
while the app is offline is held for `unreachable` from the start. -/
def ReasonHeld (wasOnline : Bool) (labels : List (PolledLabel T)) (reason : PolledPauseReason) :
    Prop :=
  (labels.filterMap (PolledLabel.holds reason)).getLast?.getD
    (decide (reason = .unreachable) && !wasOnline) = true

instance (wasOnline : Bool) (labels : List (PolledLabel T)) (reason : PolledPauseReason) :
    Decidable (ReasonHeld wasOnline labels reason) :=
  inferInstanceAs (Decidable (_ = true))

/-- Some reason is held after labels. -/
def PausedBy (wasOnline : Bool) (labels : List (PolledLabel T)) : Prop :=
  ∃ reason, ReasonHeld wasOnline labels reason

instance (wasOnline : Bool) (labels : List (PolledLabel T)) :
    Decidable (PausedBy wasOnline labels) :=
  decidable_of_iff _ PolledPauseReason.exists_iff.symm

/-- `dispose` is among the labels. -/
def DisposedBy (labels : List (PolledLabel T)) : Prop := labels.any PolledLabel.isDispose = true

instance (labels : List (PolledLabel T)) : Decidable (DisposedBy labels) :=
  inferInstanceAs (Decidable (_ = true))

variable {wasOnline : Bool} {labels : List (PolledLabel T)}

theorem reasonHeld_append (reason : PolledPauseReason) (label : PolledLabel T) :
    ReasonHeld wasOnline (labels ++ [label]) reason ↔
      (label.holds reason).getD (decide (ReasonHeld wasOnline labels reason)) = true := by
  unfold ReasonHeld
  rw [List.filterMap_append, List.getLast?_append]
  cases hholds : label.holds reason <;> simp [hholds]

theorem disposedBy_append (label : PolledLabel T) :
    DisposedBy (labels ++ [label]) ↔ DisposedBy labels ∨ label.isDispose = true := by
  simp [DisposedBy]

end Labels

/-! ### What a step does -/

section Steps

variable {T : Type} {polled after : PolledValue T} {label : PolledLabel T}

namespace PolledValue

@[simp]
theorem load_pauseReasons : polled.load.pauseReasons = polled.pauseReasons := rfl

@[simp]
theorem startPolling_pauseReasons : polled.startPolling.pauseReasons = polled.pauseReasons := by
  unfold startPolling
  split <;> rfl

theorem pauseFor_eq (reason : PolledPauseReason) :
    (polled.pauseFor reason).pauseReasons = insert reason polled.pauseReasons ∧
      (polled.pauseFor reason).disposed = polled.disposed ∧
      (polled.pauseFor reason).listening = polled.listening ∧
      (polled.pauseFor reason).fetchesStarted = polled.fetchesStarted ∧
      (polled.pauseFor reason).shown = polled.shown := by
  unfold pauseFor
  simp only
  split_ifs <;> exact ⟨rfl, rfl, rfl, rfl, rfl⟩

theorem resumeFor_pauseReasons (reason : PolledPauseReason) (hdisposed : polled.disposed = false) :
    (polled.resumeFor reason).pauseReasons = polled.pauseReasons.erase reason := by
  unfold resumeFor
  rw [hdisposed]
  simp only [Bool.false_eq_true, if_false]
  split_ifs <;> simp

/-- A value that is resumed loads when the last reason is gone. -/
theorem resumeFor_eq (reason : PolledPauseReason) :
    (polled.resumeFor reason).disposed = polled.disposed ∧
      (polled.resumeFor reason).listening = polled.listening ∧
      (polled.resumeFor reason).fetchesStarted = polled.fetchesStarted +
        (if polled.disposed = false ∧ polled.pauseReasons = {reason} then 1 else 0) ∧
      (polled.resumeFor reason).shown = polled.shown := by
  have hlast : (reason ∈ polled.pauseReasons ∧ polled.pauseReasons.erase reason = ∅) ↔
      polled.pauseReasons = {reason} := by
    refine ⟨fun ⟨hmem, herase⟩ ↦ ?_, fun heq ↦ by simp [heq]⟩
    rw [← Finset.insert_erase hmem, herase, insert_empty_eq]
  unfold resumeFor
  by_cases hdisposed : polled.disposed = true
  · simp [hdisposed]
  · simp only [hdisposed, Bool.false_eq_true, if_false, hlast, true_and]
    by_cases heq : polled.pauseReasons = {reason}
    · rw [if_pos heq, if_pos heq]
      unfold startPolling
      split <;> exact ⟨rfl, rfl, rfl, rfl⟩
    · rw [if_neg heq, if_neg heq]
      exact ⟨rfl, rfl, rfl, rfl⟩

theorem completed_eq (fetch : ℕ) (outcome : FetchOutcome T) :
    (polled.completed fetch outcome).pauseReasons = polled.pauseReasons ∧
      (polled.completed fetch outcome).disposed = polled.disposed ∧
      (polled.completed fetch outcome).listening = polled.listening ∧
      (polled.completed fetch outcome).fetchesStarted = polled.fetchesStarted := by
  unfold completed
  simp only
  split_ifs
  · exact ⟨rfl, rfl, rfl, rfl⟩
  · cases outcome <;> exact ⟨rfl, rfl, rfl, rfl⟩

end PolledValue

/-- A value is disposed of by `dispose`, which also has it listen no more. -/
theorem PolledStep.disposed_eq (hstep : PolledStep polled label after) :
    after.disposed = (polled.disposed || label.isDispose) ∧
      after.listening = (polled.listening && !label.isDispose) := by
  have hpause (reason : PolledPauseReason) := (polled.pauseFor_eq reason).2
  have hresume (reason : PolledPauseReason) := polled.resumeFor_eq reason
  cases hstep with
  | tick | disposed => simp [PolledValue.load, PolledLabel.isDispose, PolledValue.dispose,
      PolledValue.stopPolling]
  | pauseFor reason => simp [PolledLabel.isDispose, hpause]
  | resumeFor reason => simp [PolledLabel.isDispose, hresume]
  | reachabilityChanged isOnline =>
    unfold PolledValue.onReachabilityChanged
    split_ifs <;> simp [PolledLabel.isDispose, hpause, hresume]
  | completed outcome => simp [PolledLabel.isDispose, polled.completed_eq]

/-- A value that has not been disposed of and listens is held for what the label has held, and for
the other reasons as before. -/
theorem PolledStep.mem_pauseReasons_iff (hstep : PolledStep polled label after)
    (hlistening : polled.listening = true) (hdisposed : polled.disposed = false)
    (reason : PolledPauseReason) :
    reason ∈ after.pauseReasons ↔
      (label.holds reason).getD (decide (reason ∈ polled.pauseReasons)) = true := by
  have hpaused (other : PolledPauseReason) : reason ∈ (polled.pauseFor other).pauseReasons ↔
      (if other = reason then some true else none).getD
        (decide (reason ∈ polled.pauseReasons)) = true := by
    rw [(polled.pauseFor_eq other).1, Finset.mem_insert]
    split_ifs with hsame
    · simp [hsame]
    · simp [Ne.symm hsame]
  have hresumed (other : PolledPauseReason) : reason ∈ (polled.resumeFor other).pauseReasons ↔
      (if other = reason then some false else none).getD
        (decide (reason ∈ polled.pauseReasons)) = true := by
    rw [polled.resumeFor_pauseReasons other hdisposed, Finset.mem_erase]
    split_ifs with hsame
    · simp [hsame]
    · simp [Ne.symm hsame]
  cases hstep with
  | tick | disposed => simp [PolledLabel.holds, PolledValue.dispose, PolledValue.stopPolling]
  | pauseFor other => exact hpaused other
  | resumeFor other => exact hresumed other
  | reachabilityChanged isOnline =>
    unfold PolledValue.onReachabilityChanged
    simp only [hlistening, if_true, PolledLabel.holds, eq_comm (a := reason)]
    cases isOnline with
    | true => exact hresumed _
    | false => exact hpaused _
  | completed outcome => simp [PolledLabel.holds, polled.completed_eq]

/-- What is shown after a step is what was, and what the step has completed if it is anything. -/
theorem PolledStep.shown_sublist (hstep : PolledStep polled label after) :
    after.shown.Sublist (polled.shown ++ label.completion.toList) := by
  have hkept (shown : List (ℕ × FetchOutcome T)) (hsame : shown = polled.shown) :
      shown.Sublist (polled.shown ++ label.completion.toList) :=
    hsame ▸ List.sublist_append_left _ _
  cases hstep with
  | tick | disposed => exact hkept _ rfl
  | pauseFor reason => exact hkept _ (polled.pauseFor_eq reason).2.2.2.2
  | resumeFor reason => exact hkept _ (polled.resumeFor_eq reason).2.2.2
  | reachabilityChanged isOnline =>
    unfold PolledValue.onReachabilityChanged
    split_ifs
    · exact hkept _ (polled.resumeFor_eq _).2.2.2
    · exact hkept _ (polled.pauseFor_eq _).2.2.2.2
    · exact hkept _ rfl
  | completed outcome =>
    unfold PolledValue.completed
    simp only
    split_ifs
    · exact hkept _ rfl
    · cases outcome with
      | value result | error message => exact List.Sublist.refl _
      | cancelled => exact hkept _ rfl

/-- A fetch is started by a tick, and when the last reason is released. -/
theorem PolledStep.fetchesStarted_eq (hstep : PolledStep polled label after) :
    after.fetchesStarted = polled.fetchesStarted +
      if label.isTick = true ∨
        (polled.disposed = false ∧ polled.pauseReasons ≠ ∅ ∧ after.pauseReasons = ∅)
      then 1 else 0 := by
  have hresumed (reason : PolledPauseReason) :
      (polled.resumeFor reason).fetchesStarted = polled.fetchesStarted +
        if polled.disposed = false ∧ polled.pauseReasons ≠ ∅ ∧
          (polled.resumeFor reason).pauseReasons = ∅ then 1 else 0 := by
    rw [(polled.resumeFor_eq reason).2.2.1]
    refine congrArg _ (if_congr (and_congr_right fun hdisposed ↦ ?_) rfl rfl)
    rw [polled.resumeFor_pauseReasons reason hdisposed, Finset.erase_eq_empty_iff]
    constructor
    · intro hlast
      simp [hlast]
    · exact fun ⟨hheld, hlast⟩ ↦ hlast.resolve_left hheld
  cases hstep with
  | tick => simp [PolledLabel.isTick, PolledValue.load]
  | pauseFor reason => simp [PolledLabel.isTick, polled.pauseFor_eq]
  | resumeFor reason => simpa [PolledLabel.isTick] using hresumed reason
  | reachabilityChanged isOnline =>
    unfold PolledValue.onReachabilityChanged
    by_cases hlistens : polled.listening = true
    · cases isOnline with
      | true => simpa [PolledLabel.isTick, hlistens] using hresumed .unreachable
      | false => simp [PolledLabel.isTick, hlistens, polled.pauseFor_eq]
    · simp +contextual [PolledLabel.isTick, hlistens]
  | disposed => simp [PolledLabel.isTick, PolledValue.dispose, PolledValue.stopPolling]
  | completed outcome => simp +contextual [PolledLabel.isTick, polled.completed_eq]

end Steps

/-! ### What every run keeps -/

/-- The value of an outcome. -/
def FetchOutcome.value? {T : Type} : FetchOutcome T → Option T
  | .value result => some result
  | _ => none

/-- The message of an outcome. -/
def FetchOutcome.message? {T : Type} : FetchOutcome T → Option String
  | .error message => some message
  | _ => none

section Invariant

variable {T : Type} {polled after : PolledValue T} {label : PolledLabel T}

/-- What every run keeps. The latest fetch has the token, and a fetch in flight has shown nothing
yet; together with the order of `shown`, this has every fetch that is shown next come later. -/
structure PolledInvariant (polled : PolledValue T) : Prop where
  timers_eq : polled.timers = polled.pollTimer.toList
  polling_iff : polled.pollTimer.isSome ↔ polled.disposed = false ∧ polled.pauseReasons = ∅
  token_latest : ∀ token, polled.cancelToken = some token ↔ polled.fetchesStarted = token + 1
  inFlight_nodup : polled.inFlight.Nodup
  inFlight_started : ∀ fetch ∈ polled.inFlight, fetch < polled.fetchesStarted
  shown_started : ∀ entry ∈ polled.shown, entry.1 < polled.fetchesStarted
  shown_completed : ∀ entry ∈ polled.shown, entry.1 ∉ polled.inFlight
  shown_increasing : polled.shown.Pairwise fun earlier later ↦ earlier.1 < later.1
  value_eq : polled.value = (polled.shown.filterMap fun entry ↦ entry.2.value?).getLast?
  message_eq : polled.lastErrorMessage = polled.shown.getLast?.bind fun entry ↦ entry.2.message?

theorem PolledInvariant.load (hinvariant : PolledInvariant polled) :
    PolledInvariant polled.load where
  timers_eq := hinvariant.timers_eq
  polling_iff := hinvariant.polling_iff
  token_latest := by simp [PolledValue.load]
  inFlight_nodup := by
    have hfresh : polled.fetchesStarted ∉ polled.inFlight := fun hmem ↦
      lt_irrefl _ (hinvariant.inFlight_started _ hmem)
    simpa [PolledValue.load, List.nodup_append] using
      ⟨hinvariant.inFlight_nodup, fun fetch hmem heq ↦ hfresh (heq ▸ hmem)⟩
  inFlight_started := by
    intro fetch hmem
    simp only [PolledValue.load, List.mem_append, List.mem_singleton] at hmem ⊢
    rcases hmem with hmem | rfl
    · have := hinvariant.inFlight_started fetch hmem
      omega
    · omega
  shown_started := fun entry hmem ↦ Nat.lt_succ_of_lt (hinvariant.shown_started entry hmem)
  shown_completed := by
    intro entry hmem
    have hstarted := hinvariant.shown_started entry hmem
    have hcompleted := hinvariant.shown_completed entry hmem
    simp only [PolledValue.load, List.mem_append, List.mem_singleton, not_or]
    exact ⟨hcompleted, hstarted.ne⟩
  shown_increasing := hinvariant.shown_increasing
  value_eq := hinvariant.value_eq
  message_eq := hinvariant.message_eq

/-- A change of the timer, of the reasons and of what is disposed leaves the rest as it is. -/
theorem PolledInvariant.of_polling (hinvariant : PolledInvariant polled)
    (hrest : after = { polled with
      timers := after.timers
      pollTimer := after.pollTimer
      timersStarted := after.timersStarted
      disposed := after.disposed
      listening := after.listening
      pauseReasons := after.pauseReasons })
    (htimers : after.timers = after.pollTimer.toList)
    (hpolling : after.pollTimer.isSome ↔ after.disposed = false ∧ after.pauseReasons = ∅) :
    PolledInvariant after := by
  rw [hrest]
  exact { hinvariant with timers_eq := htimers, polling_iff := hpolling }

theorem PolledValue.stopPolling_timers (htimers : polled.timers = polled.pollTimer.toList) :
    polled.stopPolling.timers = [] := by
  cases hpollTimer : polled.pollTimer with
  | none => simp [stopPolling, htimers, hpollTimer]
  | some timer => simp [stopPolling, htimers, hpollTimer]

theorem PolledInvariant.pauseFor (hinvariant : PolledInvariant polled)
    (reason : PolledPauseReason) : PolledInvariant (polled.pauseFor reason) := by
  have hpaused : insert reason polled.pauseReasons ≠ ∅ := Finset.insert_ne_empty _ _
  simp only [PolledValue.pauseFor]
  split_ifs with hstop
  · refine hinvariant.of_polling rfl ?_ ?_
    · exact PolledValue.stopPolling_timers hinvariant.timers_eq
    · simp [PolledValue.stopPolling]
  · refine hinvariant.of_polling rfl hinvariant.timers_eq ?_
    -- Another reason, or this one, was held already.
    have hheld : polled.pauseReasons ≠ ∅ := by
      rintro hempty
      simp [hempty] at hstop
    simp [hinvariant.polling_iff, hheld]

theorem PolledInvariant.resumeFor (hinvariant : PolledInvariant polled)
    (reason : PolledPauseReason) : PolledInvariant (polled.resumeFor reason) := by
  simp only [PolledValue.resumeFor]
  split_ifs with hdisposed hresume
  · exact hinvariant
  · obtain ⟨hheld, hnone⟩ := hresume
    have hpollTimer : polled.pollTimer = none := by
      have hpolling := hinvariant.polling_iff
      rw [← Option.not_isSome_iff_eq_none, hpolling]
      rintro ⟨-, hempty⟩
      simp [hempty] at hheld
    have htimers : polled.timers = [] := by simp [hinvariant.timers_eq, hpollTimer]
    refine hinvariant.load.of_polling ?_ ?_ ?_
    · simp [PolledValue.startPolling, PolledValue.load, hpollTimer]
    · simp [PolledValue.startPolling, PolledValue.load, hpollTimer, htimers]
    · simp [PolledValue.startPolling, PolledValue.load, hpollTimer, hnone, hdisposed]
  · refine hinvariant.of_polling rfl hinvariant.timers_eq ?_
    have hsame : polled.pauseReasons.erase reason = ∅ ↔ polled.pauseReasons = ∅ := by
      refine ⟨fun hempty ↦ ?_, fun hempty ↦ by simp [hempty]⟩
      rwa [Finset.erase_eq_of_notMem fun hmem ↦ hresume ⟨hmem, hempty⟩] at hempty
    rw [hinvariant.polling_iff, hsame]

theorem PolledInvariant.dispose (hinvariant : PolledInvariant polled) :
    PolledInvariant polled.dispose := by
  refine hinvariant.of_polling rfl ?_ ?_
  · have hstopped := PolledValue.stopPolling_timers hinvariant.timers_eq
    exact hstopped
  · simp [PolledValue.dispose, PolledValue.stopPolling]

/-- A fetch that is applied has the token, so that no later one has been started, and all that have
shown something were started before it. -/
theorem PolledInvariant.lt_of_latest (hinvariant : PolledInvariant polled) {fetch : ℕ}
    (hinFlight : fetch ∈ polled.inFlight) (hlatest : polled.cancelToken = some fetch) :
    ∀ entry ∈ polled.shown, entry.1 < fetch := by
  intro entry hmem
  have hstarted := hinvariant.shown_started entry hmem
  have htoken := (hinvariant.token_latest fetch).mp hlatest
  have hne : entry.1 ≠ fetch := fun heq ↦
    hinvariant.shown_completed entry hmem (heq ▸ hinFlight)
  omega

theorem PolledInvariant.completed (hinvariant : PolledInvariant polled) {fetch : ℕ}
    (outcome : FetchOutcome T) (hinFlight : fetch ∈ polled.inFlight) :
    PolledInvariant (polled.completed fetch outcome) := by
  have herased : PolledInvariant { polled with inFlight := polled.inFlight.erase fetch } :=
    { hinvariant with
      inFlight_nodup := hinvariant.inFlight_nodup.erase fetch
      inFlight_started := fun other hmem ↦
        hinvariant.inFlight_started other (List.mem_of_mem_erase hmem)
      shown_completed := fun entry hmem hother ↦
        hinvariant.shown_completed entry hmem (List.mem_of_mem_erase hother) }
  simp only [PolledValue.completed]
  split_ifs with hskipped
  · exact herased
  · simp only [not_or, not_not] at hskipped
    obtain ⟨-, hlatest⟩ := hskipped
    have hlt := hinvariant.lt_of_latest hinFlight hlatest.symm
    have hstarted (entry : ℕ × FetchOutcome T) (hmem : entry ∈ polled.shown ++ [(fetch, outcome)]) :
        entry.1 < polled.fetchesStarted := by
      rcases List.mem_append.1 hmem with hmem | hmem
      · exact hinvariant.shown_started entry hmem
      · rw [List.mem_singleton.1 hmem]
        exact hinvariant.inFlight_started fetch hinFlight
    have hcompleted (entry : ℕ × FetchOutcome T)
        (hmem : entry ∈ polled.shown ++ [(fetch, outcome)]) :
        entry.1 ∉ polled.inFlight.erase fetch := by
      rcases List.mem_append.1 hmem with hmem | hmem
      · exact herased.shown_completed entry hmem
      · rw [List.mem_singleton.1 hmem]
        exact hinvariant.inFlight_nodup.not_mem_erase
    have hincreasing : (polled.shown ++ [(fetch, outcome)]).Pairwise
        fun earlier later ↦ earlier.1 < later.1 := by
      rw [List.pairwise_append]
      refine ⟨hinvariant.shown_increasing, List.pairwise_singleton _ _, ?_⟩
      intro entry hmem last hlast
      rw [List.mem_singleton.1 hlast]
      exact hlt entry hmem
    cases outcome with
    | value result =>
      exact { herased with
        shown_started := hstarted
        shown_completed := hcompleted
        shown_increasing := hincreasing
        value_eq := by simp [FetchOutcome.value?]
        message_eq := by simp [FetchOutcome.message?] }
    | error message =>
      exact { herased with
        shown_started := hstarted
        shown_completed := hcompleted
        shown_increasing := hincreasing
        value_eq := by simpa [FetchOutcome.value?] using hinvariant.value_eq
        message_eq := by simp [FetchOutcome.message?] }
    | cancelled => exact herased

/-- The fetch that was started last is shown when it completes, unless it has been cancelled. -/
theorem PolledInvariant.completed_shown (hinvariant : PolledInvariant polled) {fetch : ℕ}
    {outcome : FetchOutcome T} (hdisposed : polled.disposed = false)
    (hlast : polled.fetchesStarted = fetch + 1) (hcancelled : outcome ≠ .cancelled) :
    (polled.completed fetch outcome).shown = polled.shown ++ [(fetch, outcome)] := by
  have htoken : polled.cancelToken = some fetch := (hinvariant.token_latest fetch).mpr hlast
  cases outcome with
  | value result | error message => simp [PolledValue.completed, hdisposed, htoken]
  | cancelled => exact absurd rfl hcancelled

theorem PolledStep.invariant (hstep : PolledStep polled label after)
    (hinvariant : PolledInvariant polled) : PolledInvariant after := by
  cases hstep with
  | tick hruns => exact hinvariant.load
  | pauseFor reason => exact hinvariant.pauseFor reason
  | resumeFor reason => exact hinvariant.resumeFor reason
  | reachabilityChanged isOnline =>
    unfold PolledValue.onReachabilityChanged
    split_ifs
    · exact hinvariant.resumeFor _
    · exact hinvariant.pauseFor _
    · exact hinvariant
  | disposed => exact hinvariant.dispose
  | completed outcome hinFlight => exact hinvariant.completed outcome hinFlight

theorem PolledInvariant.new (isOnline : Bool) : PolledInvariant (PolledValue.new T isOnline) := by
  cases isOnline <;>
    constructor <;> simp [PolledValue.new, PolledValue.load, PolledValue.startPolling, eq_comm]

/-- What is shown, with the fetches that it comes from. -/
def PolledValue.applied (polled : PolledValue T) :
    List (ℕ × FetchOutcome T) × Option T × Option String :=
  (polled.shown, polled.value, polled.lastErrorMessage)

@[simp]
theorem PolledValue.pauseFor_applied (reason : PolledPauseReason) :
    (polled.pauseFor reason).applied = polled.applied := by
  simp only [pauseFor]
  split_ifs <;> rfl

/-- After `dispose`, nothing is applied or notified. -/
theorem PolledStep.of_disposed (hstep : PolledStep polled label after)
    (hdisposed : polled.disposed = true) :
    after.disposed = true ∧ after.applied = polled.applied := by
  cases hstep with
  | tick hruns => exact ⟨hdisposed, rfl⟩
  | pauseFor reason => simp [polled.pauseFor_eq, hdisposed]
  | resumeFor reason => simp [PolledValue.resumeFor, hdisposed]
  | reachabilityChanged isOnline =>
    unfold PolledValue.onReachabilityChanged
    split_ifs <;> simp [PolledValue.resumeFor, polled.pauseFor_eq, hdisposed]
  | disposed => exact ⟨rfl, rfl⟩
  | completed outcome hinFlight =>
    simp [PolledValue.completed, hdisposed, PolledValue.applied]

end Invariant

/-! ### Every run -/

section Runs

variable {T : Type} {isOnline : Bool} {history : List (Taken (PolledValue T) (PolledLabel T))}
  {polled : PolledValue T}

theorem PolledInvariant.of_run (hrun : Run PolledStep (PolledValue.new T isOnline) history polled) :
    PolledInvariant polled :=
  hrun.invariant (fun _ polled ↦ PolledInvariant polled) (PolledInvariant.new isOnline)
    fun _ _ _ _ hinvariant hstep ↦ hstep.invariant hinvariant

/-- What a value has of the labels that have led to it. -/
structure PolledTracked (wasOnline : Bool) (labels : List (PolledLabel T))
    (polled : PolledValue T) : Prop where
  disposed_iff : polled.disposed = true ↔ DisposedBy labels
  listening_eq : polled.listening = !polled.disposed
  held_iff : polled.disposed = false → ∀ reason,
    (reason ∈ polled.pauseReasons ↔ ReasonHeld wasOnline labels reason)
  shown_sublist : polled.shown.Sublist (labels.filterMap PolledLabel.completion)

theorem PolledTracked.new (wasOnline : Bool) :
    PolledTracked wasOnline [] (PolledValue.new T wasOnline) := by
  cases wasOnline <;> constructor <;>
    simp [PolledValue.new, PolledValue.load, PolledValue.startPolling, DisposedBy, ReasonHeld]

theorem PolledTracked.mem_pauseReasons_iff {wasOnline : Bool} {labels : List (PolledLabel T)}
    {label : PolledLabel T} {after : PolledValue T}
    (htracked : PolledTracked wasOnline labels polled) (hstep : PolledStep polled label after)
    (hdisposed : polled.disposed = false) (reason : PolledPauseReason) :
    reason ∈ after.pauseReasons ↔ ReasonHeld wasOnline (labels ++ [label]) reason := by
  have hlistening : polled.listening = true := by rw [htracked.listening_eq, hdisposed]; rfl
  rw [hstep.mem_pauseReasons_iff hlistening hdisposed, reasonHeld_append,
    decide_eq_decide.mpr (htracked.held_iff hdisposed reason)]

theorem PolledTracked.step {wasOnline : Bool} {labels : List (PolledLabel T)}
    {label : PolledLabel T} {after : PolledValue T}
    (htracked : PolledTracked wasOnline labels polled) (hstep : PolledStep polled label after) :
    PolledTracked wasOnline (labels ++ [label]) after := by
  obtain ⟨hdisposed, hlistening⟩ := hstep.disposed_eq
  refine ⟨?_, ?_, fun hkept reason ↦ ?_, ?_⟩
  · rw [hdisposed, Bool.or_eq_true, htracked.disposed_iff, disposedBy_append]
  · rw [hlistening, hdisposed, htracked.listening_eq, Bool.not_or]
  · rw [hdisposed] at hkept
    exact htracked.mem_pauseReasons_iff hstep (Bool.or_eq_false_iff.mp hkept).1 reason
  · refine hstep.shown_sublist.trans ?_
    rw [List.filterMap_append]
    refine htracked.shown_sublist.append ?_
    cases hcompletion : label.completion <;> simp [hcompletion]

theorem PolledTracked.of_run (hrun : Run PolledStep (PolledValue.new T isOnline) history polled) :
    PolledTracked isOnline (history.map (·.label)) polled := by
  refine hrun.invariant (fun history polled ↦
    PolledTracked isOnline (history.map (·.label)) polled) (.new isOnline) ?_
  intro history before label after htracked hstep
  rw [List.map_append]
  exact htracked.step hstep

/-- No reason is held exactly when the labels have none held. -/
theorem PolledTracked.pauseReasons_eq_empty_iff {wasOnline : Bool} {labels : List (PolledLabel T)}
    (htracked : PolledTracked wasOnline labels polled) (hdisposed : polled.disposed = false) :
    polled.pauseReasons = ∅ ↔ ¬ PausedBy wasOnline labels := by
  rw [PausedBy, not_exists, Finset.eq_empty_iff_forall_notMem]
  exact forall_congr' fun reason ↦ not_congr (htracked.held_iff hdisposed reason)

theorem applied_eq_of_dispose (hrun : Run PolledStep (PolledValue.new T isOnline) history polled) :
    ∀ taken ∈ history, taken.label.isDispose = true →
      polled.disposed = true ∧ polled.applied = taken.before.applied := by
  refine hrun.invariant (fun history polled ↦ ∀ taken ∈ history, taken.label.isDispose = true →
    polled.disposed = true ∧ polled.applied = taken.before.applied) (by simp) ?_
  intro history before label after hkept hstep taken hmem hdispose
  rcases List.mem_append.1 hmem with hmem | hmem
  · obtain ⟨hbefore, happlied⟩ := hkept taken hmem hdispose
    obtain ⟨hafter, hsame⟩ := hstep.of_disposed hbefore
    exact ⟨hafter, hsame.trans happlied⟩
  · rw [List.mem_singleton.1 hmem] at hdispose ⊢
    cases hstep with
    | disposed => exact ⟨rfl, rfl⟩
    | _ => cases hdispose

/-- In every run, at most one timer runs, and one does exactly when `dispose` has not been called
and no reason is held; a step starts a fetch exactly when it is a tick or releases the last reason,
as the reasons are counted; what is shown has been completed, by fetches that were started one after
the other, and what the one that was started last completes with is shown, unless it has been
cancelled; and from the call of `dispose` on, what is shown and what has been notified stay as they
are. -/
theorem polled_value_polls_in_order
    (hrun : Run PolledStep (PolledValue.new T isOnline) history polled) :
    polled.timers = polled.pollTimer.toList ∧
      (polled.pollTimer.isSome ↔ ¬ DisposedBy (history.map (·.label)) ∧
        ∀ reason, ¬ ReasonHeld isOnline (history.map (·.label)) reason) ∧
      (∀ label after, PolledStep polled label after →
        after.fetchesStarted = polled.fetchesStarted +
          if label.isTick = true ∨ (¬ DisposedBy (history.map (·.label)) ∧
            PausedBy isOnline (history.map (·.label)) ∧
            ¬ PausedBy isOnline (history.map (·.label) ++ [label])) then 1 else 0) ∧
      polled.shown.Sublist ((history.map (·.label)).filterMap PolledLabel.completion) ∧
      (∀ fetch outcome after, PolledStep polled (.completed fetch outcome) after →
        ¬ DisposedBy (history.map (·.label)) → polled.fetchesStarted = fetch + 1 →
        outcome ≠ .cancelled → after.shown = polled.shown ++ [(fetch, outcome)]) ∧
      (polled.shown.Pairwise fun earlier later ↦ earlier.1 < later.1) ∧
      polled.value = (polled.shown.filterMap fun entry ↦ entry.2.value?).getLast? ∧
      polled.lastErrorMessage = polled.shown.getLast?.bind (fun entry ↦ entry.2.message?) ∧
      ∀ taken ∈ history, taken.label.isDispose = true →
        polled.shown = taken.before.shown ∧ polled.value = taken.before.value ∧
          polled.lastErrorMessage = taken.before.lastErrorMessage := by
  have hinvariant := PolledInvariant.of_run hrun
  have htracked := PolledTracked.of_run hrun
  refine ⟨hinvariant.timers_eq, ?_, fun label after hstep ↦ ?_, htracked.shown_sublist,
    fun fetch outcome after hstep hdisposed hlast hcancelled ↦ ?_, hinvariant.shown_increasing,
    hinvariant.value_eq, hinvariant.message_eq, fun taken hmem hdispose ↦ ?_⟩
  · rw [hinvariant.polling_iff, ← htracked.disposed_iff, Bool.not_eq_true]
    refine and_congr_right fun hdisposed ↦ ?_
    rw [htracked.pauseReasons_eq_empty_iff hdisposed, PausedBy, not_exists]
  · rw [hstep.fetchesStarted_eq]
    refine congrArg _ (if_congr (or_congr_right ?_) rfl rfl)
    rw [← htracked.disposed_iff, Bool.not_eq_true]
    refine and_congr_right fun hdisposed ↦ and_congr ?_ ?_
    · rw [Ne, htracked.pauseReasons_eq_empty_iff hdisposed, not_not]
    · rw [Finset.eq_empty_iff_forall_notMem, PausedBy, not_exists]
      exact forall_congr' fun reason ↦
        not_congr (htracked.mem_pauseReasons_iff hstep hdisposed reason)
  · rw [← htracked.disposed_iff, Bool.not_eq_true] at hdisposed
    cases hstep with
    | completed => exact hinvariant.completed_shown hdisposed hlast hcancelled
  · obtain ⟨-, happlied⟩ := applied_eq_of_dispose hrun taken hmem hdispose
    simpa [PolledValue.applied] using happlied

end Runs

/-- The first fetch ignores its token and completes after the second one. The value is then held for
both reasons: its owner's resuming it does not have it polled, the return of the backend does. A
fetch that completes after the value has been disposed of is not shown. -/
theorem polled_value_polls_in_order_lateFetches : ∃ history polled,
    Run PolledStep (PolledValue.new ℕ true) history polled ∧ polled.pollTimer = none ∧
      (polled.onReachabilityChanged true).fetchesStarted = polled.fetchesStarted + 1 ∧
      ∃ later disposed, Run PolledStep (PolledValue.new ℕ true) (history ++ later) disposed ∧
        disposed.timers = [] ∧ disposed.fetchesStarted = 3 ∧ disposed.shown = [(1, .value 7)] ∧
        disposed.value = some 7 ∧ ∀ taken ∈ history ++ later, taken.label.isDispose = true →
          disposed.shown = taken.before.shown := by
  have hstart : Run PolledStep (PolledValue.new ℕ true) [] (.new ℕ true) := .start
  have hticked := hstart.step (.tick (by decide : 0 ∈ _))
  have hsecond := hticked.step (.completed (.value 7) (by decide : 1 ∈ _))
  have hfirst := hsecond.step (.completed (.value 3) (by decide : 0 ∈ _))
  have hheld := (hfirst.step (.pauseFor .manual)).step (.reachabilityChanged false)
  have hresumed := hheld.step (.resumeFor .manual)
  have hdisposed := (hresumed.step (.reachabilityChanged true)).step .disposed
  have hlast := hdisposed.step (.completed (.value 9) (by decide : 2 ∈ _))
  obtain ⟨-, htimer, hfetches, -⟩ := polled_value_polls_in_order hresumed
  obtain ⟨htimers, -, -, -, -, -, hvalue, -, hdispose⟩ := polled_value_polls_in_order hlast
  refine ⟨_, _, hresumed, ?_, ?_, _, _, by simpa using hlast, htimers, rfl, rfl, hvalue, ?_⟩
  · rw [← Option.not_isSome_iff_eq_none, htimer]
    exact fun ⟨_, hnone⟩ ↦ hnone .unreachable (by decide)
  · exact (hfetches _ _ (.reachabilityChanged true)).trans (by decide)
  · exact fun taken hmem hdisposes ↦ (hdispose taken (by simpa using hmem) hdisposes).1

end Oott
