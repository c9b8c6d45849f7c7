import Oott.Frontend.PolledValue

/-!
# Reachability of the backend

`utils/backend_reachability.dart` with the polled values that listen to it. The interceptor of the
client records how each request has ended: a response makes the backend reachable, an error without
one makes it unreachable. A change is notified to the polled values, which are held while the app is
offline. The device reports its network, and a probe is a request of its own. A request in flight is
a fetch of a polled value, a probe, or any other request; it may have several outcomes recorded, as
the client retries, and the values that share the app have one type of results.

In every run the state is that of the last outcome and the last report, and a polled value polls
exactly while the app is online and its owner wants it (`polling_follows_reachability`), which is
read off what the owner has done (`OwnerWants`). An app that is offline with nothing in flight comes
back by a retry, a change of the network or another request only: nothing polls to find that the
backend has returned. What the `OfflineBanner` shows is left out: it is built on a notification
only, and a failure while the backend is already unreachable does not notify.
-/

set_option autoImplicit false
set_option relaxedAutoImplicit false

namespace Oott

open Effects

/-! ### Errors of the client -/

/-- `DioExceptionType`. -/
inductive DioExceptionType
  | connectionTimeout
  | sendTimeout
  | receiveTimeout
  | badCertificate
  | badResponse
  | cancel
  | connectionError
  | unknown
deriving DecidableEq

/-- `DioException`, with the status of its response if it has one. -/
structure DioException where
  type : DioExceptionType
  response : Option (Option Int) := none

/-- `dioErrorToUserMessage`, for the errors of the client. -/
def dioErrorToUserMessage (error : DioException) : String :=
  match error.type with
  | .connectionTimeout | .sendTimeout | .receiveTimeout => "Backend did not respond in time."
  | .connectionError => "Cannot reach backend. Check the base URL and your network."
  | .badCertificate => "Backend TLS certificate could not be verified."
  | .cancel => "Request canceled."
  | .badResponse =>
    match error.response.join with
    | none => "Unexpected response from backend (status unknown)."
    | some status =>
      if status = 401 ∨ status = 403 then
        "Authentication failed. Check your API key in Settings."
      else if status = 404 then "Not found."
      else if 500 ≤ status ∧ status < 600 then
        "Backend error (status " ++ toString status ++ "). Please try again."
      else "Unexpected response from backend (status " ++ toString status ++ ")."
  | .unknown => "Unexpected error contacting backend."

/-- `_isConnectionLevel`. -/
def DioException.isConnectionLevel (error : DioException) : Bool :=
  error.type ≠ .cancel ∧ error.response = none

/-- `ConnectivityResult`: no network, or one of some kind. -/
inductive ConnectivityResult
  | none
  | network (kind : String)
deriving DecidableEq

/-! ### The state and its listeners -/

/-- `BackendReachability`, without the times of the last success and the last failure. -/
structure BackendReachability where
  prober : Bool := false
  deviceHasNetwork : Bool := true
  isBackendReachable : Bool := true
  lastErrorMessage : Option String := none
  probing : Bool := false

/-- `isOnline`. -/
def BackendReachability.isOnline (reachability : BackendReachability) : Bool :=
  reachability.deviceHasNetwork && reachability.isBackendReachable

/-- The app: the reachability, the polled values that have been made, and how many probes and other
requests are in flight. -/
structure PollingApp (T : Type) where
  reachability : BackendReachability := {}
  polled : List (PolledValue T) := []
  probesInFlight : ℕ := 0
  otherRequests : ℕ := 0

namespace PollingApp

variable {T : Type}

/-- The app is online. -/
abbrev isOnline (app : PollingApp T) : Bool := app.reachability.isOnline

/-- `notifyListeners`. -/
def notifyListeners (app : PollingApp T) : PollingApp T :=
  { app with polled := app.polled.map fun polled ↦ polled.onReachabilityChanged app.isOnline }

/-- `recordSuccess`. -/
def recordSuccess (app : PollingApp T) : PollingApp T :=
  let wasReachable := app.reachability.isBackendReachable
  let app := { app with reachability :=
    { app.reachability with lastErrorMessage := none, isBackendReachable := true } }
  if wasReachable then app else app.notifyListeners

/-- `recordFailure`. -/
def recordFailure (app : PollingApp T) (error : DioException) : PollingApp T :=
  if error.isConnectionLevel then
    let wasReachable := app.reachability.isBackendReachable
    let app := { app with reachability :=
      { app.reachability with
        lastErrorMessage := some (dioErrorToUserMessage error)
        isBackendReachable := false } }
    if wasReachable then app.notifyListeners else app
  else app

/-- What the interceptor does with a response, or with an error. -/
def record (app : PollingApp T) (outcome : Option DioException) : PollingApp T :=
  match outcome with
  | none => app.recordSuccess
  | some error => app.recordFailure error

/-- `probe`, up to the call of the prober. -/
def probe (app : PollingApp T) : PollingApp T :=
  if app.reachability.prober = false ∨ app.reachability.probing then app
  else
    let app := { app with reachability := { app.reachability with probing := true } }
    { app.notifyListeners with probesInFlight := app.probesInFlight + 1 }

/-- `probe`, from the completion of the prober on. -/
def probeCompleted (app : PollingApp T) : PollingApp T :=
  { app with
    probesInFlight := app.probesInFlight - 1
    reachability := { app.reachability with probing := false } }.notifyListeners

/-- `_handleConnectivityChange`. -/
def handleConnectivityChange (app : PollingApp T) (results : List ConnectivityResult) :
    PollingApp T :=
  let hasNetwork := results.any (· ≠ .none)
  if hasNetwork = app.reachability.deviceHasNetwork then app
  else
    let app := { app with
      reachability := { app.reachability with deviceHasNetwork := hasNetwork } }.notifyListeners
    if hasNetwork then app.probe else app

/-- No request is in flight. -/
def Quiet (app : PollingApp T) : Prop :=
  app.probesInFlight = 0 ∧ app.otherRequests = 0 ∧ ∀ polled ∈ app.polled, polled.inFlight = []

end PollingApp

/-- What happens to a polled value other than by its reachability: its owner pauses and resumes it
for the reason `manual`. -/
def PolledLabel.Own {T : Type} : PolledLabel T → Prop
  | .pauseFor reason | .resumeFor reason => reason = .manual
  | .reachabilityChanged _ => False
  | .tick _ | .disposed | .completed _ _ => True

theorem PolledLabel.Own.holds_unreachable {T : Type} {label : PolledLabel T} (hown : label.Own) :
    label.holds .unreachable = none := by
  cases label with
  | pauseFor reason | resumeFor reason =>
    rw [show reason = .manual from hown]
    rfl
  | reachabilityChanged => exact hown.elim
  | tick | disposed | completed => rfl

/-- What can happen to the app. -/
inductive PollingAppLabel (T : Type)
  | setProber
  | connectivityReported (results : List ConnectivityResult)
  | recorded (outcome : Option DioException)
  | retryPressed
  | probeCompleted
  | requested
  | requestCompleted
  | mounted
  | polled (index : ℕ) (label : PolledLabel T)

/-- The steps. An outcome is that of a request in flight. -/
inductive PollingAppStep {T : Type} : PollingApp T → PollingAppLabel T → PollingApp T → Prop
  | setProber {app : PollingApp T} :
      PollingAppStep app .setProber
        { app with reachability := { app.reachability with prober := true } }
  | connectivityReported {app : PollingApp T} (results : List ConnectivityResult) :
      PollingAppStep app (.connectivityReported results) (app.handleConnectivityChange results)
  | recorded {app : PollingApp T} (outcome : Option DioException) (hinFlight : ¬ app.Quiet) :
      PollingAppStep app (.recorded outcome) (app.record outcome)
  | retryPressed {app : PollingApp T} : PollingAppStep app .retryPressed app.probe
  | probeCompleted {app : PollingApp T} (hinFlight : app.probesInFlight ≠ 0) :
      PollingAppStep app .probeCompleted app.probeCompleted
  | requested {app : PollingApp T} :
      PollingAppStep app .requested { app with otherRequests := app.otherRequests + 1 }
  | requestCompleted {app : PollingApp T} (hinFlight : app.otherRequests ≠ 0) :
      PollingAppStep app .requestCompleted { app with otherRequests := app.otherRequests - 1 }
  | mounted {app : PollingApp T} :
      PollingAppStep app .mounted { app with polled := app.polled ++ [.new T app.isOnline] }
  | polled {app : PollingApp T} {index : ℕ} {before after : PolledValue T} {label : PolledLabel T}
      (hpolled : app.polled[index]? = some before) (hown : label.Own)
      (hstep : PolledStep before label after) :
      PollingAppStep app (.polled index label) { app with polled := app.polled.set index after }

/-! ### A polled value and its reachability -/

namespace PolledValue

variable {T : Type} {polled : PolledValue T}

theorem pauseFor_of_mem {reason : PolledPauseReason} (hmem : reason ∈ polled.pauseReasons) :
    polled.pauseFor reason = polled := by
  simp [pauseFor, hmem]

theorem resumeFor_of_notMem {reason : PolledPauseReason} (hmem : reason ∉ polled.pauseReasons) :
    polled.resumeFor reason = polled := by
  simp [resumeFor, hmem]

end PolledValue

section Following

variable {T : Type} {polled after : PolledValue T} {label : PolledLabel T}
  {isOnline wasOnline : Bool}

/-- A polled value that listens until it is disposed of, and until then is held for the reason
`unreachable` exactly while the app is offline. -/
structure Follows (isOnline : Bool) (polled : PolledValue T) : Prop where
  invariant : PolledInvariant polled
  listening_eq : polled.listening = !polled.disposed
  held_iff : polled.disposed = false →
    (PolledPauseReason.unreachable ∈ polled.pauseReasons ↔ isOnline = false)

theorem Follows.listens (hfollows : Follows isOnline polled) (hdisposed : polled.disposed = false) :
    polled.listening = true := by
  rw [hfollows.listening_eq, hdisposed]
  rfl

/-- Nothing but the reachability keeps the value from polling. -/
def PolledValue.Wanted (polled : PolledValue T) : Prop :=
  polled.disposed = false ∧ PolledPauseReason.manual ∉ polled.pauseReasons

instance : Decidable polled.Wanted := inferInstanceAs (Decidable (_ ∧ _))

/-- There are two reasons. -/
theorem PolledValue.forall_reason {motive : PolledPauseReason → Prop} :
    (∀ reason, motive reason) ↔ motive .manual ∧ motive .unreachable := by
  refine ⟨fun hall ↦ ⟨hall _, hall _⟩, fun ⟨hmanual, hunreachable⟩ reason ↦ ?_⟩
  cases reason with
  | manual => exact hmanual
  | unreachable => exact hunreachable

theorem Follows.new (isOnline : Bool) : Follows isOnline (PolledValue.new T isOnline) := by
  refine ⟨.new isOnline, ?_, fun _ ↦ ?_⟩ <;>
    cases isOnline <;> simp [PolledValue.new, PolledValue.load, PolledValue.startPolling]

/-- A value that follows already is not changed by being told once more. -/
theorem Follows.unchanged (hfollows : Follows isOnline polled) :
    polled.onReachabilityChanged isOnline = polled := by
  unfold PolledValue.onReachabilityChanged
  rw [hfollows.listening_eq]
  by_cases hdisposed : polled.disposed = true
  · simp [hdisposed]
  · have hheld := hfollows.held_iff (Bool.not_eq_true _ ▸ hdisposed)
    simp only [Bool.not_eq_true _ ▸ hdisposed, Bool.not_false, if_true]
    cases isOnline with
    | true => exact PolledValue.resumeFor_of_notMem (by simp [hheld])
    | false => exact PolledValue.pauseFor_of_mem (by simp [hheld])

/-- A value that is told follows. -/
theorem Follows.told (hfollows : Follows wasOnline polled) (isOnline : Bool) :
    Follows isOnline (polled.onReachabilityChanged isOnline) := by
  have hstep : PolledStep polled (.reachabilityChanged isOnline) _ := .reachabilityChanged isOnline
  obtain ⟨hdisposed, hlistening⟩ := hstep.disposed_eq
  refine ⟨hstep.invariant hfollows.invariant, ?_, fun hkept ↦ ?_⟩
  · rw [hlistening, hdisposed, hfollows.listening_eq, Bool.not_or]
  · rw [hdisposed] at hkept
    have hkept := (Bool.or_eq_false_iff.mp hkept).1
    rw [hstep.mem_pauseReasons_iff (hfollows.listens hkept) hkept]
    cases isOnline <;> simp [PolledLabel.holds]

/-- What its owner does, its timers and its fetches leave a value following. -/
theorem Follows.step (hfollows : Follows isOnline polled) (hown : label.Own)
    (hstep : PolledStep polled label after) : Follows isOnline after := by
  obtain ⟨hdisposed, hlistening⟩ := hstep.disposed_eq
  refine ⟨hstep.invariant hfollows.invariant, ?_, fun hkept ↦ ?_⟩
  · rw [hlistening, hdisposed, hfollows.listening_eq, Bool.not_or]
  · rw [hdisposed] at hkept
    have hbefore := (Bool.or_eq_false_iff.mp hkept).1
    rw [hstep.mem_pauseReasons_iff (hfollows.listens hbefore) hbefore, hown.holds_unreachable,
      Option.getD_none, decide_eq_true_iff, hfollows.held_iff hbefore]

/-- A value that follows polls exactly while the app is online and its owner wants it. -/
theorem Follows.polling_iff (hfollows : Follows isOnline polled) :
    polled.pollTimer.isSome ↔ isOnline = true ∧ polled.Wanted := by
  rw [hfollows.invariant.polling_iff, Finset.eq_empty_iff_forall_notMem,
    PolledValue.forall_reason, PolledValue.Wanted]
  constructor
  · rintro ⟨hdisposed, hmanual, hunreachable⟩
    rw [hfollows.held_iff hdisposed, Bool.not_eq_false] at hunreachable
    exact ⟨hunreachable, hdisposed, hmanual⟩
  · rintro ⟨honline, hdisposed, hmanual⟩
    refine ⟨hdisposed, hmanual, ?_⟩
    rw [hfollows.held_iff hdisposed, honline]
    exact nofun

/-- A value that is told loads exactly when the app has come online and its owner wants it. -/
theorem Follows.fetchesStarted_told (hfollows : Follows wasOnline polled) (isOnline : Bool) :
    (polled.onReachabilityChanged isOnline).fetchesStarted = polled.fetchesStarted +
      if wasOnline = false ∧ isOnline = true ∧ polled.Wanted then 1 else 0 := by
  unfold PolledValue.onReachabilityChanged
  rw [hfollows.listening_eq]
  by_cases hdisposed : polled.disposed = true
  · simp [hdisposed, PolledValue.Wanted]
  · rw [Bool.not_eq_true] at hdisposed
    simp only [hdisposed, Bool.not_false, if_true]
    cases isOnline with
    | true =>
      have hlast : (polled.disposed = false ∧ polled.pauseReasons = {.unreachable}) ↔
          wasOnline = false ∧ true = true ∧ polled.Wanted := by
        rw [Finset.ext_iff, PolledValue.forall_reason, ← hfollows.held_iff hdisposed,
          PolledValue.Wanted]
        simp [hdisposed, and_comm]
      rw [if_pos rfl, (polled.resumeFor_eq .unreachable).2.2.1, if_congr hlast rfl rfl]
    | false => simpa using (polled.pauseFor_eq .unreachable).2.2.2.1

/-- What a polled value has of what its owner has done. -/
structure OwnedBy (labels : List (PolledLabel T)) (polled : PolledValue T) : Prop where
  disposed_iff : polled.disposed = true ↔ DisposedBy labels
  manual_iff : polled.disposed = false →
    (PolledPauseReason.manual ∈ polled.pauseReasons ↔ ReasonHeld true labels .manual)

/-- The owner of a value wants it to poll: it has not disposed of it, and has not paused it since it
last resumed it. -/
def OwnerWants (labels : List (PolledLabel T)) : Prop :=
  ¬ DisposedBy labels ∧ ¬ ReasonHeld true labels .manual

instance (labels : List (PolledLabel T)) : Decidable (OwnerWants labels) :=
  inferInstanceAs (Decidable (_ ∧ _))

variable {labels : List (PolledLabel T)}

theorem OwnedBy.wanted_iff (howned : OwnedBy labels polled) :
    polled.Wanted ↔ OwnerWants labels := by
  unfold PolledValue.Wanted OwnerWants
  rw [← howned.disposed_iff, Bool.not_eq_true]
  exact and_congr_right fun hdisposed ↦ not_congr (howned.manual_iff hdisposed)

theorem OwnedBy.new (isOnline : Bool) : OwnedBy [] (PolledValue.new T isOnline) := by
  cases isOnline <;> constructor <;>
    simp [PolledValue.new, PolledValue.load, PolledValue.startPolling, DisposedBy, ReasonHeld]

/-- A step of a value is one of its owner, or does not concern the owner. -/
theorem OwnedBy.step (howned : OwnedBy labels polled) (hfollows : Follows wasOnline polled)
    (hstep : PolledStep polled label after) : OwnedBy (labels ++ [label]) after := by
  obtain ⟨hdisposed, -⟩ := hstep.disposed_eq
  refine ⟨?_, fun hkept ↦ ?_⟩
  · rw [hdisposed, Bool.or_eq_true, howned.disposed_iff, disposedBy_append]
  · rw [hdisposed] at hkept
    have hbefore := (Bool.or_eq_false_iff.mp hkept).1
    rw [hstep.mem_pauseReasons_iff (hfollows.listens hbefore) hbefore, reasonHeld_append,
      decide_eq_decide.mpr (howned.manual_iff hbefore)]

/-- What a value is told does not concern its owner. -/
theorem OwnedBy.told (howned : OwnedBy labels polled) (hfollows : Follows wasOnline polled)
    (isOnline : Bool) : OwnedBy labels (polled.onReachabilityChanged isOnline) := by
  have htold := howned.step hfollows (.reachabilityChanged isOnline)
  refine ⟨?_, fun hdisposed ↦ ?_⟩
  · rw [htold.disposed_iff, disposedBy_append]
    simp [PolledLabel.isDispose]
  · rw [htold.manual_iff hdisposed, reasonHeld_append]
    simp [PolledLabel.holds]

end Following

/-! ### The app -/

/-- What the owner of a value has done to it. -/
def ownLabels {T : Type} (index : ℕ) (history : List (Taken (PollingApp T) (PollingAppLabel T))) :
    List (PolledLabel T) :=
  history.filterMap fun taken ↦
    match taken.label with
    | .polled other label => if other = index then some label else none
    | _ => none

/-- The outcome that a step has recorded, with the error of one that makes the backend
unreachable. -/
def outcomeOf {T : Type} (taken : Taken (PollingApp T) (PollingAppLabel T)) :
    Option (Option DioException) :=
  match taken.label with
  | .recorded none => some none
  | .recorded (some error) => if error.isConnectionLevel then some (some error) else none
  | _ => none

/-- Whether a step has reported a network. -/
def reportOf {T : Type} (taken : Taken (PollingApp T) (PollingAppLabel T)) : Option Bool :=
  match taken.label with
  | .connectivityReported results => some (results.any (· ≠ .none))
  | _ => none

/-- A step that can bring an app back on which nothing is in flight. -/
def Recovers {T : Type} (taken : Taken (PollingApp T) (PollingAppLabel T)) : Prop :=
  match taken.label with
  | .retryPressed | .requested => True
  | .connectivityReported results =>
    results.any (· ≠ .none) ≠ taken.before.reachability.deviceHasNetwork
  | _ => False

/-- A step of the reachability and its requests, which tells the values. -/
def PollingAppLabel.Tells {T : Type} : PollingAppLabel T → Prop
  | .mounted | .polled _ _ => False
  | _ => True

section Steps

variable {T : Type} {app after : PollingApp T} {label : PollingAppLabel T}

/-- All polled values follow the reachability. -/
def PollingApp.AllFollow (app : PollingApp T) : Prop :=
  ∀ polled ∈ app.polled, Follows app.isOnline polled

/-- The values after all have been told. -/
def PollingApp.told (app : PollingApp T) (isOnline : Bool) : List (PolledValue T) :=
  app.polled.map fun polled ↦ polled.onReachabilityChanged isOnline

theorem PollingApp.AllFollow.told_eq (hfollow : app.AllFollow) :
    app.told app.isOnline = app.polled := by
  unfold PollingApp.told
  exact (List.map_congr_left fun polled hmem ↦ (hfollow polled hmem).unchanged).trans
    (List.map_id' _)

/-- Telling the values twice is telling them once. -/
theorem PollingApp.AllFollow.told_twice (hfollow : app.AllFollow) (isOnline : Bool) :
    (app.told isOnline).map (fun polled ↦ polled.onReachabilityChanged isOnline) =
      app.told isOnline := by
  unfold PollingApp.told
  rw [List.map_map]
  exact List.map_congr_left fun polled hmem ↦ ((hfollow polled hmem).told isOnline).unchanged

/-- What a probe leaves of the reachability, and whom it tells. -/
theorem PollingApp.probe_eq (app : PollingApp T) :
    app.probe.reachability = { app.reachability with
      probing := app.reachability.probing || app.reachability.prober } ∧
    (app.probe.polled = app.polled ∨ app.probe.polled = app.told app.isOnline) := by
  unfold PollingApp.probe
  by_cases hskipped : app.reachability.prober = false ∨ app.reachability.probing = true
  · rw [if_pos hskipped]
    refine ⟨?_, Or.inl rfl⟩
    rcases hskipped with hprober | hprobing
    · rw [hprober, Bool.or_false]
    · rw [hprobing, Bool.true_or, ← hprobing]
  · rw [if_neg hskipped]
    rw [not_or, Bool.not_eq_false, Bool.not_eq_true] at hskipped
    refine ⟨?_, Or.inr rfl⟩
    rw [hskipped.1, hskipped.2]
    rfl

/-- A step that is not one of a value tells all values what the app has come to. -/
theorem PollingAppStep.told (hstep : PollingAppStep app label after) (htells : label.Tells)
    (hfollow : app.AllFollow) : after.polled = app.told after.isOnline := by
  have hsame : app.polled = app.told app.isOnline := hfollow.told_eq.symm
  have hprobe : app.probe.polled = app.told app.probe.isOnline := by
    obtain ⟨hreachability, hpolled⟩ := app.probe_eq
    have honline : app.probe.isOnline = app.isOnline := by
      unfold PollingApp.isOnline
      rw [hreachability]
      rfl
    rw [honline]
    exact hpolled.elim (fun h ↦ h.trans hsame) id
  cases hstep with
  | setProber | requested | requestCompleted => exact hsame
  | connectivityReported results =>
    unfold PollingApp.handleConnectivityChange
    simp only
    split_ifs with hequal hnetwork
    · exact hsame
    · set changed : PollingApp T := PollingApp.notifyListeners _ with hchanged
      have honline : changed.probe.isOnline = changed.isOnline := by
        unfold PollingApp.isOnline
        rw [changed.probe_eq.1]
        rfl
      rw [honline]
      refine changed.probe_eq.2.elim id fun htold ↦ htold.trans ?_
      exact hfollow.told_twice _
    · rfl
  | recorded outcome =>
    cases outcome with
    | none =>
      unfold PollingApp.record PollingApp.recordSuccess
      simp only
      split_ifs with hreachable
      · have honline : (PollingApp.isOnline { app with reachability :=
            { app.reachability with lastErrorMessage := none, isBackendReachable := true } }) =
            app.isOnline := by
          simp [PollingApp.isOnline, BackendReachability.isOnline, hreachable]
        rw [honline]
        exact hsame
      · rfl
    | some error =>
      unfold PollingApp.record PollingApp.recordFailure
      simp only
      split_ifs with hconnection hreachable
      · rfl
      · have honline : (PollingApp.isOnline { app with reachability :=
            { app.reachability with
              lastErrorMessage := some (dioErrorToUserMessage error)
              isBackendReachable := false } }) = app.isOnline := by
          simp [PollingApp.isOnline, BackendReachability.isOnline, hreachable]
        rw [honline]
        exact hsame
      · exact hsame
  | retryPressed => exact hprobe
  | probeCompleted => rfl
  | mounted | polled => exact htells.elim

/-- Every step leaves all values following. -/
theorem PollingAppStep.allFollow (hstep : PollingAppStep app label after)
    (hfollow : app.AllFollow) : after.AllFollow := by
  have htold (htells : label.Tells) : after.AllFollow := by
    intro polled hmem
    rw [hstep.told htells hfollow] at hmem
    obtain ⟨before, hbefore, rfl⟩ := List.mem_map.mp hmem
    exact (hfollow before hbefore).told _
  cases hstep with
  | mounted =>
    refine List.forall_mem_append.mpr ⟨hfollow, ?_⟩
    exact List.forall_mem_singleton.mpr (Follows.new _)
  | polled hpolled hown hstep =>
    intro polled hmem
    rcases List.mem_or_eq_of_mem_set hmem with hother | rfl
    · exact hfollow polled hother
    · exact (hfollow _ (List.mem_of_getElem? hpolled)).step hown hstep
  | _ => exact htold trivial

/-- What a step does to what the app knows. -/
theorem PollingAppStep.reachability_eq (hstep : PollingAppStep app label after) :
    after.reachability.lastErrorMessage =
        ((outcomeOf ⟨app, label⟩).map (·.map dioErrorToUserMessage)).getD
          app.reachability.lastErrorMessage ∧
      after.reachability.isBackendReachable =
        ((outcomeOf ⟨app, label⟩).map (·.isNone)).getD app.reachability.isBackendReachable ∧
      after.reachability.deviceHasNetwork =
        (reportOf ⟨app, label⟩).getD app.reachability.deviceHasNetwork := by
  have hprobe (app : PollingApp T) :
      app.probe.reachability.lastErrorMessage = app.reachability.lastErrorMessage ∧
      app.probe.reachability.isBackendReachable = app.reachability.isBackendReachable ∧
      app.probe.reachability.deviceHasNetwork = app.reachability.deviceHasNetwork := by
    rw [app.probe_eq.1]
    exact ⟨rfl, rfl, rfl⟩
  cases hstep with
  | connectivityReported results =>
    unfold PollingApp.handleConnectivityChange
    simp only
    split_ifs with hequal hnetwork
    · exact ⟨rfl, rfl, hequal.symm⟩
    · exact hprobe _
    · exact ⟨rfl, rfl, rfl⟩
  | recorded outcome =>
    cases outcome with
    | none =>
      unfold PollingApp.record PollingApp.recordSuccess
      simp only
      split_ifs <;> exact ⟨rfl, rfl, rfl⟩
    | some error =>
      unfold PollingApp.record PollingApp.recordFailure outcomeOf
      simp only
      split_ifs <;> exact ⟨rfl, rfl, rfl⟩
  | retryPressed => exact hprobe app
  | _ => exact ⟨rfl, rfl, rfl⟩

/-- Every value has what its owner has done, and nothing has been done to one that has not been
made. -/
structure AllOwned (history : List (Taken (PollingApp T) (PollingAppLabel T)))
    (app : PollingApp T) : Prop where
  ownedBy : ∀ index polled, app.polled[index]? = some polled →
    OwnedBy (ownLabels index history) polled
  ownLabels_eq_nil : ∀ index, app.polled.length ≤ index → ownLabels index history = []

theorem ownLabels_append {history : List (Taken (PollingApp T) (PollingAppLabel T))}
    (index : ℕ) :
    ownLabels index (history ++ [⟨app, label⟩]) = ownLabels index history ++
      match label with
      | .polled other label => if other = index then [label] else []
      | _ => [] := by
  unfold ownLabels
  rw [List.filterMap_append]
  cases label with
  | polled other label => by_cases hsame : other = index <;> simp [hsame]
  | _ => rfl

theorem AllOwned.step {history : List (Taken (PollingApp T) (PollingAppLabel T))}
    (howned : AllOwned history app) (hfollow : app.AllFollow)
    (hstep : PollingAppStep app label after) : AllOwned (history ++ [⟨app, label⟩]) after := by
  have htold (htells : label.Tells) : AllOwned (history ++ [⟨app, label⟩]) after := by
    have hsame (index : ℕ) : ownLabels index (history ++ [⟨app, label⟩]) =
        ownLabels index history := by
      rw [ownLabels_append]
      cases label with
      | mounted | polled => exact htells.elim
      | _ => exact List.append_nil _
    have hpolled := hstep.told htells hfollow
    refine ⟨fun index polled hmem ↦ ?_, fun index hlength ↦ ?_⟩
    · rw [hpolled, PollingApp.told, List.getElem?_map, Option.map_eq_some_iff] at hmem
      obtain ⟨before, hbefore, rfl⟩ := hmem
      rw [hsame]
      exact (howned.ownedBy index before hbefore).told
        (hfollow before (List.mem_of_getElem? hbefore)) _
    · rw [hpolled, PollingApp.told, List.length_map] at hlength
      rw [hsame, howned.ownLabels_eq_nil index hlength]
  cases hstep with
  | mounted =>
    refine ⟨fun index polled hmem ↦ ?_, fun index hlength ↦ ?_⟩
    · rw [ownLabels_append, List.append_nil]
      by_cases hlength : index < app.polled.length
      · rw [List.getElem?_append_left hlength] at hmem
        exact howned.ownedBy index polled hmem
      · rw [not_lt] at hlength
        rw [List.getElem?_append_right hlength, List.getElem?_singleton] at hmem
        rw [howned.ownLabels_eq_nil index hlength]
        split_ifs at hmem
        cases hmem
        exact .new _
    · rw [ownLabels_append, List.append_nil]
      rw [List.length_append] at hlength
      exact howned.ownLabels_eq_nil index (by omega)
  | @polled changed before later label hpolled hown hstep =>
    have hmade := List.getElem?_eq_some_iff.mp hpolled
    refine ⟨fun index polled hmem ↦ ?_, fun index hlength ↦ ?_⟩
    · rw [ownLabels_append]
      by_cases hsame : changed = index
      · subst hsame
        rw [List.getElem?_set_self hmade.1, Option.some.injEq] at hmem
        subst hmem
        simpa using (howned.ownedBy changed before hpolled).step
          (hfollow before (List.mem_of_getElem? hpolled)) hstep
      · rw [List.getElem?_set_ne hsame] at hmem
        simpa [hsame] using howned.ownedBy index polled hmem
    · rw [List.length_set] at hlength
      have hne : changed ≠ index := by
        rintro rfl
        exact absurd hmade.1 (not_lt.mpr hlength)
      simpa [ownLabels_append, hne] using howned.ownLabels_eq_nil index hlength
  | _ => exact htold trivial

/-- A probe is in flight exactly while `probing` is set. -/
def PollingApp.OneProbe (app : PollingApp T) : Prop :=
  app.probesInFlight = if app.reachability.probing then 1 else 0

theorem PollingApp.OneProbe.probe (hprobes : app.OneProbe) : app.probe.OneProbe := by
  unfold PollingApp.probe
  split_ifs with hskipped
  · exact hprobes
  · rw [not_or, Bool.not_eq_true] at hskipped
    unfold PollingApp.OneProbe at hprobes
    rw [hskipped.2] at hprobes
    exact congrArg (· + 1) hprobes

theorem PollingAppStep.oneProbe (hstep : PollingAppStep app label after)
    (hprobes : app.OneProbe) : after.OneProbe := by
  cases hstep with
  | connectivityReported results =>
    unfold PollingApp.handleConnectivityChange
    simp only
    split_ifs
    · exact hprobes
    · exact PollingApp.OneProbe.probe hprobes
    · exact hprobes
  | recorded outcome =>
    cases outcome with
    | none =>
      unfold PollingApp.record PollingApp.recordSuccess
      simp only
      split_ifs <;> exact hprobes
    | some error =>
      unfold PollingApp.record PollingApp.recordFailure
      simp only
      split_ifs <;> exact hprobes
  | retryPressed => exact hprobes.probe
  | probeCompleted hinFlight =>
    unfold PollingApp.OneProbe at hprobes
    show app.probesInFlight - 1 = 0
    split_ifs at hprobes <;> omega
  | _ => exact hprobes

/-! ### An app at rest -/

/-- While the app is offline and nothing is in flight, a step that cannot recover it leaves it so:
no timer runs, and what is made or resumed is held. -/
theorem PollingAppStep.quiet (hstep : PollingAppStep app label after) (hfollow : app.AllFollow)
    (hquiet : app.Quiet) (hoffline : app.isOnline = false) (hrest : ¬ Recovers ⟨app, label⟩) :
    after.Quiet ∧ after.isOnline = false := by
  obtain ⟨hprobes, hothers, hfetches⟩ := hquiet
  cases hstep with
  | setProber => exact ⟨⟨hprobes, hothers, hfetches⟩, hoffline⟩
  | connectivityReported results =>
    have hequal : results.any (· ≠ .none) = app.reachability.deviceHasNetwork := not_not.mp hrest
    unfold PollingApp.handleConnectivityChange
    rw [if_pos hequal]
    exact ⟨⟨hprobes, hothers, hfetches⟩, hoffline⟩
  | recorded outcome hinFlight => exact (hinFlight ⟨hprobes, hothers, hfetches⟩).elim
  | retryPressed | requested => exact (hrest trivial).elim
  | probeCompleted hinFlight => exact (hinFlight hprobes).elim
  | requestCompleted hinFlight => exact (hinFlight hothers).elim
  | mounted =>
    refine ⟨⟨hprobes, hothers, List.forall_mem_append.mpr ⟨hfetches, ?_⟩⟩, hoffline⟩
    rw [hoffline, List.forall_mem_singleton]
    rfl
  | @polled index before after label hpolled hown hstep =>
    have hmem := List.mem_of_getElem? hpolled
    have hnone := hfetches before hmem
    have hstill : after.inFlight = [] := by
      have hfollows := hfollow before hmem
      cases hstep with
      | tick hruns =>
        have hstopped : ¬ before.pollTimer.isSome := by
          rw [hfollows.polling_iff, hoffline]
          exact fun h ↦ nomatch h.1
        rw [hfollows.invariant.timers_eq, Option.not_isSome_iff_eq_none.mp hstopped] at hruns
        cases hruns
      | pauseFor reason =>
        unfold PolledValue.pauseFor
        simp only
        split_ifs <;> exact hnone
      | resumeFor reason =>
        unfold PolledValue.resumeFor
        simp only
        split_ifs with hdisposed hresume
        · exact hnone
        · -- The reason `unreachable` is still held.
          have hheld := (hfollows.held_iff (Bool.not_eq_true _ ▸ hdisposed)).mpr hoffline
          have hreason : reason = .manual := hown
          have hkept : PolledPauseReason.unreachable ∈ before.pauseReasons.erase reason :=
            Finset.mem_erase.mpr ⟨by rw [hreason]; exact nofun, hheld⟩
          rw [hresume.2] at hkept
          cases hkept
        · exact hnone
      | reachabilityChanged => exact hown.elim
      | disposed => exact hnone
      | completed outcome hinFlight =>
        rw [hnone] at hinFlight
        cases hinFlight
    refine ⟨⟨hprobes, hothers, fun polled hmem ↦ ?_⟩, hoffline⟩
    rcases List.mem_or_eq_of_mem_set hmem with hother | rfl
    · exact hfetches polled hother
    · exact hstill

end Steps

/-! ### Every run -/

section Runs

variable {T : Type} {app : PollingApp T}
  {history : List (Taken (PollingApp T) (PollingAppLabel T))}

/-- What every run keeps. -/
structure PollingInvariant (history : List (Taken (PollingApp T) (PollingAppLabel T)))
    (app : PollingApp T) : Prop where
  allFollow : app.AllFollow
  allOwned : AllOwned history app
  oneProbe : app.OneProbe
  message_eq : app.reachability.lastErrorMessage =
    (lastOf outcomeOf history).join.map dioErrorToUserMessage
  reachable_eq : app.reachability.isBackendReachable = (lastOf outcomeOf history).join.isNone
  network_eq : app.reachability.deviceHasNetwork = (lastOf reportOf history).getD true

theorem PollingInvariant.of_run (hrun : Run PollingAppStep {} history app) :
    PollingInvariant history app := by
  have hstart : PollingInvariant [] ({} : PollingApp T) :=
    ⟨fun _ hmem ↦ (List.not_mem_nil hmem).elim, ⟨fun _ _ ↦ nofun, fun _ _ ↦ rfl⟩,
      rfl, rfl, rfl, rfl⟩
  refine hrun.invariant (fun history app ↦ PollingInvariant history app) hstart ?_
  intro history before label after hinvariant hstep
  obtain ⟨hmessage, hreachable, hnetwork⟩ := hstep.reachability_eq
  refine ⟨hstep.allFollow hinvariant.allFollow, hinvariant.allOwned.step hinvariant.allFollow hstep,
    hstep.oneProbe hinvariant.oneProbe, ?_, ?_, ?_⟩
  · rw [hmessage, lastOf_append, hinvariant.message_eq]
    cases outcomeOf ⟨before, label⟩ <;> rfl
  · rw [hreachable, lastOf_append, hinvariant.reachable_eq]
    cases outcomeOf ⟨before, label⟩ <;> rfl
  · rw [hnetwork, lastOf_append, hinvariant.network_eq]
    cases reportOf ⟨before, label⟩ <;> rfl

/-- An app that is offline with nothing in flight stays so as long as no step can recover it. -/
theorem quiet_of_visited (hrun : Run PollingAppStep {} history app) :
    ∀ earlier state, Visited history app earlier state → state.Quiet → state.isOnline = false →
      (∀ taken ∈ history.drop earlier.length, ¬ Recovers taken) →
      app.Quiet ∧ app.isOnline = false := by
  have hboth : ∀ earlier state, Visited history app earlier state →
      earlier.length ≤ history.length ∧ (state.Quiet → state.isOnline = false →
        (∀ taken ∈ history.drop earlier.length, ¬ Recovers taken) →
        app.Quiet ∧ app.isOnline = false) := by
    induction hrun with
    | start =>
      intro earlier state hvisited
      obtain ⟨rfl, rfl⟩ := visited_nil.mp hvisited
      exact ⟨le_rfl, fun hquiet hoffline _ ↦ ⟨hquiet, hoffline⟩⟩
    | @step history before after label hbefore hstep ih =>
      intro earlier state hvisited
      rcases visited_append.mp hvisited with ⟨rfl, rfl⟩ | hvisited
      · exact ⟨le_rfl, fun hquiet hoffline _ ↦ ⟨hquiet, hoffline⟩⟩
      · obtain ⟨hlength, hkept⟩ := ih earlier state hvisited
        refine ⟨hlength.trans (by simp), fun hquiet hoffline hrest ↦ ?_⟩
        rw [List.drop_append_of_le_length hlength, List.forall_mem_append] at hrest
        obtain ⟨hstill, hdown⟩ := hkept hquiet hoffline hrest.1
        exact hstep.quiet (PollingInvariant.of_run hbefore).allFollow hstill hdown
          (hrest.2 _ (List.mem_singleton.mpr rfl))
  exact fun earlier state hvisited ↦ (hboth earlier state hvisited).2

/-- Polling follows the reachability. In every run of the app, the backend is taken to be reachable
exactly when the last outcome of a request that says so was a response, and the message of the last
failure is there otherwise; at most one probe is in flight; a polled value polls exactly while the
app is online and its owner wants it. A step that is not one of the values starts a fetch in exactly
those that the owner wants, when the app comes online by it. And an app that has been offline with
no request in flight, and is online, has had since then a press of the retry button, a change of the
network, or a request that is not one of its polled values. -/
theorem polling_follows_reachability (hrun : Run PollingAppStep {} history app) :
    (app.isOnline = ((lastOf reportOf history).getD true &&
      (lastOf outcomeOf history).join.isNone)) ∧
    app.reachability.lastErrorMessage =
      (lastOf outcomeOf history).join.map dioErrorToUserMessage ∧
    app.probesInFlight ≤ 1 ∧
    (∀ index polled, app.polled[index]? = some polled →
      (polled.pollTimer.isSome ↔ app.isOnline = true ∧ OwnerWants (ownLabels index history))) ∧
    (∀ label after, PollingAppStep app label after → label.Tells →
      ∀ index polled, app.polled[index]? = some polled →
        (after.polled[index]?).map (·.fetchesStarted) = some (polled.fetchesStarted +
          if app.isOnline = false ∧ after.isOnline = true ∧ OwnerWants (ownLabels index history)
          then 1 else 0)) ∧
    ∀ earlier state, Visited history app earlier state → state.Quiet → state.isOnline = false →
      app.isOnline = true → ∃ taken ∈ history.drop earlier.length, Recovers taken := by
  have hinvariant := PollingInvariant.of_run hrun
  refine ⟨?_, hinvariant.message_eq, ?_, fun index polled hpolled ↦ ?_, ?_, ?_⟩
  · rw [← hinvariant.network_eq, ← hinvariant.reachable_eq]
    rfl
  · have hprobes := hinvariant.oneProbe
    unfold PollingApp.OneProbe at hprobes
    split_ifs at hprobes <;> omega
  · rw [(hinvariant.allFollow polled (List.mem_of_getElem? hpolled)).polling_iff,
      (hinvariant.allOwned.ownedBy index polled hpolled).wanted_iff]
  · intro label after hstep htells index polled hpolled
    have hfollows := hinvariant.allFollow polled (List.mem_of_getElem? hpolled)
    rw [hstep.told htells hinvariant.allFollow, PollingApp.told, List.getElem?_map, hpolled,
      Option.map_some, Option.map_some, hfollows.fetchesStarted_told]
    simp only [(hinvariant.allOwned.ownedBy index polled hpolled).wanted_iff]
  · intro earlier state hvisited hquiet hoffline honline
    by_contra hnone
    push Not at hnone
    obtain ⟨-, hstill⟩ := quiet_of_visited hrun earlier state hvisited hquiet hoffline hnone
    rw [honline] at hstill
    cases hstill

end Runs

/-- The fetch of a card fails, a second card is opened and paused, and nothing polls until the retry
button is pressed; the response to the probe has the first card load, and the second one is held
until it is resumed. -/
theorem polling_follows_reachability_retried : ∃ history app,
    Run PollingAppStep ({} : PollingApp ℕ) history app ∧ app.isOnline = true ∧
      app.polled.map (·.fetchesStarted) = [2, 0] ∧
      (∀ polled, app.polled[0]? = some polled → polled.pollTimer.isSome) ∧
      (∀ polled, app.polled[1]? = some polled → ¬ polled.pollTimer.isSome) ∧
      ∃ taken ∈ history.drop 4, Recovers taken := by
  have hstart : Run PollingAppStep ({} : PollingApp ℕ) [] {} := .start
  have hopened := (hstart.step .setProber).step .mounted
  have hfailed := hopened.step (.recorded (some ⟨.connectionError, none⟩)
    fun hquiet ↦ nomatch hquiet.2.2 _ (List.mem_singleton.mpr rfl))
  have hclosed := hfailed.step (@PollingAppStep.polled ℕ _ 0 _ _
    (.completed 0 (.error "Cannot reach backend.")) rfl trivial
    (.completed _ (List.mem_singleton.mpr rfl)))
  have hpaused := (hclosed.step .mounted).step (@PollingAppStep.polled ℕ _ 1 _ _
    (.pauseFor .manual) rfl rfl (.pauseFor .manual))
  have hprobed := hpaused.step .retryPressed
  have hreturned := hprobed.step (.recorded none fun hquiet ↦ nomatch hquiet.1)
  obtain ⟨-, -, -, hpolling, -, hrecovers⟩ := polling_follows_reachability hreturned
  have hlate := hrecovers _ _ (visited_append.mpr (.inr (visited_append.mpr (.inr
    (visited_append.mpr (.inr (visited_append.mpr (.inr (.inl ⟨rfl, rfl⟩)))))))))
    ⟨rfl, rfl, by decide⟩ rfl rfl
  refine ⟨_, _, hreturned, rfl, rfl, fun polled hpolled ↦ ?_, fun polled hpolled ↦ ?_, hlate⟩
  · exact (hpolling 0 polled hpolled).mpr ⟨rfl, by decide⟩
  · rw [hpolling 1 polled hpolled]
    exact fun ⟨_, hwants⟩ ↦ hwants.2 (by decide)

end Oott
