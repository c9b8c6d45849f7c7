import Oott.Effects.Guarded

/-!
# The push service of the app

`utils/push_service.dart`, on a platform with push, and the switch of the settings screen that calls
it, as programs over the calls that they wait for: of Firebase, of the backend, of the preferences
and of the screen. An exception is an abort: the switch and the launch catch it and go on. The
programs are guarded (`follows_togglePush`, `reads_initPushOnLaunch`): when the switch tells the
user at the end that push is off, the token has been deleted. That the preference has been stored it
does not know, since it drops the answer of the write. Log lines, diagnostics and the display of
messages are left out.
-/

set_option autoImplicit false
set_option relaxedAutoImplicit false

namespace Oott

open Effects

/-- The calls of the push service and of the switch. -/
inductive PushServiceCall
  | initializeApp
  | requestPermission
  | getApnsToken
  | getToken
  | deleteToken
  | ensureForegroundDisplay
  /-- The listener for new tokens, attached at most once in a process. -/
  | listenTokenRefresh
  | registerPushToken (token : String)
  | unregisterPushToken (token : String)
  | pushEnabledOnThisDevice
  | setPushEnabledOnThisDevice (enabled : Bool)
  | mounted
  /-- `setState(() => _pushEnabled = ..)`. -/
  | setPushEnabled (value : Bool)
  /-- The message that push is enabled, or disabled, on this device. -/
  | showSuccess (enabled : Bool)
deriving DecidableEq

/-- What a call answers: nothing of an optional answer is an exception. A write of the preference
answers whether it has been stored. -/
def PushServiceCall.Response : PushServiceCall → Type
  | initializeApp => Option Unit
  | requestPermission => Option Bool
  | getApnsToken => Option Bool
  | getToken => Option (Option String)
  | deleteToken => Option Unit
  | ensureForegroundDisplay => Option Unit
  | listenTokenRefresh => Unit
  | registerPushToken _ => Option Unit
  | unregisterPushToken _ => Option Unit
  | pushEnabledOnThisDevice => Bool
  | setPushEnabledOnThisDevice _ => Option Bool
  | mounted => Bool
  | setPushEnabled _ => Unit
  | showSuccess _ => Unit

/-- The calls as an interface. -/
def pushService : Interface := ⟨PushServiceCall, PushServiceCall.Response⟩

namespace PushService

/-- A call, waited for. -/
def ask (call : PushServiceCall) : Program pushService call.Response :=
  .perform (E := pushService) call

/-- `_initFirebase`, which does nothing when it has been done. -/
def initFirebase : Program pushService Unit := do
  .orAbort (← ask .initializeApp)

/-- `_awaitApnsToken`, with the number of attempts left. -/
def awaitApnsToken : ℕ → Program pushService Bool
  | 0 => return false
  | attempts + 1 => do
    if ← .orAbort (← ask .getApnsToken) then return true else awaitApnsToken attempts

/-- `_registerCurrentToken`. -/
def registerCurrentToken (isIOS : Bool) : Program pushService Bool := do
  initFirebase
  let available ← (if isIOS then awaitApnsToken 10 else pure true)
  if !available then return false else
    match ← .orAbort (← ask .getToken) with
    | none => return false
    | some token =>
      .orAbort (← ask (.registerPushToken token))
      ask .listenTokenRefresh
      return true

/-- `initPushOnLaunch`. -/
def initPushOnLaunch (isIOS : Bool) : Program pushService Unit := do
  initFirebase
  let enabled ← ask .pushEnabledOnThisDevice
  if !(enabled : Bool) then return else
    .orAbort (← ask .ensureForegroundDisplay)
    let _ ← registerCurrentToken isIOS

/-- `FirebasePushService.enable`. -/
def enable (isIOS : Bool) : Program pushService Bool := do
  initFirebase
  let authorized ← .orAbort (← ask .requestPermission)
  if !(authorized : Bool) then return false else
    if !(← registerCurrentToken isIOS) then return false else
      .orAbort (← ask .ensureForegroundDisplay)
      return true

/-- `FirebasePushService.disable`. -/
def disable : Program pushService Unit := do
  initFirebase
  match ← .orAbort (← ask .getToken) with
  | some token => .orAbort (← ask (.unregisterPushToken token))
  | none => pure ()
  .orAbort (← ask .deleteToken)

/-- What follows in `_togglePush` when the push service has done as it was told. Whether the
preference has been stored is not looked at. -/
def settle (value : Bool) : Program pushService Unit := do
  let _ ← .orAbort (← ask (.setPushEnabledOnThisDevice value))
  let mounted ← ask .mounted
  if !(mounted : Bool) then return else
    ask (.setPushEnabled value)
    ask (.showSuccess value)

/-- `_togglePush`, up to what it does in the end in every case. -/
def togglePush (isIOS value : Bool) : Program pushService Unit := do
  if value then
    let enabled ← enable isIOS
    let mounted ← ask .mounted
    if !(mounted : Bool) then return else
      if enabled then settle true else ask (.setPushEnabled false)
  else
    disable
    let mounted ← ask .mounted
    if !(mounted : Bool) then return else settle false

/-! ### What the switch has done -/

/-- How far a program has come: the token has been deleted, and the user has been told. -/
structure Progress where
  deleted : Bool
  told : Bool

/-- At the start. -/
def Progress.start : Progress := ⟨false, false⟩

/-- What an answer adds. -/
def Progress.remember (progress : Progress) :
    (call : PushServiceCall) → call.Response → Progress
  | .deleteToken, answer => { progress with deleted := progress.deleted || Option.isSome answer }
  | .showSuccess _, _ => { progress with told := true }
  | _, _ => progress

/-- The calls that may follow: no token is asked for once it has been deleted, the user is told that
push is off when it has been, and nothing follows that. -/
def Progress.Allows (progress : Progress) : PushServiceCall → Prop
  | .getToken => progress.told = false ∧ progress.deleted = false
  | .showSuccess enabled =>
    progress.told = false ∧ (enabled = false → progress.deleted = true)
  | _ => progress.told = false

theorem Progress.Allows.not_told {progress : Progress} {call : PushServiceCall}
    (hallows : progress.Allows call) : progress.told = false := by
  cases call with
  | getToken => exact hallows.1
  | showSuccess enabled => exact hallows.1
  | _ => exact hallows

/-- The calls that a program makes before it has come anywhere. -/
def Early : PushServiceCall → Prop
  | .deleteToken => False
  | .showSuccess _ => False
  | _ => True

/-- Guarded by its progress. -/
abbrev Follows {α : Type} (progress : Progress) (program : Program pushService α) : Prop :=
  program.Guarded (E := pushService) Progress.remember Progress.Allows progress

theorem early_allows (call : PushServiceCall) (hearly : Early call) :
    Progress.start.Allows call ∧
      ∀ response, Progress.start.remember call response = Progress.start := by
  cases call with
  | deleteToken => exact hearly.elim
  | showSuccess enabled => exact hearly.elim
  | getToken => exact ⟨⟨rfl, rfl⟩, fun _ ↦ rfl⟩
  | _ => exact ⟨rfl, fun _ ↦ rfl⟩

theorem always_initFirebase : initFirebase.Always Early :=
  ⟨trivial, fun _ ↦ Program.always_orAbort _⟩

theorem always_awaitApnsToken (attempts : ℕ) : (awaitApnsToken attempts).Always Early := by
  induction attempts with
  | zero => trivial
  | succ attempts ih =>
    refine ⟨trivial, fun response ↦ ?_⟩
    match response with
    | none => trivial
    | some true => trivial
    | some false => exact ih

theorem always_registerCurrentToken (isIOS : Bool) :
    (registerCurrentToken isIOS).Always Early := by
  refine always_initFirebase.bind fun _ ↦ Program.Always.bind ?_ fun available ↦ ?_
  · cases isIOS with
    | true => exact always_awaitApnsToken 10
    | false => trivial
  cases available with
  | false => trivial
  | true =>
    refine ⟨trivial, fun response ↦ ?_⟩
    match response with
    | none => trivial
    | some none => trivial
    | some (some token) =>
      refine ⟨trivial, fun response ↦ ?_⟩
      match response with
      | none => trivial
      | some () => exact ⟨trivial, fun _ ↦ trivial⟩

theorem always_initPushOnLaunch (isIOS : Bool) : (initPushOnLaunch isIOS).Always Early := by
  refine always_initFirebase.bind fun _ ↦ ⟨trivial, fun enabled ↦ ?_⟩
  match enabled with
  | false => trivial
  | true =>
    refine ⟨trivial, fun response ↦ ?_⟩
    match response with
    | none => trivial
    | some () => exact (always_registerCurrentToken isIOS).bind fun _ ↦ trivial

theorem always_enable (isIOS : Bool) : (enable isIOS).Always Early := by
  refine always_initFirebase.bind fun _ ↦ ⟨trivial, fun authorized ↦ ?_⟩
  match authorized with
  | none => trivial
  | some false => trivial
  | some true =>
    refine (always_registerCurrentToken isIOS).bind fun registered ↦ ?_
    cases registered with
    | false => trivial
    | true =>
      refine ⟨trivial, fun response ↦ ?_⟩
      match response with
      | none => trivial
      | some () => trivial

theorem follows_initPushOnLaunch (isIOS : Bool) : Follows .start (initPushOnLaunch isIOS) :=
  (always_initPushOnLaunch isIOS).guarded_of_still early_allows

/-- The user is told that push is off where the token has been deleted. -/
theorem follows_settle {deleted : Bool} (value : Bool) (hdeleted : value = false → deleted = true) :
    Follows ⟨deleted, false⟩ (settle value) := by
  refine ⟨rfl, fun stored ↦ ?_⟩
  match stored with
  | none => trivial
  | some _ =>
    refine ⟨rfl, fun mounted ↦ ?_⟩
    match mounted with
    | false => trivial
    | true => exact ⟨rfl, fun _ ↦ ⟨⟨rfl, hdeleted⟩, fun _ ↦ trivial⟩⟩

/-- The end of the switch when push is turned off. -/
theorem follows_deleteToken : Follows .start (do
    .orAbort (← ask .deleteToken)
    let mounted ← ask .mounted
    if !(mounted : Bool) then return else settle false) := by
  refine ⟨rfl, fun response ↦ ?_⟩
  match response with
  | none => trivial
  | some () =>
    refine ⟨rfl, fun mounted ↦ ?_⟩
    match mounted with
    | false => trivial
    | true => exact follows_settle false fun _ ↦ rfl

/-- The switch tells the user that push is off only when the token has been deleted. -/
theorem follows_togglePush (isIOS value : Bool) : Follows .start (togglePush isIOS value) := by
  cases value with
  | true =>
    refine (always_enable isIOS).guarded_bind early_allows fun enabled ↦ ⟨rfl, fun mounted ↦ ?_⟩
    match mounted, enabled with
    | false, _ => trivial
    | true, false => exact ⟨rfl, fun _ ↦ trivial⟩
    | true, true => exact follows_settle true nofun
  | false =>
    refine ⟨rfl, fun response ↦ ?_⟩
    match response with
    | none => trivial
    | some () =>
      refine ⟨⟨rfl, rfl⟩, fun token ↦ ?_⟩
      match token with
      | none => trivial
      | some none => exact follows_deleteToken
      | some (some token) =>
        refine ⟨rfl, fun response ↦ ?_⟩
        match response with
        | none => trivial
        | some () => exact follows_deleteToken

/-! ### A launch with push off -/

/-- Whether the preference has been read as on. -/
def readOn (on : Bool) : (call : PushServiceCall) → call.Response → Bool
  | .pushEnabledOnThisDevice, answer => on || show Bool from answer
  | _, _ => on

/-- As long as the preference has not been read as on, nothing is done but to read it. -/
def Harmless (on : Bool) (call : PushServiceCall) : Prop :=
  on = true ∨ call = .initializeApp ∨ call = .pushEnabledOnThisDevice

/-- Guarded by what it has read. -/
abbrev Reads {α : Type} (on : Bool) (program : Program pushService α) : Prop :=
  program.Guarded (E := pushService) readOn Harmless on

theorem reads_of_on {α : Type} (program : Program pushService α) : Reads true program := by
  induction program with
  | ret value => trivial
  | abort => trivial
  | call op next ih =>
    refine ⟨.inl rfl, fun response ↦ ?_⟩
    have hon : readOn true op response = true := by cases op <;> rfl
    rw [hon]
    exact ih response

/-- A program that has told the user is at its end. -/
theorem nextCall_of_told {α : Type} {program : Program pushService α} {progress : Progress}
    (htold : progress.told = true) (hfollows : Follows progress program) :
    program.nextCall = none := by
  cases program with
  | ret value => rfl
  | abort => rfl
  | call op next =>
    have hnot := hfollows.1.not_told
    rw [htold] at hnot
    cases hnot

theorem reads_initPushOnLaunch (isIOS : Bool) : Reads false (initPushOnLaunch isIOS) := by
  refine ⟨.inr (.inl rfl), fun response ↦ ?_⟩
  match response with
  | none => trivial
  | some () =>
    refine ⟨.inr (.inr rfl), fun enabled ↦ ?_⟩
    match enabled with
    | false => trivial
    | true => exact reads_of_on _

end PushService

end Oott
