import Oott.Database.PushTokens
import Oott.Effects.Runs
import Oott.Frontend.PushService

/-!
# Turning push off

The app on a device, the messaging service that hands out its token and takes messages for it, and
the backends that the app has been configured for, which keep tokens and post to them. Requests and
posts are on their way for any time, arrive in any order or are lost; the app is restarted, its
screen left and its backend changed at any time; other devices register and tokens are pruned. Of
the messaging service this is taken: a token that is handed out is one that nobody has, a token that
has been deleted is not replaced in the same process without being asked for, and a message reaches
the device when it is for the token that the device has then.

When the switch has told the user that push is off, and was the only thing going on, no message
reaches the device until the switch is used again (`disabled_receives_nothing`), whatever was on its
way, provided that the preference has been stored: the deletion of the token is what counts, and the
request to the backend need not arrive. The switch drops the answer of the write, and tells the user
the same when it has failed; the next launch then registers a token again.
-/

set_option autoImplicit false
set_option relaxedAutoImplicit false

namespace Oott

open Effects

namespace PushService

/-- A request of `oott_api_push.dart`. -/
inductive TokenRequest
  | put (token : String) (platform : PushPlatform)
  | delete (token : String)

/-- The token that a request is about. -/
def TokenRequest.token : TokenRequest → String
  | put token _ => token
  | delete token => token

/-- What a backend makes of a request. -/
def TokenRequest.apply (now : Instant) : TokenRequest → PushTokensTable → PushTokensTable
  | put token platform, table => table.upsert token platform now
  | delete token, table => table.delete token

/-- A request on its way to the backend at a base URL. -/
structure Sent where
  url : String
  request : TokenRequest

/-- The settings screen. -/
structure Screen where
  id : ℕ
  pushEnabled : Bool
  pushBusy : Bool

/-- What is going on in the app: a launch, or the switch of a screen. -/
structure Operation where
  screen : Option ℕ
  rest : Program pushService Unit

/-- A process of the app. -/
structure App where
  tokenRefreshWired : Bool
  screen : Option Screen
  operations : List Operation

/-- The device, the messaging service and the backends by their base URLs. -/
structure State where
  app : App
  /-- The preference as the process has it, and as the next one will find it. -/
  pushEnabledOnThisDevice : Bool
  pushEnabledStored : Bool
  baseUrl : String
  nextScreen : ℕ
  /-- The token that the device has. -/
  live : Option String
  stores : String → PushTokensTable
  requests : List Sent
  /-- What the backends have posted, as the tokens that a message is for. -/
  posts : List (List String)
  /-- How many messages have reached the device. -/
  received : ℕ

namespace State

/-- Nobody has the token. -/
def Nowhere (state : State) (token : String) : Prop :=
  (∀ url, ∀ row ∈ (state.stores url).rows, row.token ≠ token) ∧
    (∀ sent ∈ state.requests, sent.request.token ≠ token) ∧ ∀ post ∈ state.posts, token ∉ post

/-- `_platformName`. -/
def platformName (isIOS : Bool) : PushPlatform := if isIOS then .ios else .android

/-- A request leaves for the configured backend. -/
def send (state : State) (request : TokenRequest) : State :=
  { state with requests := ⟨state.baseUrl, request⟩ :: state.requests }

/-- A token is handed out, which the listener registers. -/
def handOut (isIOS : Bool) (state : State) (token : String) : State :=
  let changed := { state with live := some token }
  if state.app.tokenRefreshWired then changed.send (.put token (platformName isIOS)) else changed

/-- The screen is the one that is shown. -/
def mounted (state : State) (screen : Option ℕ) : Bool :=
  state.app.screen.any fun shown ↦ some shown.id = screen

/-- The screen is changed, if it is shown. -/
def onScreen (state : State) (screen : Option ℕ) (change : Screen → Screen) : State :=
  if state.mounted screen then
    { state with app := { state.app with screen := state.app.screen.map change } }
  else state

/-- The operations of the app go on. -/
def goOn (state : State) (operations : List Operation) : State :=
  { state with app := { state.app with operations := operations } }

/-- A process starts with the launch, and with the preferences that are stored. -/
def restart (isIOS : Bool) (state : State) : State :=
  { state with
    app := ⟨false, none, [⟨none, initPushOnLaunch isIOS⟩]⟩
    pushEnabledOnThisDevice := state.pushEnabledStored }

/-- What a call of an operation can answer, and what it changes. A request may arrive before the
answer, after it, or not at all. A write of the preference that does not answer that it has stored
it may have left it as it was, for this process and for the next. -/
def Answers (isIOS : Bool) (screen : Option ℕ) :
    (call : PushServiceCall) → State → call.Response → State → Prop
  | .getToken, state, answer, after =>
    (after = state ∨
      state.live = none ∧ ∃ token, state.Nowhere token ∧ after = state.handOut isIOS token) ∧
      (answer = (none : Option (Option String)) ∨ answer = some after.live)
  | .deleteToken, state, answer, after =>
    after = { state with live := none } ∨ answer = (none : Option Unit) ∧ after = state
  | .registerPushToken token, state, _, after =>
    after = state.send (.put token (platformName isIOS))
  | .unregisterPushToken token, state, _, after => after = state.send (.delete token)
  | .listenTokenRefresh, state, _, after =>
    after = { state with app := { state.app with tokenRefreshWired := true } }
  | .pushEnabledOnThisDevice, state, answer, after =>
    answer = state.pushEnabledOnThisDevice ∧ after = state
  | .setPushEnabledOnThisDevice enabled, state, answer, after =>
    after = { state with pushEnabledOnThisDevice := enabled, pushEnabledStored := enabled } ∨
      answer ≠ some true ∧ ∃ kept stored,
        (kept = enabled ∨ kept = state.pushEnabledOnThisDevice) ∧
        (stored = enabled ∨ stored = state.pushEnabledStored) ∧
        after = { state with pushEnabledOnThisDevice := kept, pushEnabledStored := stored }
  | .mounted, state, answer, after => answer = state.mounted screen ∧ after = state
  | .setPushEnabled value, state, _, after =>
    after = state.onScreen screen fun shown ↦ { shown with pushEnabled := value }
  | _, state, _, after => after = state

end State

/-- What happens in a step. -/
inductive Label
  | restarted
  | opened
  | closed
  | toggled (value : Bool)
  | called (call : PushServiceCall)
  | ended
  | reconfigured
  | tokenRefreshed
  | arrived
  | lost
  | registeredElsewhere
  | pruned
  | posted
  | delivered
deriving DecidableEq

/-- A step that is not of the switch. -/
def Label.LeavesSwitch (label : Label) : Prop := ∀ value, label ≠ .toggled value

/-- The steps of the app, of the messaging service and of the backends. -/
inductive Step (isIOS : Bool) : State → Label → State → Prop
  /-- The app is started again, and may get a token when it has none. -/
  | restarted {state : State} : Step isIOS state .restarted (state.restart isIOS)
  | restartedWithToken {state : State} {token : String} :
      state.live = none → state.Nowhere token →
      Step isIOS state .restarted ((state.restart isIOS).handOut isIOS token)
  /-- The settings are opened, which is possible after the launch. -/
  | opened {state : State} :
      (∀ operation ∈ state.app.operations, operation.screen ≠ none) →
      Step isIOS state .opened
        { state with
          app := { state.app with
            screen := some ⟨state.nextScreen, state.pushEnabledOnThisDevice, false⟩ }
          nextScreen := state.nextScreen + 1 }
  | closed {state : State} :
      Step isIOS state .closed { state with app := { state.app with screen := none } }
  | toggled {state : State} {shown : Screen} :
      state.app.screen = some shown → shown.pushBusy = false →
      Step isIOS state (.toggled (!shown.pushEnabled))
        { state with
          app := { state.app with
            screen := some { shown with pushBusy := true }
            operations :=
              ⟨some shown.id, togglePush isIOS (!shown.pushEnabled)⟩ :: state.app.operations } }
  | called {state after : State} {earlier later : List Operation} {screen : Option ℕ}
      {call : PushServiceCall} {next : call.Response → Program pushService Unit}
      {answer : call.Response} :
      state.app.operations = earlier ++ ⟨screen, .call (E := pushService) call next⟩ :: later →
      state.Answers isIOS screen call answer after →
      Step isIOS state (.called call) (after.goOn (earlier ++ ⟨screen, next answer⟩ :: later))
  /-- An operation has ended, or an exception has been caught: the switch can be used again. -/
  | ended {state : State} {earlier later : List Operation} {operation : Operation} :
      state.app.operations = earlier ++ operation :: later →
      operation.rest.nextCall = none →
      Step isIOS state .ended
        ((state.goOn (earlier ++ later)).onScreen operation.screen fun shown ↦
          { shown with pushBusy := false })
  | reconfigured {state : State} (url : String) :
      Step isIOS state .reconfigured { state with baseUrl := url }
  /-- The messaging service replaces the token of the device. -/
  | tokenRefreshed {state : State} {token : String} :
      state.live ≠ none → state.Nowhere token →
      Step isIOS state .tokenRefreshed (state.handOut isIOS token)
  | arrived {state : State} {earlier later : List Sent} {sent : Sent} (now : Instant) :
      state.requests = earlier ++ sent :: later →
      Step isIOS state .arrived
        { state with
          stores := Function.update state.stores sent.url
            (sent.request.apply now (state.stores sent.url))
          requests := earlier ++ later }
  | lost {state : State} {earlier later : List Sent} {sent : Sent} :
      state.requests = earlier ++ sent :: later →
      Step isIOS state .lost { state with requests := earlier ++ later }
  /-- Another device registers its own token. -/
  | registeredElsewhere {state : State} (url : String) {token : String} (platform : PushPlatform)
      (now : Instant) :
      state.live ≠ some token →
      Step isIOS state .registeredElsewhere
        { state with
          stores := Function.update state.stores url
            ((state.stores url).upsert token platform now) }
  /-- A backend deletes tokens, as `prune` does, or another device its own. -/
  | pruned {state : State} (url : String) (tokens : List String) :
      Step isIOS state .pruned
        { state with
          stores := Function.update state.stores url ((state.stores url).deleteMany tokens) }
  /-- A backend posts a message for the tokens that it lists. -/
  | posted {state : State} (url : String) :
      Step isIOS state .posted
        { state with posts := ((state.stores url).rows.map PushToken.token) :: state.posts }
  /-- The messaging service takes a message, and the device gets it if it is for its token. -/
  | delivered {state : State} {earlier later : List (List String)} {post : List String} :
      state.posts = earlier ++ post :: later →
      Step isIOS state .delivered
        { state with
          posts := earlier ++ later
          received := if state.live.any (· ∈ post) then state.received + 1 else state.received }

/-! ### Tokens that nobody has -/

/-- What is in a list after an element is taken out was in it before. -/
theorem mem_of_mem_removed {α : Type} {earlier later : List α} {removed element : α}
    (hmem : element ∈ earlier ++ later) : element ∈ earlier ++ removed :: later :=
  ((List.sublist_cons_self removed later).append_left earlier).subset hmem

section Nowhere

variable {state : State} {token : String}

theorem token_of_mem_upsert {table : PushTokensTable} {other : String} {platform : PushPlatform}
    {now : Instant} (hother : other ≠ token) (htable : ∀ row ∈ table.rows, row.token ≠ token) :
    ∀ row ∈ (table.upsert other platform now).rows, row.token ≠ token := by
  intro row hrow
  unfold PushTokensTable.upsert at hrow
  split at hrow
  next =>
    obtain ⟨old, hold, rfl⟩ := List.mem_map.mp hrow
    rw [PushTokensTable.refresh_token]
    exact htable old hold
  next =>
    rcases List.mem_append.mp hrow with hold | hnew
    · exact htable row hold
    · rw [List.mem_singleton.mp hnew]
      exact hother

theorem TokenRequest.token_of_mem_apply {table : PushTokensTable} {request : TokenRequest}
    {now : Instant} (hrequest : request.token ≠ token)
    (htable : ∀ row ∈ table.rows, row.token ≠ token) :
    ∀ row ∈ (request.apply now table).rows, row.token ≠ token := by
  cases request with
  | put other platform => exact token_of_mem_upsert hrequest htable
  | delete other => exact fun row hrow ↦ htable row (List.mem_of_mem_filter hrow)

/-- A table that is replaced by one without the token. -/
theorem State.Nowhere.update (hnowhere : state.Nowhere token) (url : String)
    {table : PushTokensTable} (htable : ∀ row ∈ table.rows, row.token ≠ token)
    {requests : List Sent} (hrequests : ∀ sent ∈ requests, sent ∈ state.requests) :
    State.Nowhere { state with
      stores := Function.update state.stores url table
      requests := requests } token := by
  obtain ⟨hstores, hsent, hposts⟩ := hnowhere
  refine ⟨fun other ↦ ?_, fun sent hmem ↦ hsent sent (hrequests sent hmem), hposts⟩
  by_cases hother : other = url
  · subst hother
    simpa only [Function.update_self] using htable
  · simpa only [Function.update_of_ne hother] using hstores other

end Nowhere

/-! ### While push is off -/

namespace State

variable {isIOS : Bool} {state after : State} {label : Label}

theorem exists_onScreen (state : State) (screen : Option ℕ) (change : Screen → Screen) :
    ∃ shown, state.onScreen screen change =
      { state with app := { state.app with screen := shown } } := by
  unfold onScreen
  split
  next => exact ⟨_, rfl⟩
  next => exact ⟨state.app.screen, rfl⟩

theorem handOut_of_not_wired (token : String) (hwired : state.app.tokenRefreshWired = false) :
    state.handOut isIOS token = { state with live := some token } := by
  unfold handOut
  rw [if_neg (by rw [hwired]; exact Bool.false_ne_true)]

/-- Push is off: the stored preference says so, nobody has the token of the device, which is not
listened to either, and nothing goes on but a launch that will find the preference off. -/
structure Off (state : State) : Prop where
  disabled : state.pushEnabledStored = false
  nowhere : ∀ token, state.live = some token →
    state.app.tokenRefreshWired = false ∧ state.Nowhere token
  idle : ∀ operation ∈ state.app.operations, operation.rest.nextCall = none ∨
    state.pushEnabledOnThisDevice = false ∧ Reads false operation.rest

/-- Nothing that the state of push depends on has changed. -/
theorem Off.of_eq (hoff : state.Off)
    (hdisabled : after.pushEnabledStored = state.pushEnabledStored)
    (hread : after.pushEnabledOnThisDevice = state.pushEnabledOnThisDevice)
    (hlive : after.live = state.live)
    (hwired : after.app.tokenRefreshWired = state.app.tokenRefreshWired)
    (hnowhere : ∀ token, state.live = some token → state.Nowhere token → after.Nowhere token)
    (hidle : ∀ operation ∈ after.app.operations, operation ∈ state.app.operations) :
    after.Off where
  disabled := hdisabled.trans hoff.disabled
  nowhere := fun token htoken ↦ by
    rw [hlive] at htoken
    obtain ⟨hunwired, hall⟩ := hoff.nowhere token htoken
    exact ⟨hwired.trans hunwired, hnowhere token htoken hall⟩
  idle := fun operation hoperation ↦ by
    rw [hread]
    exact hoff.idle operation (hidle operation hoperation)

/-- A call that an operation makes while push is off changes nothing. -/
theorem Off.called (hoff : state.Off) {earlier later : List Operation} {screen : Option ℕ}
    {call : PushServiceCall} {next : call.Response → Program pushService Unit}
    {answer : call.Response}
    (hoperations : state.app.operations =
      earlier ++ ⟨screen, .call (E := pushService) call next⟩ :: later)
    (hanswers : state.Answers isIOS screen call answer after) :
    (after.goOn (earlier ++ ⟨screen, next answer⟩ :: later)).Off ∧
      after.received = state.received := by
  have hmem : (⟨screen, .call (E := pushService) call next⟩ : Operation) ∈
      state.app.operations := by
    rw [hoperations]
    exact List.mem_append_right _ List.mem_cons_self
  obtain hended | ⟨hread, hharmless, hnext⟩ := hoff.idle _ hmem
  · cases hended
  have hquiet : readOn false call answer = false ∧ after = state := by
    rcases hharmless with hon | rfl | rfl
    · cases hon
    · exact ⟨rfl, hanswers⟩
    · obtain ⟨hanswer, hafter⟩ := hanswers
      refine ⟨?_, hafter⟩
      rw [hanswer, hread]
      rfl
  obtain ⟨hoff', rfl⟩ := hquiet
  refine ⟨⟨hoff.disabled, hoff.nowhere, fun operation hoperation ↦ ?_⟩, rfl⟩
  rcases List.mem_append.mp hoperation with hearlier | hcons
  · exact hoff.idle operation (hoperations ▸ List.mem_append_left _ hearlier)
  rcases List.mem_cons.mp hcons with rfl | hlater
  · have hrest := hnext answer
    rw [hoff'] at hrest
    exact .inr ⟨hread, hrest⟩
  · refine hoff.idle operation ?_
    rw [hoperations]
    exact List.mem_append_right _ (List.mem_cons_of_mem _ hlater)

/-- A token that is handed out while nobody listens is nowhere. -/
theorem Off.handOut (hoff : state.Off) {token : String}
    (hwired : state.app.tokenRefreshWired = false) (hnowhere : state.Nowhere token) :
    (state.handOut isIOS token).Off := by
  rw [handOut_of_not_wired token hwired]
  refine ⟨hoff.disabled, fun other hother ↦ ?_, hoff.idle⟩
  cases hother
  exact ⟨hwired, hnowhere⟩

theorem Off.restart (hoff : state.Off) : (state.restart isIOS).Off where
  disabled := hoff.disabled
  nowhere := fun token htoken ↦ ⟨rfl, (hoff.nowhere token htoken).2⟩
  idle := fun operation hoperation ↦ by
    rw [List.mem_singleton.mp hoperation]
    exact .inr ⟨hoff.disabled, reads_initPushOnLaunch isIOS⟩

/-- While push is off and the switch is not used, push stays off and nothing is received. -/
theorem Off.step (hoff : state.Off) (hstep : Step isIOS state label after)
    (hlabel : label.LeavesSwitch) :
    after.Off ∧ after.received = state.received := by
  cases hstep with
  | restarted => exact ⟨hoff.restart, rfl⟩
  | restartedWithToken hnone hnowhere =>
    refine ⟨hoff.restart.handOut rfl hnowhere, ?_⟩
    rw [handOut_of_not_wired _ rfl]
    rfl
  | opened hlaunched =>
    exact ⟨hoff.of_eq rfl rfl rfl rfl (fun _ _ h ↦ h) fun _ h ↦ h, rfl⟩
  | closed => exact ⟨hoff.of_eq rfl rfl rfl rfl (fun _ _ h ↦ h) fun _ h ↦ h, rfl⟩
  | toggled hscreen hbusy => exact absurd rfl (hlabel _)
  | called hoperations hanswers => exact hoff.called hoperations hanswers
  | @ended earlier later operation hoperations hended =>
    obtain ⟨shown, hshown⟩ := exists_onScreen (state.goOn (earlier ++ later)) operation.screen
      fun shown ↦ { shown with pushBusy := false }
    rw [hshown]
    refine ⟨hoff.of_eq rfl rfl rfl rfl (fun _ _ h ↦ h) fun other hother ↦ ?_, rfl⟩
    rw [hoperations]
    exact mem_of_mem_removed hother
  | reconfigured url => exact ⟨hoff.of_eq rfl rfl rfl rfl (fun _ _ h ↦ h) fun _ h ↦ h, rfl⟩
  | @tokenRefreshed token hlive hnowhere =>
    obtain ⟨old, hold⟩ := Option.ne_none_iff_exists'.mp hlive
    have hwired := (hoff.nowhere old hold).1
    refine ⟨hoff.handOut hwired hnowhere, ?_⟩
    rw [handOut_of_not_wired token hwired]
  | @arrived earlier later sent now hrequests =>
    refine ⟨hoff.of_eq rfl rfl rfl rfl (fun token _ hnowhere ↦ ?_) fun _ h ↦ h, rfl⟩
    have hsent : sent.request.token ≠ token := hnowhere.2.1 sent
      (hrequests ▸ List.mem_append_right _ List.mem_cons_self)
    exact hnowhere.update _ (TokenRequest.token_of_mem_apply hsent (hnowhere.1 sent.url))
      fun other hother ↦ hrequests ▸ mem_of_mem_removed hother
  | @lost earlier later sent hrequests =>
    refine ⟨hoff.of_eq rfl rfl rfl rfl (fun token _ hnowhere ↦ ?_) fun _ h ↦ h, rfl⟩
    exact ⟨hnowhere.1,
      fun other hother ↦ hnowhere.2.1 other (hrequests ▸ mem_of_mem_removed hother), hnowhere.2.2⟩
  | @registeredElsewhere url token platform now hother =>
    refine ⟨hoff.of_eq rfl rfl rfl rfl (fun live hlive hnowhere ↦ ?_) fun _ h ↦ h, rfl⟩
    have hne : token ≠ live := fun h ↦ hother (hlive.trans (congrArg some h.symm))
    exact hnowhere.update url (token_of_mem_upsert hne (hnowhere.1 url)) fun _ h ↦ h
  | pruned url tokens =>
    refine ⟨hoff.of_eq rfl rfl rfl rfl (fun token _ hnowhere ↦ ?_) fun _ h ↦ h, rfl⟩
    refine hnowhere.update url (fun row hrow ↦ hnowhere.1 url row ?_) fun _ h ↦ h
    rw [PushTokensTable.rows_deleteMany] at hrow
    exact List.mem_of_mem_filter hrow
  | posted url =>
    refine ⟨hoff.of_eq rfl rfl rfl rfl (fun token _ hnowhere ↦ ?_) fun _ h ↦ h, rfl⟩
    refine ⟨hnowhere.1, hnowhere.2.1, fun post hpost ↦ ?_⟩
    rcases List.mem_cons.mp hpost with rfl | hold
    · rintro hmem
      obtain ⟨row, hrow, hsame⟩ := List.mem_map.mp hmem
      exact hnowhere.1 url row hrow hsame
    · exact hnowhere.2.2 post hold
  | @delivered earlier later post hposts =>
    have hpost : post ∈ state.posts := hposts ▸ List.mem_append_right _ List.mem_cons_self
    refine ⟨hoff.of_eq rfl rfl rfl rfl (fun token _ hnowhere ↦ ?_) fun _ h ↦ h,
      if_neg fun hany ↦ ?_⟩
    · exact ⟨hnowhere.1, hnowhere.2.1,
        fun other hother ↦ hnowhere.2.2 other (hposts ▸ mem_of_mem_removed hother)⟩
    · -- The message is for the token of the device, which nobody has.
      obtain ⟨token, hlive, hmem⟩ := (Option.any_eq_true _ _).mp hany
      exact (hoff.nowhere token hlive).2.2.2 post hpost (of_decide_eq_true hmem)

/-! ### While push is turned off -/

/-- At most one operation goes on, and a token that it has deleted stays deleted. -/
def Alone (state : State) : Prop :=
  state.app.operations = [] ∨ ∃ operation progress, state.app.operations = [operation] ∧
    Follows progress operation.rest ∧ (progress.deleted = true → state.live = none)

theorem Alone.of_eq (halone : state.Alone)
    (hoperations : after.app.operations = state.app.operations) (hlive : after.live = state.live) :
    after.Alone := by
  unfold Alone
  rw [hoperations, hlive]
  exact halone

theorem Alone.restart (isIOS : Bool) (state : State) : (state.restart isIOS).Alone :=
  .inr ⟨_, .start, rfl, follows_initPushOnLaunch isIOS, nofun⟩

@[simp] theorem handOut_app (token : String) : (state.handOut isIOS token).app = state.app := by
  unfold handOut
  split_ifs <;> rfl

/-- A token that a guarded program has deleted stays deleted by its calls. -/
theorem Answers.progress {screen : Option ℕ} {call : PushServiceCall} {answer : call.Response}
    {progress : Progress} (hanswers : state.Answers isIOS screen call answer after)
    (hallows : progress.Allows call) (hdeleted : progress.deleted = true → state.live = none) :
    (progress.remember call answer).deleted = true → after.live = none := by
  cases call with
  | getToken =>
    -- No token is asked for after the deletion.
    exact fun h ↦ absurd (hallows.2.symm.trans h) Bool.false_ne_true
  | deleteToken =>
    rcases hanswers with rfl | ⟨rfl, rfl⟩
    · exact fun _ ↦ rfl
    · exact fun h ↦ hdeleted (by simpa [Progress.remember] using h)
  | setPushEnabledOnThisDevice enabled =>
    rcases hanswers with rfl | ⟨-, kept, stored, -, -, rfl⟩
    · exact hdeleted
    · exact hdeleted
  | pushEnabledOnThisDevice | mounted =>
    obtain ⟨-, rfl⟩ := hanswers
    exact hdeleted
  | setPushEnabled value =>
    obtain ⟨shown, hshown⟩ := exists_onScreen state screen
      fun shown ↦ { shown with pushEnabled := value }
    obtain rfl := hanswers.trans hshown
    exact hdeleted
  | _ =>
    obtain rfl := hanswers
    exact hdeleted

/-- A call is of the one operation, and is what remains after it. -/
theorem Alone.exists_progress (halone : state.Alone) {earlier later : List Operation}
    {screen : Option ℕ} {call : PushServiceCall}
    {next : call.Response → Program pushService Unit}
    (hoperations : state.app.operations =
      earlier ++ ⟨screen, .call (E := pushService) call next⟩ :: later) (answer : call.Response) :
    ∃ progress : Progress, progress.Allows call ∧
      (progress.deleted = true → state.live = none) ∧
      earlier ++ ⟨screen, next answer⟩ :: later = [⟨screen, next answer⟩] ∧
      Follows (progress.remember call answer) (next answer) := by
  rcases halone with hnone | ⟨operation, progress, hone, hfollows, hdeleted⟩
  · rw [hnone] at hoperations
    exact absurd hoperations.symm (by simp)
  · rw [hone] at hoperations
    obtain ⟨rfl, hrest⟩ | ⟨rest, rfl, hrest⟩ := List.cons_eq_append_iff.mp hoperations
    · obtain ⟨rfl, rfl⟩ := List.cons.inj hrest
      exact ⟨progress, hfollows.1, hdeleted, rfl, hfollows.2 answer⟩
    · exact absurd hrest (by simp)

/-- While the switch is not used again, its operation stays alone. -/
theorem Alone.step (halone : state.Alone) (hstep : Step isIOS state label after)
    (hlabel : label.LeavesSwitch) : after.Alone := by
  cases hstep with
  | restarted => exact Alone.restart isIOS state
  | restartedWithToken hnone hnowhere =>
    refine .inr ⟨⟨none, initPushOnLaunch isIOS⟩, .start, ?_, follows_initPushOnLaunch isIOS, nofun⟩
    rw [handOut_app]
    rfl
  | toggled hscreen hbusy => exact absurd rfl (hlabel _)
  | @called middle earlier later screen call next answer hoperations hanswers =>
    obtain ⟨progress, hallows, hdeleted, hrest, hfollows⟩ :=
      halone.exists_progress hoperations answer
    exact .inr ⟨_, progress.remember call answer, hrest, hfollows,
      hanswers.progress hallows hdeleted⟩
  | @ended earlier later operation hoperations hended =>
    obtain ⟨shown, hshown⟩ := exists_onScreen (state.goOn (earlier ++ later)) operation.screen
      fun shown ↦ { shown with pushBusy := false }
    rw [hshown]
    refine .inl ?_
    have hlength : state.app.operations.length ≤ 1 := by
      rcases halone with hnone | ⟨operation, progress, hone, -⟩
      · rw [hnone]
        exact Nat.zero_le 1
      · rw [hone]
        exact le_rfl
    rw [hoperations] at hlength
    simp only [List.length_append, List.length_cons] at hlength
    exact List.eq_nil_of_length_eq_zero (by simp only [goOn, List.length_append]; omega)
  | @tokenRefreshed token hlive hnowhere =>
    rcases halone with hnone | ⟨operation, progress, hone, hfollows, hdeleted⟩
    · exact .inl (by rw [handOut_app, hnone])
    · exact .inr ⟨operation, progress, by rw [handOut_app, hone], hfollows,
        fun h ↦ absurd (hdeleted h) hlive⟩
  | _ => exact halone.of_eq rfl rfl

/-- When the user is told that push is off, it is, provided that the preference has been stored. -/
theorem Alone.off (halone : state.Alone)
    (hstep : Step isIOS state (.called (.showSuccess false)) after)
    (hstored : after.pushEnabledStored = false) : after.Off := by
  cases hstep with
  | @called middle earlier later screen call next answer hoperations hanswers =>
    obtain ⟨progress, hallows, hdeleted, hrest, hfollows⟩ :=
      halone.exists_progress hoperations answer
    obtain rfl := hanswers
    refine ⟨hstored, fun token htoken ↦ ?_, fun operation hoperation ↦ ?_⟩
    · exact absurd ((hdeleted (hallows.2 rfl)).symm.trans htoken) (Option.some_ne_none token).symm
    · rw [show _ = [_] from hrest] at hoperation
      rw [List.mem_singleton.mp hoperation]
      exact .inl (nextCall_of_told rfl hfollows)

end State

/-- When the switch, with nothing else going on, has told the user that push is off, and the
preference has been stored, then whatever was on its way, and whatever the backends and the other
devices do, and the messaging service within its rules (it hands out tokens that nobody has, not
unasked in the process that has deleted one, and delivers to the token that the device has), and
however often the app is restarted or its backend changed: until the switch is used again no message
reaches the device, and nobody has the token that it may get. -/
theorem disabled_receives_nothing {isIOS value : Bool} {before toggled shown disabled last : State}
    {during later : List (Taken State Label)}
    (hnothing : before.app.operations = []) (htoggled : Step isIOS before (.toggled value) toggled)
    (hduring : Run (Step isIOS) toggled during shown)
    (hshown : Step isIOS shown (.called (.showSuccess false)) disabled)
    (hstored : disabled.pushEnabledStored = false)
    (hlater : Run (Step isIOS) disabled later last)
    (huntouched : ∀ taken ∈ during ++ later, taken.label.LeavesSwitch) :
    last.received = disabled.received ∧
      ∀ token, last.live = some token → last.Nowhere token := by
  have halone : toggled.Alone := by
    cases htoggled with
    | @toggled screen hscreen hbusy =>
      exact .inr ⟨⟨some screen.id, togglePush isIOS (!screen.pushEnabled)⟩, .start,
        congrArg (List.cons _) hnothing, follows_togglePush isIOS _, nofun⟩
  have hshownAlone : shown.Alone :=
    hduring.invariant_of_admitted State.Alone Label.LeavesSwitch halone
      (fun _ _ _ hkept hlabel hstep ↦ hkept.step hstep hlabel)
      fun taken htaken ↦ huntouched taken (List.mem_append_left _ htaken)
  have hkept : last.Off ∧ last.received = disabled.received :=
    hlater.invariant_of_admitted
      (fun state ↦ state.Off ∧ state.received = disabled.received) Label.LeavesSwitch
      ⟨hshownAlone.off hshown hstored, rfl⟩
      (fun _ _ _ hkept hlabel hstep ↦ by
        obtain ⟨hoff, hsame⟩ := hkept.1.step hstep hlabel
        exact ⟨hoff, hsame.trans hkept.2⟩)
      fun taken htaken ↦ huntouched taken (List.mem_append_right _ htaken)
  exact ⟨hkept.2, fun token htoken ↦ (hkept.1.nowhere token htoken).2⟩

/-- A device on which push is on, for which a message is on its way. -/
def messageOnItsWay : State where
  app := ⟨true, some ⟨0, true, false⟩, []⟩
  pushEnabledOnThisDevice := true
  pushEnabledStored := true
  baseUrl := "http://oott.lan"
  nextScreen := 1
  live := some "token"
  stores := fun _ ↦ PushTokensTable.empty.upsert "token" .android .epoch
  requests := []
  posts := [["token"]]
  received := 0

/-- The same device while its switch runs. -/
def turningOff (enabled : Bool) (live : Option String) (requests : List Sent) (shown : Bool)
    (rest : Program pushService Unit) : State :=
  { messageOnItsWay with
    app := ⟨true, some ⟨0, shown, true⟩, [⟨some 0, rest⟩]⟩
    pushEnabledOnThisDevice := enabled
    pushEnabledStored := enabled
    live := live
    requests := requests }

/-- A call of that switch. -/
theorem turningOff_called {enabled shown : Bool} {live : Option String} {requests : List Sent}
    (call : PushServiceCall) (answer : call.Response)
    {next : call.Response → Program pushService Unit} (enabled' : Bool) (live' : Option String)
    (requests' : List Sent) (shown' : Bool)
    (hanswers : State.Answers false (some 0) call
      (turningOff enabled live requests shown (.call (E := pushService) call next)) answer
      (turningOff enabled' live' requests' shown' (.call (E := pushService) call next))) :
    Step false (turningOff enabled live requests shown (.call (E := pushService) call next))
      (.called call) (turningOff enabled' live' requests' shown' (next answer)) :=
  @Step.called false _ _ [] [] (some 0) call next answer rfl hanswers

/-- Push is turned off before the message arrives, with a request that is still on its way. -/
theorem disabled_receives_nothing_lateMessage :
    ∃ disabled last later, Run (Step false) disabled later last ∧ disabled.posts = [["token"]] ∧
      last.posts = [] ∧ last.received = disabled.received := by
  have htoggled : Step false messageOnItsWay (.toggled false)
      (turningOff true (some "token") [] true (togglePush false false)) :=
    @Step.toggled false messageOnItsWay ⟨0, true, false⟩ rfl rfl
  have hstart : Run (Step false) (turningOff true (some "token") [] true (togglePush false false))
      [] _ := .start
  have hasked := (hstart.step
    (turningOff_called .initializeApp (some ()) true (some "token") [] true rfl)).step
    (turningOff_called .getToken (some (some "token")) true (some "token") [] true
      ⟨.inl rfl, .inr rfl⟩)
  let sent : List Sent := [⟨"http://oott.lan", .delete "token"⟩]
  have hdeleted := (hasked.step (turningOff_called (.unregisterPushToken "token") (some ()) true
    (some "token") sent true rfl)).step
    (turningOff_called .deleteToken (some ()) true none sent true (.inl rfl))
  have hstored := (hdeleted.step
    (turningOff_called .mounted true true none sent true ⟨rfl, rfl⟩)).step
    (turningOff_called (.setPushEnabledOnThisDevice false) (some true) false none sent true
      (.inl rfl))
  have hduring := (hstored.step
    (turningOff_called .mounted true false none sent true ⟨rfl, rfl⟩)).step
    (turningOff_called (.setPushEnabled false) () false none sent false rfl)
  have hshown : Step false
      (turningOff false none sent false (.call (E := pushService) (.showSuccess false) .ret)) _ _ :=
    turningOff_called (.showSuccess false) () false none sent false rfl
  have hlater : Run (Step false) (turningOff false none sent false (.ret ())) _ _ :=
    Run.start.step (@Step.delivered false _ [] [] ["token"] rfl)
  have hkept := disabled_receives_nothing rfl htoggled hduring hshown rfl hlater (by
    intro taken htaken value hvalue
    simp only [List.nil_append, List.cons_append, List.mem_cons, List.not_mem_nil, or_false]
      at htaken
    rcases htaken with rfl | rfl | rfl | rfl | rfl | rfl | rfl | rfl | rfl <;> cases hvalue)
  exact ⟨_, _, _, hlater, rfl, rfl, hkept.1⟩

end PushService

end Oott
