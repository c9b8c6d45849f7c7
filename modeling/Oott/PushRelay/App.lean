import Oott.PushRelay.Push
import Oott.PushRelay.RateLimit

/-!
# The relay's route

`push_relay/src/app.ts`: `POST /v1/push` checks the rate limit of its caller, validates the body and
delivers it. A caller is known by `req.ip`, which is the left-most entry of `X-Forwarded-For`, and
the front-end proxy appends the address of its peer on the right: so a peer that sends entries of
its own is known by the first of them. The requests of one peer stay within the limit exactly when
they are no more than that or share their left-most entry (`passed_le_limit_iff`).
-/

set_option autoImplicit false
set_option relaxedAutoImplicit false

namespace Oott.PushRelay

/-- A request: the entries of its `X-Forwarded-For` header, from the left, and its body. -/
structure Request where
  forwardedFor : List String
  body : Option Json

/-- The status and the JSON body of a response. -/
structure Response where
  status : ℕ
  body : Json

/-- `AppDependencies`. -/
structure AppDependencies (σ : Type) where
  messenger : Messenger
  rateLimitStore : RateLimitStore σ
  rateLimit : Option RateLimitOptions

/-- `req.ip`, when every proxy is trusted. -/
def Request.ip (request : Request) : Option String := request.forwardedFor.head?

/-- `clientKey`. -/
def clientKey (request : Request) : String := request.ip.getD "unknown"

/-- The body of a response that reports an error. -/
def errorBody (error : String) : Json := .object [("error", .string error)]

/-- The JSON form of a token's result. -/
def TokenResult.toJson (result : TokenResult) : Json :=
  .object [("token", .string result.token), ("status", .string result.status.text)]

/-- The route after the rate limit has let the request through. -/
def relayPush (messenger : Messenger) (body : Option Json) : Response :=
  match validatePushRequest body with
  | .error error => ⟨400, errorBody error⟩
  | .ok value =>
    match sendPush messenger value with
    | .ok results => ⟨200, .object [("results", .array (results.map TokenResult.toJson))]⟩
    | .error _ => ⟨502, errorBody "failed to deliver to FCM"⟩

/-- `POST /v1/push`. -/
def postPush {σ : Type} (deps : AppDependencies σ) (request : Request) (now : Int) (state : σ) :
    Response × σ :=
  let (decision, state) := checkRateLimit deps.rateLimitStore (clientKey request)
    (deps.rateLimit.getD defaultRateLimit) now state
  if !decision.allowed then (⟨429, errorBody "rate limit exceeded"⟩, state)
  else (relayPush deps.messenger request.body, state)

/-! ### The requests of a peer -/

/-- What the front-end proxy passes on of a request that `peer` sent. -/
def forward (peer : String) (sent : Request) : Request :=
  { sent with forwardedFor := sent.forwardedFor ++ [peer] }

/-- A request and the time it is served at. -/
structure Arrival where
  sent : Request
  now : Int

/-- The responses to the requests of a peer, one after the other. -/
def serve {σ : Type} (deps : AppDependencies σ) (peer : String) :
    List Arrival → σ → List Response
  | [], _ => []
  | arrival :: rest, state =>
    let (response, state) := postPush deps (forward peer arrival.sent) arrival.now state
    response :: serve deps peer rest state

/-- The response is not that of a refusal by the rate limit. -/
def Response.passed (response : Response) : Bool := response.status != 429

section Peer

variable {σ : Type} {deps : AppDependencies σ} {entry : σ → String → Option WindowState}
  {peer : String} {arrivals : List Arrival} {state : σ}

/-- The call of the rate limit that a request of the peer makes. -/
def Arrival.call (peer : String) (arrival : Arrival) : RateLimitCall :=
  ⟨clientKey (forward peer arrival.sent), arrival.now⟩

theorem relayPush_passed (messenger : Messenger) (body : Option Json) :
    (relayPush messenger body).passed = true := by
  unfold relayPush
  split
  · rfl
  · split <;> rfl

/-- The requests that pass are those whose calls are allowed. -/
theorem countP_passed (arrivals : List Arrival) (state : σ) :
    (serve deps peer arrivals state).countP Response.passed =
      (checkAll deps.rateLimitStore (deps.rateLimit.getD defaultRateLimit)
        (arrivals.map (Arrival.call peer)) state).countP fun checked ↦ checked.2.allowed := by
  induction arrivals generalizing state with
  | nil => rfl
  | cons arrival rest ih =>
    have hpassed : (postPush deps (forward peer arrival.sent) arrival.now state).1.passed =
        (checkRateLimit deps.rateLimitStore (arrival.call peer).key
          (deps.rateLimit.getD defaultRateLimit) (arrival.call peer).now state).1.allowed := by
      show (postPush _ _ _ _).1.passed = (checkRateLimit _ (clientKey _) _ _ _).1.allowed
      unfold postPush
      dsimp only [Arrival.call]
      split_ifs with hallowed
      · rw [Bool.not_eq_true'] at hallowed
        rw [hallowed]
        rfl
      · rw [Bool.not_eq_true', Bool.not_eq_false] at hallowed
        rw [hallowed, relayPush_passed]
    have hstate : (postPush deps (forward peer arrival.sent) arrival.now state).2 =
        (checkRateLimit deps.rateLimitStore (arrival.call peer).key
          (deps.rateLimit.getD defaultRateLimit) (arrival.call peer).now state).2 := by
      unfold postPush
      dsimp only [Arrival.call]
      split_ifs <;> rfl
    rw [List.map_cons, checkAll, serve, List.countP_cons, List.countP_cons, hpassed, hstate, ih]

/-- The entry by which the rate limit knows a request of the peer. -/
def leftMost (peer : String) (sent : Request) : String := sent.forwardedFor.head?.getD peer

theorem clientKey_forward (peer : String) (sent : Request) :
    clientKey (forward peer sent) = leftMost peer sent := by
  obtain ⟨entries, body⟩ := sent
  cases entries <;> rfl

/-- A peer stays within its limit by whatever it writes into `X-Forwarded-For`, exactly when that
gives it no second key. Of its requests in a window, on a store that counts by key and has no window
open for their keys when the first is made, at most `limit` pass if and only if the limit is zero,
the requests are no more than the limit, or they all have the same left-most entry. -/
theorem passed_le_limit_iff (hcounts : deps.rateLimitStore.Counts entry) (peer : String)
    (arrivals : List Arrival) (state : σ) (opened : Int)
    (hwithin : ∀ arrival ∈ arrivals, opened ≤ arrival.now ∧
      arrival.now < opened + (deps.rateLimit.getD defaultRateLimit).windowMs)
    (hfresh : ∀ arrival ∈ arrivals, ∀ previous,
      entry state (leftMost peer arrival.sent) = some previous →
      (deps.rateLimit.getD defaultRateLimit).windowMs ≤ opened - previous.windowStart) :
    (serve deps peer arrivals state).countP Response.passed ≤
        (deps.rateLimit.getD defaultRateLimit).limit ↔
      (deps.rateLimit.getD defaultRateLimit).limit = 0 ∨
        arrivals.length ≤ (deps.rateLimit.getD defaultRateLimit).limit ∨
        ∀ first ∈ arrivals, ∀ second ∈ arrivals,
          leftMost peer first.sent = leftMost peer second.sent := by
  have hcalls : ∀ call ∈ arrivals.map (Arrival.call peer), opened ≤ call.now ∧
      call.now < opened + (deps.rateLimit.getD defaultRateLimit).windowMs := by
    intro call hmem
    obtain ⟨arrival, harrival, rfl⟩ := List.mem_map.mp hmem
    exact hwithin arrival harrival
  have hkeys : (∀ first ∈ arrivals.map (Arrival.call peer),
      ∀ second ∈ arrivals.map (Arrival.call peer), first.key = second.key) ↔
      ∀ first ∈ arrivals, ∀ second ∈ arrivals,
        leftMost peer first.sent = leftMost peer second.sent := by
    simp only [List.forall_mem_map, Arrival.call, clientKey_forward]
  have hkeysFresh : ∀ call ∈ arrivals.map (Arrival.call peer), ∀ previous,
      entry state call.key = some previous →
      (deps.rateLimit.getD defaultRateLimit).windowMs ≤ opened - previous.windowStart := by
    simpa only [List.forall_mem_map, Arrival.call, clientKey_forward] using hfresh
  rw [countP_passed, countP_allowed_le_iff hcounts hcalls hkeysFresh, List.length_map, hkeys]

end Peer

/-- A messenger that delivers every message. -/
def deliversAll : Messenger where
  sendEach messages := .ok ⟨messages.map fun _ ↦ ⟨true, none⟩⟩

/-- The relay with a limit of one request a second and the store in memory. -/
def oneEachSecond : AppDependencies (String → Option WindowState) :=
  ⟨deliversAll, inMemoryRateLimitStore, some ⟨1, 1000⟩⟩

/-- Two requests of one peer, each with a forged entry of its own. -/
def forgedArrivals : List Arrival := [⟨⟨["1.1.1.1"], none⟩, 0⟩, ⟨⟨["2.2.2.2"], none⟩, 1⟩]

/-- With a limit of one, both requests of a peer that forges two entries pass. -/
theorem forged_entries_pass :
    ¬ (serve oneEachSecond "9.9.9.9" forgedArrivals fun _ ↦ none).countP Response.passed ≤ 1 := by
  decide

/-- A peer that sends no header of its own is held to the limit. -/
theorem passed_le_limit_iff_noHeader :
    (serve oneEachSecond "9.9.9.9" [⟨⟨[], none⟩, 0⟩, ⟨⟨[], none⟩, 1⟩] fun _ ↦ none).countP
      Response.passed ≤ 1 :=
  (@passed_le_limit_iff _ oneEachSecond _ inMemoryRateLimitStore_counts "9.9.9.9"
    [⟨⟨[], none⟩, 0⟩, ⟨⟨[], none⟩, 1⟩] (fun _ ↦ none) 0 (by simp [oneEachSecond]) nofun).mpr
    (Or.inr (Or.inr (by simp)))

end Oott.PushRelay
