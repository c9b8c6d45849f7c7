import Oott.Utils.Json

/-!
# Validating and sending a push

`push_relay/src/push.ts`: the validation of an untrusted request body, the classification of the
error codes of Firebase, and the delivery of one notification to every token. An absent value is
`undefined`. `validatePushRequest` accepts the body of a request exactly when it has between one and
`MAX_TOKENS` tokens, none of them empty, and its notification is within the limits
(`validatePushRequest_toJson`).
-/

set_option autoImplicit false
set_option relaxedAutoImplicit false

namespace Oott.PushRelay

/-- `TokenStatus`. -/
inductive TokenStatus
  | ok
  | unregistered
  | invalid
  | error
deriving DecidableEq

/-- The text of a status. -/
def TokenStatus.text : TokenStatus → String
  | ok => "ok"
  | unregistered => "unregistered"
  | invalid => "invalid"
  | error => "error"

/-- `PushNotification`. -/
structure PushNotification where
  title : String
  body : String
deriving DecidableEq

/-- `PushRequest`. -/
structure PushRequest where
  tokens : List String
  notification : PushNotification
deriving DecidableEq

/-- `TokenResult`. -/
structure TokenResult where
  token : String
  status : TokenStatus
deriving DecidableEq

/-- `TokenMessage`. -/
structure TokenMessage where
  token : String
  notification : PushNotification
deriving DecidableEq

/-- The error of an entry of a batch response. -/
structure SendError where
  code : Option String
deriving DecidableEq

/-- An entry of a batch response. -/
structure SendResponse where
  success : Bool
  error : Option SendError
deriving DecidableEq

/-- `BatchResponseLike`. -/
structure BatchResponse where
  responses : List SendResponse
deriving DecidableEq

/-- `MessengerLike`: `sendEach` gives a batch response, or throws with a message. -/
structure Messenger where
  sendEach : List TokenMessage → Except String BatchResponse

/-- `MAX_TOKENS`. -/
def maxTokens : ℕ := 500

/-- `MAX_TITLE_LENGTH`. -/
def maxTitleLength : ℕ := 256

/-- `MAX_BODY_LENGTH`. -/
def maxBodyLength : ℕ := 2048

/-! ### Validation -/

/-- `typeof value === "object" && value !== null`. -/
def isObject : Option Json → Bool
  | some (.object _) | some (.array _) => true
  | _ => false

/-- The text of a non-empty string. -/
def nonEmptyString (value : Json) : Option String :=
  value.text.filter fun text ↦ 0 < utf16Length text

/-- The part of `validatePushRequest` that narrows the tokens. -/
def validateTokens (tokens : Option Json) : Except String (List String) :=
  match tokens.bind Json.items with
  | none => .error "tokens must be a non-empty array"
  | some tokens =>
    if tokens.length = 0 then .error "tokens must be a non-empty array"
    else if tokens.length > maxTokens then
      .error s!"tokens must contain at most {maxTokens} entries"
    else
      match tokens.mapM nonEmptyString with
      | none => .error "every token must be a non-empty string"
      | some tokens => .ok tokens

/-- The part of `validatePushRequest` that narrows the notification. -/
def validateNotification (notification : Option Json) : Except String PushNotification :=
  if !isObject notification then .error "notification must be an object"
  else
    match notification.bind (Json.member "title") >>= nonEmptyString with
    | none => .error "notification.title must be a non-empty string"
    | some title =>
      match notification.bind (Json.member "body") >>= nonEmptyString with
      | none => .error "notification.body must be a non-empty string"
      | some body =>
        if utf16Length title > maxTitleLength then
          .error s!"notification.title must be at most {maxTitleLength} characters"
        else if utf16Length body > maxBodyLength then
          .error s!"notification.body must be at most {maxBodyLength} characters"
        else .ok ⟨title, body⟩

/-- `validatePushRequest`. -/
def validatePushRequest (body : Option Json) : Except String PushRequest :=
  if !isObject body then .error "body must be a JSON object"
  else do
    let tokens ← validateTokens (body.bind (Json.member "tokens"))
    let notification ← validateNotification (body.bind (Json.member "notification"))
    return ⟨tokens, notification⟩

/-! ### Delivery -/

/-- `classifyFailure`. -/
def classifyFailure : Option String → TokenStatus
  | some "messaging/registration-token-not-registered" => .unregistered
  | some "messaging/invalid-registration-token" => .invalid
  | some "messaging/invalid-argument" => .invalid
  | some "messaging/mismatched-credential" => .invalid
  | _ => .error

/-- The result of a token from the entry at its position, if there is one. -/
def tokenResult (token : String) (response : Option SendResponse) : TokenResult :=
  if response.any SendResponse.success then ⟨token, .ok⟩
  else ⟨token, classifyFailure (response.bind SendResponse.error >>= SendError.code)⟩

/-- `sendPush`. -/
def sendPush (messenger : Messenger) (request : PushRequest) : Except String (List TokenResult) :=
  let messages := request.tokens.map fun token ↦ ⟨token, request.notification⟩
  (messenger.sendEach messages).map fun batch ↦
    request.tokens.mapIdx fun index token ↦ tokenResult token batch.responses[index]?

/-! ### What the validation accepts -/

/-- The notification is within the limits of the relay. -/
structure PushNotification.WithinLimits (notification : PushNotification) : Prop where
  title_ne : notification.title ≠ ""
  body_ne : notification.body ≠ ""
  title_le : utf16Length notification.title ≤ maxTitleLength
  body_le : utf16Length notification.body ≤ maxBodyLength

instance (notification : PushNotification) : Decidable notification.WithinLimits :=
  decidable_of_iff (notification.title ≠ "" ∧ notification.body ≠ "" ∧
      utf16Length notification.title ≤ maxTitleLength ∧
      utf16Length notification.body ≤ maxBodyLength)
    ⟨fun ⟨htitle, hbody, htitle', hbody'⟩ ↦ ⟨htitle, hbody, htitle', hbody'⟩,
      fun ⟨htitle, hbody, htitle', hbody'⟩ ↦ ⟨htitle, hbody, htitle', hbody'⟩⟩

/-- The request is one that the relay accepts. -/
structure PushRequest.Deliverable (request : PushRequest) : Prop where
  tokens_ne : request.tokens ≠ []
  tokens_le : request.tokens.length ≤ maxTokens
  token_ne : ∀ token ∈ request.tokens, token ≠ ""
  notification : request.notification.WithinLimits

/-- The JSON form of a notification. -/
def PushNotification.toJson (notification : PushNotification) : Json :=
  .object [("title", .string notification.title), ("body", .string notification.body)]

/-- The JSON form of a request. -/
def PushRequest.toJson (request : PushRequest) : Json :=
  .object [("tokens", .array (request.tokens.map .string)),
    ("notification", request.notification.toJson)]

theorem nonEmptyString_string (text : String) :
    nonEmptyString (.string text) = if text = "" then none else some text := by
  by_cases hempty : text = ""
  · rw [if_pos hempty, hempty]
    rfl
  · have hpos : 0 < utf16Length text :=
      Nat.pos_of_ne_zero fun hzero ↦ hempty (utf16Length_eq_zero_iff.mp hzero)
    rw [if_neg hempty]
    exact Option.filter_eq_some_iff.mpr ⟨rfl, decide_eq_true hpos⟩

theorem mapM_nonEmptyString (tokens : List String) :
    (tokens.map Json.string).mapM nonEmptyString =
      if ∀ token ∈ tokens, token ≠ "" then some tokens else none := by
  induction tokens with
  | nil => rfl
  | cons token rest ih =>
    rw [List.map_cons, List.mapM_cons, ih, nonEmptyString_string]
    by_cases hempty : token = ""
    · have hnot : ¬ ∀ other ∈ token :: rest, other ≠ "" :=
        fun hall ↦ hall token List.mem_cons_self hempty
      rw [if_pos hempty, if_neg hnot]
      rfl
    · have hcons : (∀ other ∈ token :: rest, other ≠ "") ↔ ∀ other ∈ rest, other ≠ "" := by
        rw [List.forall_mem_cons]
        exact and_iff_right hempty
      simp only [hcons, if_neg hempty]
      split_ifs <;> rfl

theorem validateTokens_array {tokens result : List String} :
    validateTokens (some (.array (tokens.map .string))) = .ok result ↔
      result = tokens ∧ tokens ≠ [] ∧ tokens.length ≤ maxTokens ∧ ∀ token ∈ tokens, token ≠ "" := by
  show (if (tokens.map Json.string).length = 0 then _ else _) = _ ↔ _
  rw [List.length_map, mapM_nonEmptyString]
  by_cases hempty : tokens.length = 0
  · rw [if_pos hempty]
    exact iff_of_false nofun fun hvalid ↦ hvalid.2.1 (List.length_eq_zero_iff.mp hempty)
  by_cases htokensLe : tokens.length > maxTokens
  · rw [if_neg hempty, if_pos htokensLe]
    exact iff_of_false nofun fun hvalid ↦ absurd htokensLe (Nat.not_lt.mpr hvalid.2.2.1)
  rw [if_neg hempty, if_neg htokensLe]
  by_cases htokenNe : ∀ token ∈ tokens, token ≠ ""
  · rw [if_pos htokenNe, and_iff_left ⟨fun hnil ↦ hempty (List.length_eq_zero_iff.mpr hnil),
      Nat.le_of_not_gt htokensLe, htokenNe⟩, eq_comm (a := result)]
    exact Except.ok.injEq tokens result ▸ Iff.rfl
  · rw [if_neg htokenNe]
    exact iff_of_false nofun fun hvalid ↦ htokenNe hvalid.2.2.2

theorem validateNotification_toJson {notification result : PushNotification} :
    validateNotification (some notification.toJson) = .ok result ↔
      result = notification ∧ notification.WithinLimits := by
  have htitle : (some notification.toJson).bind (Json.member "title") >>= nonEmptyString =
      if notification.title = "" then none else some notification.title :=
    nonEmptyString_string notification.title
  have hbody : (some notification.toJson).bind (Json.member "body") >>= nonEmptyString =
      if notification.body = "" then none else some notification.body :=
    nonEmptyString_string notification.body
  unfold validateNotification
  rw [if_neg (by simp [isObject, PushNotification.toJson]), htitle, hbody]
  by_cases htitleNe : notification.title = ""
  · rw [if_pos htitleNe]
    exact iff_of_false nofun fun hlimits ↦ hlimits.2.title_ne htitleNe
  by_cases hbodyNe : notification.body = ""
  · rw [if_neg htitleNe, if_pos hbodyNe]
    exact iff_of_false nofun fun hlimits ↦ hlimits.2.body_ne hbodyNe
  rw [if_neg htitleNe, if_neg hbodyNe]
  by_cases htitleLe : utf16Length notification.title > maxTitleLength
  · simp only [if_pos htitleLe]
    exact iff_of_false nofun fun hlimits ↦ absurd htitleLe (Nat.not_lt.mpr hlimits.2.title_le)
  by_cases hbodyLe : utf16Length notification.body > maxBodyLength
  · simp only [if_neg htitleLe, if_pos hbodyLe]
    exact iff_of_false nofun fun hlimits ↦ absurd hbodyLe (Nat.not_lt.mpr hlimits.2.body_le)
  simp only [if_neg htitleLe, if_neg hbodyLe]
  rw [and_iff_left ⟨htitleNe, hbodyNe, Nat.le_of_not_gt htitleLe, Nat.le_of_not_gt hbodyLe⟩,
    eq_comm (a := result)]
  exact Except.ok.injEq notification result ▸ Iff.rfl

/-- The validation accepts the JSON form of a request exactly when it is deliverable, and gives the
request back. -/
theorem validatePushRequest_toJson {request result : PushRequest} :
    validatePushRequest (some request.toJson) = .ok result ↔
      result = request ∧ request.Deliverable := by
  have hparts : validatePushRequest (some request.toJson) =
      (validateTokens (some (.array (request.tokens.map .string)))).bind fun tokens ↦
        (validateNotification (some request.notification.toJson)).bind fun notification ↦
          .ok ⟨tokens, notification⟩ := rfl
  rw [hparts]
  constructor
  · intro haccepted
    cases htokens : validateTokens (some (.array (request.tokens.map .string))) with
    | error message => rw [htokens] at haccepted; cases haccepted
    | ok tokens =>
      cases hnotification : validateNotification (some request.notification.toJson) with
      | error message => rw [htokens, hnotification] at haccepted; cases haccepted
      | ok notification =>
        rw [htokens, hnotification] at haccepted
        obtain ⟨rfl, hne, hle, htokenNe⟩ := validateTokens_array.mp htokens
        obtain ⟨rfl, hlimits⟩ := validateNotification_toJson.mp hnotification
        exact ⟨(Except.ok.inj haccepted).symm, hne, hle, htokenNe, hlimits⟩
  · rintro ⟨rfl, hdeliverable⟩
    rw [validateTokens_array.mpr
        ⟨rfl, hdeliverable.tokens_ne, hdeliverable.tokens_le, hdeliverable.token_ne⟩,
      validateNotification_toJson.mpr ⟨rfl, hdeliverable.notification⟩]
    rfl

/-! ### What a delivery reports -/

/-- The codes of a token that can never be delivered to. -/
def deadCodes : List String :=
  ["messaging/registration-token-not-registered", "messaging/invalid-registration-token",
    "messaging/invalid-argument", "messaging/mismatched-credential"]

/-- The entry of a token that failed with one of the codes of a dead token. -/
def isDead (response : Option SendResponse) : Bool :=
  response.any fun entry ↦
    !entry.success && (entry.error >>= SendError.code).any fun code ↦ code ∈ deadCodes

theorem classifyFailure_dead (code : Option String) :
    (classifyFailure code = .unregistered ∨ classifyFailure code = .invalid) ↔
      (code.any fun code ↦ code ∈ deadCodes) = true := by
  cases code with
  | none => simp [classifyFailure]
  | some code =>
    rw [Option.any_some, decide_eq_true_iff]
    unfold classifyFailure deadCodes
    split <;> simp_all

@[simp] theorem tokenResult_token (token : String) (response : Option SendResponse) :
    (tokenResult token response).token = token := by
  unfold tokenResult
  split_ifs <;> rfl

theorem tokenResult_ok_iff (token : String) (response : Option SendResponse) :
    (tokenResult token response).status = .ok ↔ response.any SendResponse.success = true := by
  unfold tokenResult
  split_ifs with hsuccess
  · exact iff_of_true rfl hsuccess
  · refine iff_of_false ?_ hsuccess
    show classifyFailure _ ≠ _
    unfold classifyFailure
    split <;> exact nofun

theorem tokenResult_dead_iff (token : String) (response : Option SendResponse) :
    ((tokenResult token response).status = .unregistered ∨
      (tokenResult token response).status = .invalid) ↔ isDead response = true := by
  cases response with
  | none => simp [tokenResult, isDead, classifyFailure]
  | some entry =>
    unfold tokenResult isDead
    cases hsuccess : entry.success with
    | true => simp [hsuccess]
    | false => simpa [hsuccess] using classifyFailure_dead (entry.error >>= SendError.code)

end Oott.PushRelay
