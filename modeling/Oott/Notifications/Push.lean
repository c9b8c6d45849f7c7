import Oott.Database.PushTokens
import Oott.PushRelay.App
import Mathlib.Data.List.Induction
import Mathlib.Data.List.Nodup

/-!
# Sending a push through the relay

`notifications/push.rs`: every stored token is sent to the relay with the title and the body, and
the tokens that the relay reports dead are deleted. The relay and the backend agree on the JSON of
the request and of the reply by convention only; `RelayRequest.toJson_eq` and
`parseRelayResponse_results` are that agreement, and `send_prunes_dead` what comes of it. The URL of
the relay is left out.
-/

set_option autoImplicit false
set_option relaxedAutoImplicit false

namespace Oott

open Effects PushRelay

/-- `RelayNotification`. -/
structure RelayNotification where
  title : String
  body : String

/-- `RelayRequest`. -/
structure RelayRequest where
  tokens : List String
  notification : RelayNotification

/-- The JSON that `serde` writes of a request. -/
def RelayRequest.toJson (request : RelayRequest) : Json :=
  .object [("tokens", .array (request.tokens.map .string)),
    ("notification", .object [("title", .string request.notification.title),
      ("body", .string request.notification.body)])]

/-- `RelayTokenResult`. -/
structure RelayTokenResult where
  token : String
  status : String

/-- What `serde` reads of a token's result. -/
def RelayTokenResult.ofJson (value : Json) : Option RelayTokenResult := do
  let token ← value.member "token" >>= Json.text
  let status ← value.member "status" >>= Json.text
  return ⟨token, status⟩

/-- The results that `serde` reads of a `RelayResponse`, none when there is no such member. -/
def parseRelayResponse (value : Json) : Option (List RelayTokenResult) :=
  match value with
  | .object _ =>
    match value.member "results" with
    | none => some []
    | some results => results.items >>= List.mapM RelayTokenResult.ofJson
  | _ => none

/-- `is_dead_status`. -/
def isDeadStatus (status : String) : Bool := status == "unregistered" || status == "invalid"

/-- `dead_tokens`. -/
def deadTokens (results : List RelayTokenResult) : List String :=
  (results.filter fun result ↦ isDeadStatus result.status).map RelayTokenResult.token

/-- `DeliveryError`, as far as `send` raises it. -/
inductive DeliveryError
  | http
  | db (error : DbError)
deriving DecidableEq

/-- The request for the stored tokens. -/
def relayRequest (stored : List PushToken) (title body : String) : RelayRequest :=
  ⟨stored.map PushToken.token, ⟨title, body⟩⟩

/-- `error_for_status`, and the JSON of a reply that is no error. -/
def RelayReply.results (reply : RelayReply) : Option (List RelayTokenResult) :=
  if 400 ≤ reply.status ∧ reply.status < 600 then none else reply.body >>= parseRelayResponse

/-- The end of `send`: delete the dead tokens, and count the deliveries. -/
def prune (results : List RelayTokenResult) : Program pushBackend (Except DeliveryError Nat) := do
  let dead := deadTokens results
  match ← (if dead.isEmpty then pure (.ok 0) else Db.PushTokens.deleteMany dead) with
  | .error error => return .error (.db error)
  | .ok _ => return .ok (results.countP fun result ↦ result.status == "ok")

/-- `notifications::push::send`. -/
def send (title body : String) : Program pushBackend (Except DeliveryError Nat) := do
  match ← Db.PushTokens.list with
  | .error error => return .error (.db error)
  | .ok stored =>
    if stored.isEmpty then return .ok 0
    else
      match ←
        Program.perform (E := pushBackend) (.post (relayRequest stored title body).toJson) with
      | none => return .error .http
      | some reply =>
        match reply.results with
        | none => return .error .http
        | some results => prune results

/-! ### The two ends of the JSON -/

/-- The backend writes what the relay reads. -/
theorem RelayRequest.toJson_eq (request : RelayRequest) :
    request.toJson = PushRequest.toJson
      ⟨request.tokens, ⟨request.notification.title, request.notification.body⟩⟩ :=
  rfl

/-- The backend reads what the relay writes. -/
theorem parseRelayResponse_results (results : List TokenResult) :
    parseRelayResponse (.object [("results", .array (results.map TokenResult.toJson))]) =
      some (results.map fun result ↦ ⟨result.token, result.status.text⟩) := by
  show (results.map TokenResult.toJson).mapM RelayTokenResult.ofJson = _
  induction results with
  | nil => rfl
  | cons result rest ih =>
    rw [List.map_cons, List.mapM_cons, ih]
    rfl

/-- A status is dead for the backend exactly when the relay means it so. -/
theorem isDeadStatus_text (status : TokenStatus) :
    isDeadStatus status.text = true ↔ status = .unregistered ∨ status = .invalid := by
  cases status <;> decide

theorem text_eq_ok_iff (status : TokenStatus) : status.text = "ok" ↔ status = .ok := by
  cases status <;> decide

/-! ### Pruning -/

/-- The backend on a database that does not fail, against a relay with the given messenger whose
rate limit lets it through. -/
def relayed (messenger : Messenger) (instant : Instant) : Machine pushBackend PushTokensTable
  | .now, table => (instant, table)
  | .sql statement, table => (.ok (statement.execute table).1, (statement.execute table).2)
  | .post body, table =>
    (some ⟨(relayPush messenger (some body)).status, some (relayPush messenger (some body)).body⟩,
      table)

/-- The rows whose entry in the batch response, at the row's position, is not that of a dead
token. -/
def keptRows (responses : List SendResponse) (rows : List PushToken) : List PushToken :=
  (rows.zipIdx.filter fun row ↦ !isDead responses[row.2]?).map Prod.fst

/-- The results that reach the backend, from the batch response. -/
def resultsOf (responses : List SendResponse) (rows : List PushToken) : List RelayTokenResult :=
  rows.zipIdx.map fun row ↦
    ⟨row.1.token, (tokenResult row.1.token responses[row.2]?).status.text⟩

variable {messenger : Messenger} {table : PushTokensTable} {responses : List SendResponse}
  {title body : String}

/-- The reply of the relay to a request that it accepts, as the backend reads it. -/
theorem results_relayPush {rows : List PushToken}
    (hdeliverable : PushRequest.Deliverable ⟨rows.map PushToken.token, ⟨title, body⟩⟩)
    (hbatch : messenger.sendEach (rows.map fun row ↦ ⟨row.token, ⟨title, body⟩⟩) =
      .ok ⟨responses⟩) :
    RelayReply.results
        ⟨(relayPush messenger (some (relayRequest rows title body).toJson)).status,
          some (relayPush messenger (some (relayRequest rows title body).toJson)).body⟩ =
      some (resultsOf responses rows) := by
  have hvalid : validatePushRequest (some (relayRequest rows title body).toJson) =
      .ok ⟨rows.map PushToken.token, ⟨title, body⟩⟩ := by
    rw [RelayRequest.toJson_eq]
    exact validatePushRequest_toJson.mpr ⟨rfl, hdeliverable⟩
  have hsend : sendPush messenger ⟨rows.map PushToken.token, ⟨title, body⟩⟩ =
      .ok (rows.zipIdx.map fun row ↦ tokenResult row.1.token responses[row.2]?) := by
    have hmessages : (rows.map PushToken.token).map (fun token ↦ TokenMessage.mk token
        ⟨title, body⟩) = rows.map fun row ↦ ⟨row.token, ⟨title, body⟩⟩ := List.map_map
    have hresults : (rows.map PushToken.token).mapIdx (fun index token ↦
        tokenResult token responses[index]?) =
        rows.zipIdx.map fun row ↦ tokenResult row.1.token responses[row.2]? := by
      rw [List.mapIdx_eq_zipIdx_map, List.zipIdx_map, List.map_map]
      rfl
    show (messenger.sendEach ((rows.map PushToken.token).map _)).map _ = _
    rw [hmessages, hbatch]
    exact congrArg Except.ok hresults
  have hreply : relayPush messenger (some (relayRequest rows title body).toJson) =
      ⟨200, .object [("results", .array ((rows.zipIdx.map fun row ↦
        tokenResult row.1.token responses[row.2]?).map TokenResult.toJson))]⟩ := by
    unfold relayPush
    rw [hvalid]
    dsimp only
    rw [hsend]
  have hstatus : ∀ body, RelayReply.results ⟨200, some body⟩ = parseRelayResponse body :=
    fun body ↦ if_neg (show ¬ (400 ≤ 200 ∧ 200 < 600) by decide)
  rw [hreply, hstatus, parseRelayResponse_results, List.map_map]
  refine congrArg some (List.map_congr_left fun row _ ↦ ?_)
  rw [Function.comp_apply, tokenResult_token]

/-- Elements that an injective key identifies: those whose key is not one of a selection are those
that are not selected. -/
theorem filter_notMem_map_filter {α β : Type} [DecidableEq β] {list : List α} {key : α → β}
    (hkey : (list.map key).Nodup) (selected : α → Bool) :
    (list.filter fun x ↦ key x ∉ (list.filter selected).map key) =
      list.filter fun x ↦ !selected x := by
  refine List.filter_congr fun x hx ↦ ?_
  have hiff : key x ∈ (list.filter selected).map key ↔ selected x = true := by
    rw [List.mem_map]
    constructor
    · rintro ⟨y, hy, hsame⟩
      obtain ⟨hy, hselected⟩ := List.mem_filter.mp hy
      rwa [List.inj_on_of_nodup_map hkey hy hx hsame] at hselected
    · exact fun hselected ↦ ⟨x, List.mem_filter.mpr ⟨hx, hselected⟩, rfl⟩
  simp only [hiff]
  cases selected x <;> rfl

/-- The dead tokens are those at the positions of the dead entries. -/
theorem deadTokens_resultsOf (responses : List SendResponse) (rows : List PushToken) :
    deadTokens (resultsOf responses rows) =
      (rows.zipIdx.filter fun row ↦ isDead responses[row.2]?).map fun row ↦ row.1.token := by
  unfold deadTokens resultsOf
  rw [List.filter_map, List.map_map]
  have hdead : ∀ row : PushToken × ℕ, isDeadStatus
      (tokenResult row.1.token responses[row.2]?).status.text = isDead responses[row.2]? :=
    fun row ↦ Bool.eq_iff_iff.mpr ((isDeadStatus_text _).trans (tokenResult_dead_iff _ _))
  simp only [Function.comp_def, hdead]

/-- Deleting the dead tokens keeps the rows at the other positions. -/
theorem rows_deleteMany_deadTokens (responses : List SendResponse) (table : PushTokensTable) :
    (table.deleteMany (deadTokens (resultsOf responses table.rows))).rows =
      keptRows responses table.rows := by
  have hkeys : (table.rows.zipIdx.map fun row ↦ row.1.token).Nodup := by
    have htokens : table.rows.zipIdx.map (fun row ↦ row.1.token) =
        table.rows.map PushToken.token := by
      show table.rows.zipIdx.map (PushToken.token ∘ Prod.fst) = _
      rw [← List.map_map, List.zipIdx_map_fst]
    rw [htokens]
    exact List.pairwise_map.mpr table.unique
  calc (table.deleteMany (deadTokens (resultsOf responses table.rows))).rows
      = table.rows.filter fun row ↦ row.token ∉ deadTokens (resultsOf responses table.rows) :=
        PushTokensTable.rows_deleteMany table _
    _ = (table.rows.zipIdx.map Prod.fst).filter fun row ↦
          row.token ∉ deadTokens (resultsOf responses table.rows) := by rw [List.zipIdx_map_fst]
    _ = (table.rows.zipIdx.filter fun row ↦
          row.1.token ∉ deadTokens (resultsOf responses table.rows)).map Prod.fst :=
        List.filter_map
    _ = keptRows responses table.rows := by
        rw [deadTokens_resultsOf, filter_notMem_map_filter hkeys]
        rfl

/-- The positions of a list whose entry in a second list counts. -/
theorem countP_zipIdx {α β : Type} (list : List α) (entries : List β) (counted : β → Bool) :
    list.zipIdx.countP (fun x ↦ entries[x.2]?.any counted) =
      (entries.take list.length).countP counted := by
  induction list using List.reverseRecOn with
  | nil => rfl
  | append_singleton list last ih =>
    rw [List.zipIdx_append, List.countP_append, ih, List.length_append, List.length_singleton,
      List.take_add_one, List.countP_append]
    cases hentry : entries[list.length]? with
    | none => simp [hentry]
    | some entry => simp [hentry, List.countP_cons]

/-- The deliveries are the successful entries among those of the tokens. -/
theorem countP_resultsOf (responses : List SendResponse) (rows : List PushToken) :
    (resultsOf responses rows).countP (fun result ↦ result.status == "ok") =
      (responses.take rows.length).countP SendResponse.success := by
  have hok : ∀ row : PushToken × ℕ,
      ((tokenResult row.1.token responses[row.2]?).status.text == "ok") =
        responses[row.2]?.any SendResponse.success := fun row ↦
    Bool.eq_iff_iff.mpr (beq_iff_eq.trans
      ((text_eq_ok_iff _).trans (tokenResult_ok_iff _ _)))
  unfold resultsOf
  rw [List.countP_map]
  simp only [Function.comp_def, hok]
  exact countP_zipIdx rows responses SendResponse.success

/-- What `prune` does on a database that does not fail. -/
theorem run_prune (results : List RelayTokenResult) (instant : Instant) (table : PushTokensTable) :
    (prune results).run (relayed messenger instant) table =
      (some (.ok (results.countP fun result ↦ result.status == "ok")),
        table.deleteMany (deadTokens results)) := by
  unfold prune Db.PushTokens.deleteMany
  by_cases hnone : (deadTokens results).isEmpty
  · rw [List.isEmpty_iff.mp hnone]
    rfl
  · simp only [if_neg hnone]
    rfl

/-- Pruning removes exactly the dead tokens, and the deliveries are counted. With at most
`MAX_TOKENS` stored tokens, none of them empty, a notification within the limits and any batch
response, a push through the relay keeps exactly the rows whose entry is missing, successful, or
failed with a code of no dead token. -/
theorem send_prunes_dead (table : PushTokensTable) (hle : table.rows.length ≤ maxTokens)
    (htokens : ∀ row ∈ table.rows, row.token ≠ "") (title body : String)
    (hlimits : PushNotification.WithinLimits ⟨title, body⟩) (responses : List SendResponse)
    (messenger : Messenger)
    (hbatch : messenger.sendEach (table.rows.map fun row ↦ ⟨row.token, ⟨title, body⟩⟩) =
      .ok ⟨responses⟩) (instant : Instant) :
    ∃ after, (send title body).run (relayed messenger instant) table =
        (some (.ok ((responses.take table.rows.length).countP SendResponse.success)), after) ∧
      after.rows = keptRows responses table.rows := by
  by_cases hempty : table.rows.isEmpty
  · refine ⟨table, ?_, ?_⟩
    · show (if table.rows.isEmpty then _ else _ : Program pushBackend _).run _ _ = _
      rw [if_pos hempty, List.isEmpty_iff.mp hempty]
      rfl
    · rw [List.isEmpty_iff.mp hempty]
      rfl
  · have hdeliverable : PushRequest.Deliverable
        ⟨table.rows.map PushToken.token, ⟨title, body⟩⟩ := by
      refine ⟨fun hnil ↦ hempty ?_, ?_, fun token htoken ↦ ?_, hlimits⟩
      · rw [List.isEmpty_iff]
        exact List.map_eq_nil_iff.mp hnil
      · rwa [List.length_map]
      · obtain ⟨row, hrow, rfl⟩ := List.mem_map.mp htoken
        exact htokens row hrow
    refine ⟨table.deleteMany (deadTokens (resultsOf responses table.rows)), ?_,
      rows_deleteMany_deadTokens responses table⟩
    show (if table.rows.isEmpty then _ else _ : Program pushBackend _).run _ _ = _
    rw [if_neg hempty, Program.perform_bind, Program.run_call]
    dsimp only [relayed, PushTokenStatement.execute]
    rw [results_relayPush hdeliverable hbatch]
    dsimp only
    rw [run_prune, countP_resultsOf]

/-- A stored token of an Android device. -/
def storedToken (id : Int) (token : String) : PushToken := ⟨id, token, .android, .epoch, .epoch⟩

/-- A table of three tokens. -/
def threeTokens : PushTokensTable :=
  ⟨[storedToken 1 "a", storedToken 2 "b", storedToken 3 "c"], by decide, by decide⟩

/-- A batch response whose second entry is that of a dead token. -/
def secondDead : List SendResponse :=
  [⟨true, none⟩, ⟨false, some ⟨some "messaging/registration-token-not-registered"⟩⟩]

/-- Three tokens, of which the first is delivered to, the second is dead and the third has no
entry. -/
theorem send_prunes_dead_second :
    ∃ after, (send "OOTT" "A device is new").run (relayed ⟨fun _ ↦ .ok ⟨secondDead⟩⟩ .epoch)
        threeTokens = (some (.ok 1), after) ∧
      after.rows = [storedToken 1 "a", storedToken 3 "c"] :=
  send_prunes_dead threeTokens (by decide) (by decide) "OOTT" "A device is new" (by decide)
    secondDead ⟨fun _ ↦ .ok ⟨secondDead⟩⟩ rfl .epoch

end Oott
