import Oott.Effects.Trace
import Oott.Notifications.Push
import Oott.WebServer.Devices

/-!
# Registering push tokens

The handlers of `web_server/push_tokens.rs`, and what a history of registrations, unregistrations
and pushes makes of the table. `register` stores any token, while the relay rejects a whole request
for one empty token or one token too many: `SendsAccepted` holds in every table that is reached by
registering no empty token and none beyond `MAX_TOKENS` (`sends_accepted_of_registrations`).
-/

set_option autoImplicit false
set_option relaxedAutoImplicit false

namespace Oott

open Effects PushRelay

/-- `RegisterPushTokenPayload`. -/
structure RegisterPushTokenPayload where
  token : String
  platform : PushPlatform

namespace WebServer.PushTokens

/-- `register`. -/
def register (payload : RegisterPushTokenPayload) : Program pushBackend Reply := do
  return answerWrite (.ok, "Push token registered")
    (.internalServerError, "Error registering push token in the server, check your logs")
    (← Db.PushTokens.upsert payload.token payload.platform)

/-- `unregister`. -/
def unregister (token : String) : Program pushBackend Reply := do
  return answerWrite (.ok, "Push token unregistered")
    (.internalServerError, "Error unregistering push token in the server, check your logs")
    (← Db.PushTokens.delete token)

end WebServer.PushTokens

/-- What changes `push_tokens`: the two requests, and the pushes, which prune what the relay reports
dead. -/
inductive TokenOperation
  | register (payload : RegisterPushTokenPayload)
  | unregister (token : String)
  | send (title body : String)

namespace TokenOperation

/-- What an operation returns. -/
abbrev Outcome : TokenOperation → Type
  | register _ => Reply
  | unregister _ => Reply
  | send _ _ => Except DeliveryError Nat

/-- The program of an operation. -/
def program : (operation : TokenOperation) → Program pushBackend operation.Outcome
  | register payload => WebServer.PushTokens.register payload
  | unregister token => WebServer.PushTokens.unregister token
  | send title body => Oott.send title body

end TokenOperation

/-- A run of operations in which any database call may fail and the relay may reply anything. -/
abbrev TokenRun (history : List (Completed TokenOperation TokenOperation.Outcome PushTokensTable))
    (table : PushTokensTable) : Prop :=
  Sequential (fun operation ↦ Program.Exec PushFaulty operation.program) .empty history table

/-- Every body that `send` can post from the table is one that the relay accepts. -/
def SendsAccepted (table : PushTokensTable) (title body : String) : Prop :=
  ∀ trace outcome last, Program.Traced PushFaulty (send title body) table trace outcome last →
    ∀ answer ∈ trace, ∀ posted, answer.op = .post posted →
      ∃ request, validatePushRequest (some posted) = .ok request

/-- The stored tokens are such that the relay accepts them together. -/
structure PushTokensTable.Accepted (table : PushTokensTable) : Prop where
  token_ne : ∀ row ∈ table.rows, row.token ≠ ""
  length_le : table.rows.length ≤ maxTokens

/-- A registration that the relay's validation would let stand: its token is not empty, and is
already stored or still within `MAX_TOKENS`. -/
def RegistersAccepted
    (completed : Completed TokenOperation TokenOperation.Outcome PushTokensTable) : Prop :=
  ∀ payload, completed.activity = .register payload →
    payload.token ≠ "" ∧ ((∃ row ∈ completed.before.rows, row.token = payload.token) ∨
      completed.before.rows.length < maxTokens)

/-! ### What `send` posts -/

/-- A call that posts nothing and registers nothing. -/
def PushCall.Prunes : PushCall → Prop
  | .now => True
  | .sql (.upsert _ _ _) => False
  | .sql _ => True
  | .post _ => False

theorem deleteMany_always (tokens : List String) :
    (Db.PushTokens.deleteMany tokens).Always PushCall.Prunes := by
  unfold Db.PushTokens.deleteMany
  split_ifs
  · exact Program.always_ret _
  · exact Program.always_perform trivial

theorem prune_always (results : List RelayTokenResult) :
    (prune results).Always PushCall.Prunes := by
  unfold prune
  refine Program.Always.bind ?_ fun pruned ↦ ?_
  · split_ifs
    · exact Program.always_ret _
    · exact deleteMany_always _
  · cases pruned <;> exact Program.always_ret _

/-- What `send` does with the reply of the relay. -/
def readReply : Option RelayReply → Program pushBackend (Except DeliveryError Nat)
  | none => .ret (.error .http)
  | some reply =>
    match reply.results with
    | none => .ret (.error .http)
    | some results => prune results

/-- What `send` does with the stored tokens. -/
def postStored (title body : String) :
    Except DbError (List PushToken) → Program pushBackend (Except DeliveryError Nat)
  | .error error => .ret (.error (.db error))
  | .ok stored =>
    if stored.isEmpty then .ret (.ok 0)
    else .call (E := pushBackend) (.post (relayRequest stored title body).toJson) readReply

theorem send_eq (title body : String) :
    send title body = .call (E := pushBackend) (.sql .list) (postStored title body) := by
  refine congrArg (Program.call (E := pushBackend) _) (funext fun response ↦ ?_)
  rcases response with error | stored
  · rfl
  · show (if stored.isEmpty then _ else _) = if stored.isEmpty then _ else _
    refine if_congr Iff.rfl rfl ?_
    refine congrArg (Program.call (E := pushBackend) _) (funext fun reply ↦ ?_)
    cases reply <;> rfl

theorem readReply_always (reply : Option RelayReply) :
    (readReply reply).Always PushCall.Prunes := by
  unfold readReply
  split
  · exact Program.always_ret _
  · split
    · exact Program.always_ret _
    · exact prune_always _

/-- What `send` posts is the request for the tokens of the table it started from. -/
theorem posted_of_send {table last : PushTokensTable} {title body : String}
    {trace : List (Answer pushBackend)} {outcome : Option (Except DeliveryError Nat)}
    (htraced : Program.Traced PushFaulty (send title body) table trace outcome last)
    {answer : Answer pushBackend} (hmem : answer ∈ trace) {posted : Json}
    (hposted : answer.op = .post posted) :
    posted = (relayRequest table.rows title body).toJson := by
  rw [send_eq] at htraced
  obtain ⟨response, middle, rest, htrace, hcall, hrest⟩ := Program.traced_call_iff.mp htraced
  have hlater : answer ∈ rest := by
    rw [htrace] at hmem
    rcases List.mem_cons.mp hmem with hfirst | hlater
    · rw [hfirst] at hposted
      cases hposted
    · exact hlater
  cases hcall with
  | fail statement error =>
    rw [(Program.traced_ret_iff.mp hrest).1] at hlater
    cases hlater
  | answer =>
    change Program.Traced PushFaulty (if table.rows.isEmpty then _ else _) _ _ _ _ at hrest
    split_ifs at hrest with hempty
    · rw [(Program.traced_ret_iff.mp hrest).1] at hlater
      cases hlater
    · obtain ⟨reply, after, others, hothers, -, hprunes⟩ := Program.traced_call_iff.mp hrest
      rw [hothers] at hlater
      rcases List.mem_cons.mp hlater with hfirst | hlater
      · rw [hfirst] at hposted
        exact (PushCall.post.inj hposted).symm
      · have hallowed := hprunes.allowed (readReply_always reply) answer hlater
        rw [hposted] at hallowed
        exact hallowed.elim

/-- What `send` posts from a table is the request for its tokens, and there is a run in which it
does post it. -/
theorem sendsAccepted_iff_request {table : PushTokensTable} (hne : table.rows ≠ [])
    (title body : String) :
    SendsAccepted table title body ↔ ∃ request,
      validatePushRequest (some (relayRequest table.rows title body).toJson) = .ok request := by
  have hnotEmpty : ¬ table.rows.isEmpty = true := fun hempty ↦ hne (List.isEmpty_iff.mp hempty)
  constructor
  · intro haccepted
    have htraced : Program.Traced PushFaulty (send title body) table
        [⟨.sql .list, .ok table.rows⟩, ⟨.post (relayRequest table.rows title body).toJson, none⟩]
        (some (.error .http)) table := by
      rw [send_eq]
      refine .call (.answer .list table) ?_
      show Program.Traced PushFaulty (if table.rows.isEmpty then _ else _) _ _ _ _
      rw [if_neg hnotEmpty]
      exact .call (.reply _ table none) (.ret _ table)
    exact haccepted _ _ _ htraced _ (List.mem_cons_of_mem _ List.mem_cons_self) _ rfl
  · intro hvalid trace outcome last htraced answer hmem posted hposted
    rw [posted_of_send htraced hmem hposted]
    exact hvalid

/-- A non-empty table is sent in a request that the relay accepts exactly when its tokens are. -/
theorem sendsAccepted_iff {table : PushTokensTable} (hne : table.rows ≠ []) {title body : String}
    (hlimits : PushNotification.WithinLimits ⟨title, body⟩) :
    SendsAccepted table title body ↔ table.Accepted := by
  have hrequest : (relayRequest table.rows title body).toJson =
      PushRequest.toJson ⟨table.rows.map PushToken.token, ⟨title, body⟩⟩ := rfl
  rw [sendsAccepted_iff_request hne, hrequest]
  constructor
  · rintro ⟨request, hvalid⟩
    obtain ⟨-, hdeliverable⟩ := validatePushRequest_toJson.mp hvalid
    exact ⟨fun row hrow ↦ hdeliverable.token_ne _ (List.mem_map_of_mem hrow),
      (List.length_map _).symm.trans_le hdeliverable.tokens_le⟩
  · intro haccepted
    refine ⟨_, validatePushRequest_toJson.mpr ⟨rfl, fun hnil ↦ hne (List.map_eq_nil_iff.mp hnil),
      (List.length_map _).trans_le haccepted.length_le, fun token htoken ↦ ?_, hlimits⟩⟩
    obtain ⟨row, hrow, rfl⟩ := List.mem_map.mp htoken
    exact haccepted.token_ne row hrow

/-! ### What a history of operations stores -/

namespace PushTokensTable

theorem Accepted.of_sublist {table after : PushTokensTable} (haccepted : table.Accepted)
    (hsublist : after.rows.Sublist table.rows) : after.Accepted :=
  ⟨fun row hrow ↦ haccepted.token_ne row (hsublist.subset hrow),
    hsublist.length_le.trans haccepted.length_le⟩

/-- A registration keeps the tokens acceptable when it brings no empty token and no row too many. -/
theorem Accepted.upsert {table : PushTokensTable} (haccepted : table.Accepted) {token : String}
    (htoken : token ≠ "")
    (hroom : (∃ row ∈ table.rows, row.token = token) ∨ table.rows.length < maxTokens)
    (platform : PushPlatform) (now : Instant) : (table.upsert token platform now).Accepted := by
  unfold PushTokensTable.upsert
  split_ifs with hfound
  · refine ⟨fun row hrow ↦ ?_, (List.length_map _).trans_le haccepted.length_le⟩
    obtain ⟨old, hold, rfl⟩ := List.mem_map.mp hrow
    rw [refresh_token]
    exact haccepted.token_ne old hold
  · refine ⟨fun row hrow ↦ ?_, ?_⟩
    · rcases List.mem_append.mp hrow with hold | hnew
      · exact haccepted.token_ne row hold
      · rw [List.mem_singleton.mp hnew]
        exact htoken
    · rw [List.length_append]
      exact hroom.resolve_left hfound

end PushTokensTable

/-- A call that registers no token. -/
def PushCall.RegistersNothing : PushCall → Prop
  | .sql (.upsert _ _ _) => False
  | _ => True

/-- A call that registers nothing only takes rows away. -/
theorem PushFaulty.sublist {op : PushCall} {table after : PushTokensTable}
    {response : pushBackend.Response op} (hcall : PushFaulty op table response after)
    (hop : op.RegistersNothing) : after.rows.Sublist table.rows := by
  cases hcall with
  | now => exact List.Sublist.refl _
  | fail => exact List.Sublist.refl _
  | reply => exact List.Sublist.refl _
  | answer statement =>
    cases statement with
    | upsert => exact hop.elim
    | list => exact List.Sublist.refl _
    | delete token => exact List.filter_sublist
    | deleteMany tokens =>
      show (table.deleteMany tokens).rows.Sublist _
      rw [PushTokensTable.rows_deleteMany]
      exact List.filter_sublist

theorem PushCall.Prunes.registersNothing {op : PushCall} (hop : op.Prunes) :
    op.RegistersNothing := by
  rcases op with _ | statement | body
  · trivial
  · cases statement <;> trivial
  · trivial

theorem send_always (title body : String) :
    (send title body).Always PushCall.RegistersNothing := by
  rw [send_eq]
  refine ⟨trivial, fun response ↦ ?_⟩
  rcases response with error | stored
  · exact Program.always_ret _
  · show (if stored.isEmpty then _ else _ : Program pushBackend _).Always _
    split_ifs
    · exact Program.always_ret _
    · exact ⟨trivial, fun reply ↦
        (readReply_always reply).mono fun op hop ↦ hop.registersNothing⟩

/-- An execution that registers nothing keeps the tokens acceptable. -/
theorem PushTokensTable.Accepted.of_exec {α : Type} {program : Program pushBackend α}
    {table after : PushTokensTable} {outcome : Option α} (haccepted : table.Accepted)
    (hexec : Program.Exec PushFaulty program table outcome after)
    (halways : program.Always PushCall.RegistersNothing) : after.Accepted :=
  hexec.preserves PushTokensTable.Accepted
    (fun _ _ _ _ hop hcall hbefore ↦ hbefore.of_sublist (hcall.sublist hop)) halways haccepted

/-- An operation whose registration the relay would let stand keeps the tokens acceptable. -/
theorem TokenOperation.accepted_of_exec
    (completed : Completed TokenOperation TokenOperation.Outcome PushTokensTable)
    (hexec : Program.Exec PushFaulty completed.activity.program completed.before
      completed.outcome completed.after)
    (hregisters : RegistersAccepted completed) (hbefore : completed.before.Accepted) :
    completed.after.Accepted := by
  obtain ⟨before, operation, outcome, after⟩ := completed
  dsimp only at hexec hbefore ⊢
  cases operation with
  | unregister token =>
    exact hbefore.of_exec hexec (Program.Always.bind (Program.always_perform trivial)
      fun _ ↦ Program.always_ret _)
  | send title body => exact hbefore.of_exec hexec (send_always title body)
  | register payload =>
    obtain ⟨htoken, hroom⟩ := hregisters payload rfl
    obtain ⟨now, middle, hnow, hexec⟩ := Program.exec_call_iff.mp hexec
    obtain ⟨instant, _⟩ := hnow
    obtain ⟨response, last, hsql, hexec⟩ := Program.exec_call_iff.mp hexec
    cases hsql with
    | answer =>
      obtain ⟨-, hafter⟩ := Program.exec_ret_iff.mp hexec
      rw [hafter]
      exact hbefore.upsert htoken hroom payload.platform now
    | fail =>
      obtain ⟨-, hafter⟩ := Program.exec_ret_iff.mp hexec
      rw [hafter]
      exact hbefore

/-- One registered token does not silence the others, as long as no registration brings what the
relay rejects: in every run whose registrations carry a non-empty token, and find it stored or fewer
than `MAX_TOKENS` rows, every non-empty table is sent in requests that the relay accepts. -/
theorem sends_accepted_of_registrations
    {history : List (Completed TokenOperation TokenOperation.Outcome PushTokensTable)}
    {table : PushTokensTable} (hrun : TokenRun history table)
    (hregisters : ∀ completed ∈ history, RegistersAccepted completed) (hne : table.rows ≠ [])
    {title body : String} (hlimits : PushNotification.WithinLimits ⟨title, body⟩) :
    SendsAccepted table title body := by
  rw [sendsAccepted_iff hne hlimits]
  exact hrun.invariant PushTokensTable.Accepted RegistersAccepted
    ⟨fun row hrow ↦ absurd hrow List.not_mem_nil, Nat.zero_le _⟩
    TokenOperation.accepted_of_exec hregisters

/-- A run goes on with a registration whose statement succeeds. -/
theorem TokenRun.register
    {history : List (Completed TokenOperation TokenOperation.Outcome PushTokensTable)}
    {table : PushTokensTable} (hrun : TokenRun history table)
    (payload : RegisterPushTokenPayload) :
    TokenRun (⟨table, .register payload, some (.ok, "Push token registered"),
        table.upsert payload.token payload.platform .epoch⟩ :: history)
      (table.upsert payload.token payload.platform .epoch) :=
  hrun.extend (.call (.now .epoch table) (.call (.answer _ table) (.ret _ _)))

/-- The table after the registration of a token and of the empty one. -/
def withEmptyToken : PushTokensTable :=
  (PushTokensTable.empty.upsert "abc" .android .epoch).upsert "" .android .epoch

/-- After `abc` and the empty token are registered, what is posted is rejected. -/
theorem empty_token_silences :
    ¬ ∀ history table, TokenRun history table → table.rows ≠ [] →
      SendsAccepted table "OOTT" "A device is new" := by
  intro hall
  have hsends : SendsAccepted withEmptyToken "OOTT" "A device is new" :=
    hall _ _ ((TokenRun.register .start ⟨"abc", .android⟩).register ⟨"", .android⟩) (by decide)
  have haccepted := (sendsAccepted_iff (by decide) (by decide)).mp hsends
  exact haccepted.token_ne ⟨2, "", .android, .epoch, .epoch⟩ (by decide) rfl

/-- After the registration of one token, what is posted is accepted. -/
theorem sends_accepted_of_registrations_one :
    SendsAccepted (PushTokensTable.empty.upsert "abc" .android .epoch) "OOTT" "A device is new" :=
  sends_accepted_of_registrations
    (TokenRun.register .start ⟨"abc", .android⟩)
    (List.forall_mem_singleton.mpr fun payload hpayload ↦ by
      cases hpayload
      exact ⟨by decide, Or.inr (by decide)⟩)
    (by decide) (by decide)

end Oott
