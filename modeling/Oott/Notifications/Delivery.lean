import Oott.Effects.Channel
import Oott.Effects.Runs
import Oott.Notifications.Persistence

/-!
# The delivery of the notifications

`notifications/delivery.rs`: the notifications that have been inserted wait in a bounded channel for
the delivery loop, which hands one after the other to `deliver`. All scanners, and with them all
calls of `notify`, run in the task of `main`, so that the calls of `notify` come one after the
other; between any two of their own calls the delivery loop, the shutdown and the other users of
the table may take any steps. A notification that is enqueued before the loop has started, after it
has stopped or while the channel is full is dropped.

What has been delivered and what waits in the channel are the notifications that the channel has
accepted, in order (`DeliveryInvariant`). So the delivered notifications are inserted ones, in
order and each at most once, and those that are missing have one of the reasons above or still
wait (`deliveries_are_persisted`).
-/

set_option autoImplicit false
set_option relaxedAutoImplicit false

namespace Oott

open Effects

/-- `DELIVERY_QUEUE_CAPACITY`. -/
def deliveryQueueCapacity : ℕ := 100

/-- The table, the channel once the delivery loop has started, whether the loop is in `deliver`,
whether a shutdown has been requested, what has been handed to `deliver`, and what is left of the
call of `notify` that `main` is in. -/
structure DeliveryState where
  table : StoredNotifications
  deliveryTx : Option (Channel DeliveryRequest deliveryQueueCapacity)
  delivering : Bool
  shutdown : Bool
  delivered : List DeliveryRequest
  main : Program notifier Unit

namespace DeliveryState

/-- The delivery loop has not started, and no call of `notify` has been made. -/
def initial (table : StoredNotifications) : DeliveryState :=
  ⟨table, none, false, false, [], .ret ()⟩

/-- `enqueue`. -/
def enqueue (state : DeliveryState) (request : DeliveryRequest) : DeliveryState :=
  match state.deliveryTx with
  | none => state
  | some channel =>
    match channel.trySend request with
    | .ok channel => { state with deliveryTx := some channel }
    | .error _ => state

/-- The requests that wait in the channel. -/
def queue (state : DeliveryState) : List DeliveryRequest :=
  match state.deliveryTx with
  | none => []
  | some channel => channel.queue

/-- The delivery loop takes a request that is enqueued now. -/
def accepts (state : DeliveryState) : Bool :=
  match state.deliveryTx with
  | none => false
  | some channel => channel.accepts

/-- The delivery loop has not started. -/
def NotStarted (state : DeliveryState) : Prop := state.deliveryTx = none

/-- The delivery loop has stopped. -/
def Stopped (state : DeliveryState) : Prop :=
  ∃ channel ∈ state.deliveryTx, channel.isClosed = true

/-- As many requests wait as the channel holds. -/
def Full (state : DeliveryState) : Prop := state.queue.length = deliveryQueueCapacity

end DeliveryState

/-- What can happen. -/
inductive DeliveryLabel
  | notify (changes : List DeviceChange)
  | now (instant : Instant)
  | inserted (notification : Notification)
  | insertFailed (error : DbError)
  | enqueued (request : DeliveryRequest)
  | tableChanged (table : StoredNotifications)
  | loopStarted
  | received
  | deliverReturned
  | loopStopped
  | shutdownRequested

/-- The steps of `main`, which makes calls of `notify`; those of others on the table; those of
`run_delivery`; and the shutdown. -/
inductive DeliveryStep (durationString : StdDuration → String) :
    DeliveryState → DeliveryLabel → DeliveryState → Prop
  | notify {state : DeliveryState} (changes : List DeviceChange) (hmain : state.main = .ret ()) :
      DeliveryStep durationString state (.notify changes)
        { state with main := Oott.notify durationString changes }
  | now {state : DeliveryState} {next : Instant → Program notifier Unit} (instant : Instant)
      (hmain : state.main = .call (E := notifier) .now next) :
      DeliveryStep durationString state (.now instant) { state with main := next instant }
  | inserted {state : DeliveryState} {notification : Notification}
      {next : Except DbError Int → Program notifier Unit}
      (hmain : state.main = .call (E := notifier) (.insert notification) next) :
      DeliveryStep durationString state (.inserted notification)
        { state with
          table := state.table.insert notification
          main := next (.ok state.table.nextId) }
  | insertFailed {state : DeliveryState} {notification : Notification}
      {next : Except DbError Int → Program notifier Unit} (error : DbError)
      (hmain : state.main = .call (E := notifier) (.insert notification) next) :
      DeliveryStep durationString state (.insertFailed error)
        { state with main := next (.error error) }
  | enqueued {state : DeliveryState} {request : DeliveryRequest}
      {next : Unit → Program notifier Unit}
      (hmain : state.main = .call (E := notifier) (.enqueue request) next) :
      DeliveryStep durationString state (.enqueued request)
        { state.enqueue request with main := next () }
  | tableChanged {state : DeliveryState} (table : StoredNotifications) :
      DeliveryStep durationString state (.tableChanged table) { state with table := table }
  | loopStarted {state : DeliveryState} (htx : state.deliveryTx = none) :
      DeliveryStep durationString state .loopStarted
        { state with deliveryTx := some (.new DeliveryRequest deliveryQueueCapacity) }
  | received {state : DeliveryState} {channel after : Channel DeliveryRequest deliveryQueueCapacity}
      {request : DeliveryRequest} (htx : state.deliveryTx = some channel)
      (hopen : channel.isClosed = false) (hidle : state.delivering = false)
      (hreceive : channel.receive = some (request, after)) :
      DeliveryStep durationString state .received
        { state with
          deliveryTx := some after
          delivering := true
          delivered := state.delivered ++ [request] }
  | deliverReturned {state : DeliveryState} (hdelivering : state.delivering = true) :
      DeliveryStep durationString state .deliverReturned { state with delivering := false }
  | loopStopped {state : DeliveryState} {channel : Channel DeliveryRequest deliveryQueueCapacity}
      (htx : state.deliveryTx = some channel) (hopen : channel.isClosed = false)
      (hidle : state.delivering = false) (hshutdown : state.shutdown = true) :
      DeliveryStep durationString state .loopStopped
        { state with deliveryTx := some channel.close }
  | shutdownRequested {state : DeliveryState} :
      DeliveryStep durationString state .shutdownRequested { state with shutdown := true }

/-! ### The history of a run -/

/-- A request with the state in which it was enqueued. -/
structure Enqueued where
  before : DeliveryState
  request : DeliveryRequest

/-- The requests that have been enqueued. -/
def enqueued (history : List (Taken DeliveryState DeliveryLabel)) : List Enqueued :=
  history.filterMap fun taken ↦
    match taken.label with
    | .enqueued request => some ⟨taken.before, request⟩
    | _ => none

/-- The notifications that have been inserted, by their titles and bodies. -/
def persisted (history : List (Taken DeliveryState DeliveryLabel)) : List DeliveryRequest :=
  history.filterMap fun taken ↦
    match taken.label with
    | .inserted notification => some ⟨notification.title, notification.body⟩
    | _ => none

/-! ### What `notify` hands over -/

/-- The program enqueues what it inserts, one after the other. It may start after an insertion, with
the enqueuing. -/
def HandsOver : Option DeliveryRequest → Program notifier Unit → Prop
  | none, .ret _ => True
  | none, .call .now next => ∀ instant, HandsOver none (next instant)
  | none, .call (.insert notification) next =>
    (∀ error, HandsOver none (next (.error error))) ∧
      ∀ id, HandsOver (some ⟨notification.title, notification.body⟩) (next (.ok id))
  | some request, .call (.enqueue request') next => request' = request ∧ HandsOver none (next ())
  | _, _ => False

theorem HandsOver.bind {pending : Option DeliveryRequest} {program : Program notifier Unit}
    {f : Unit → Program notifier Unit} (hprogram : HandsOver pending program)
    (hf : ∀ value, HandsOver none (f value)) : HandsOver pending (program >>= f) := by
  induction program generalizing pending with
  | ret value =>
    cases pending with
    | none => exact hf value
    | some request => exact hprogram.elim
  | abort => cases pending <;> exact hprogram.elim
  | call op next ih =>
    match pending, op, next with
    | none, .now, next => exact fun instant ↦ ih _ (hprogram instant)
    | none, .insert notification, next =>
      exact ⟨fun error ↦ ih _ (hprogram.1 error), fun id ↦ ih _ (hprogram.2 id)⟩
    | none, .enqueue _, _ => exact hprogram.elim
    | some request, .now, _ => exact hprogram.elim
    | some request, .insert _, _ => exact hprogram.elim
    | some request, .enqueue request', next => exact ⟨hprogram.1, ih _ hprogram.2⟩

/-- After an insertion, the enqueuing comes next. -/
theorem HandsOver.exists_next {request : DeliveryRequest} {program : Program notifier Unit}
    (hprogram : HandsOver (some request) program) :
    ∃ next, program = .call (E := notifier) (.enqueue request) next := by
  match program with
  | .call (.enqueue _) next =>
    obtain ⟨rfl, -⟩ := hprogram
    exact ⟨next, rfl⟩
  | .ret _ | .abort | .call .now _ | .call (.insert _) _ => exact hprogram.elim

theorem persistAndDeliver_handsOver (notice : Notice) : HandsOver none (persistAndDeliver notice) :=
  fun _ ↦ ⟨fun _ ↦ trivial, fun _ ↦ ⟨rfl, trivial⟩⟩

theorem notify_handsOver (durationString : StdDuration → String) (changes : List DeviceChange) :
    HandsOver none (notify durationString changes) := by
  unfold notify
  induction notices durationString changes with
  | nil => trivial
  | cons notice rest ih => exact (persistAndDeliver_handsOver notice).bind fun _ ↦ ih

/-! ### The invariant -/

section Invariant

variable {state : DeliveryState} {request : DeliveryRequest}
  {history : List (Taken DeliveryState DeliveryLabel)} {label : DeliveryLabel}

/-- The requests that the channel has accepted. -/
def accepted (history : List (Taken DeliveryState DeliveryLabel)) : List DeliveryRequest :=
  ((enqueued history).filter fun enqueued ↦ enqueued.before.accepts).map Enqueued.request

@[simp] theorem enqueue_delivered : (state.enqueue request).delivered = state.delivered := by
  unfold DeliveryState.enqueue
  split
  · rfl
  · split <;> rfl

/-- An enqueued request waits exactly if it is accepted. -/
theorem queue_enqueue (state : DeliveryState) (request : DeliveryRequest) :
    (state.enqueue request).queue = state.queue ++ if state.accepts then [request] else [] := by
  cases htx : state.deliveryTx with
  | none =>
    have haccepts : ¬ state.accepts = true := by
      unfold DeliveryState.accepts
      rw [htx]
      exact Bool.false_ne_true
    rw [if_neg haccepts, List.append_nil]
    unfold DeliveryState.enqueue
    rw [htx]
  | some channel =>
    have haccepts : state.accepts = channel.accepts := by
      unfold DeliveryState.accepts
      rw [htx]
    unfold DeliveryState.enqueue
    rw [htx]
    dsimp only
    cases hsend : channel.trySend request with
    | ok after =>
      obtain ⟨hchannel, hqueue⟩ := Channel.queue_of_trySend hsend
      rw [if_pos (haccepts.trans hchannel)]
      unfold DeliveryState.queue
      rw [htx]
      exact hqueue
    | error error =>
      have hchannel := Channel.accepts_of_trySend_error hsend
      rw [if_neg (by rw [haccepts, hchannel]; exact Bool.false_ne_true), List.append_nil]

/-- A request is not accepted before the loop has started, after it has stopped, and when as many
wait as the channel holds. -/
theorem refused_iff : state.accepts = false ↔ state.NotStarted ∨ state.Stopped ∨ state.Full := by
  unfold DeliveryState.accepts DeliveryState.NotStarted DeliveryState.Stopped DeliveryState.Full
    DeliveryState.queue
  cases state.deliveryTx with
  | none => simp
  | some channel => simp [Channel.accepts_eq_false_iff]

theorem persisted_append (taken : Taken DeliveryState DeliveryLabel) :
    persisted (history ++ [taken]) = persisted history ++ persisted [taken] :=
  List.filterMap_append

theorem enqueued_append (taken : Taken DeliveryState DeliveryLabel) :
    enqueued (history ++ [taken]) = enqueued history ++ enqueued [taken] :=
  List.filterMap_append

theorem accepted_append (taken : Taken DeliveryState DeliveryLabel) :
    accepted (history ++ [taken]) = accepted history ++ accepted [taken] := by
  unfold accepted
  rw [enqueued_append, List.filter_append, List.map_append]

theorem accepted_enqueued :
    accepted [⟨state, .enqueued request⟩] = if state.accepts then [request] else [] := by
  unfold accepted enqueued
  by_cases haccepts : state.accepts <;> simp [haccepts]

/-- What is known of every state that a run reaches. -/
structure DeliveryInvariant (history : List (Taken DeliveryState DeliveryLabel))
    (state : DeliveryState) : Prop where
  /-- What has been inserted has been enqueued, but for what `main` is about to enqueue. -/
  inserted : ∃ pending : Option DeliveryRequest, HandsOver pending state.main ∧
    persisted history = (enqueued history).map Enqueued.request ++ pending.toList
  /-- What has been accepted has been delivered or waits. -/
  moved : state.delivered ++ state.queue = accepted history

theorem DeliveryInvariant.initial (table : StoredNotifications) :
    DeliveryInvariant [] (.initial table) := ⟨⟨none, trivial, rfl⟩, rfl⟩

/-- A step that neither inserts nor enqueues keeps the invariant when it moves no request but from
the channel to `deliver`. -/
theorem DeliveryInvariant.silent {after : DeliveryState}
    (hinvariant : DeliveryInvariant history state)
    (hpersisted : persisted [⟨state, label⟩] = []) (henqueued : enqueued [⟨state, label⟩] = [])
    (hmain : ∀ pending, HandsOver pending state.main → HandsOver pending after.main)
    (hmoved : after.delivered ++ after.queue = state.delivered ++ state.queue) :
    DeliveryInvariant (history ++ [⟨state, label⟩]) after := by
  obtain ⟨⟨pending, hpending, hpersistedSoFar⟩, hacceptedSoFar⟩ := hinvariant
  refine ⟨⟨pending, hmain pending hpending, ?_⟩, ?_⟩
  · rw [persisted_append, enqueued_append, hpersisted, henqueued, List.append_nil, List.append_nil,
      hpersistedSoFar]
  · rw [accepted_append, accepted.eq_1 [_], henqueued, hmoved, hacceptedSoFar]
    exact (List.append_nil _).symm

/-- Every step keeps the invariant. -/
theorem DeliveryInvariant.step {durationString : StdDuration → String} {after : DeliveryState}
    (hinvariant : DeliveryInvariant history state)
    (hstep : DeliveryStep durationString state label after) :
    DeliveryInvariant (history ++ [⟨state, label⟩]) after := by
  cases hstep with
  | notify changes hmain =>
    refine hinvariant.silent rfl rfl (fun pending hpending ↦ ?_) rfl
    rw [hmain] at hpending
    cases pending with
    | none => exact notify_handsOver durationString changes
    | some request => exact hpending.elim
  | now instant hmain =>
    refine hinvariant.silent rfl rfl (fun pending hpending ↦ ?_) rfl
    rw [hmain] at hpending
    cases pending with
    | none => exact hpending instant
    | some request => exact hpending.elim
  | @inserted notification next hmain =>
    obtain ⟨⟨pending, hpending, hpersisted⟩, haccepted⟩ := hinvariant
    rw [hmain] at hpending
    cases pending with
    | some request => exact hpending.elim
    | none =>
      refine ⟨⟨some ⟨notification.title, notification.body⟩, hpending.2 _, ?_⟩, ?_⟩
      · have hnone : enqueued [⟨state, .inserted notification⟩] = [] := rfl
        rw [persisted_append, enqueued_append, hpersisted, hnone, Option.toList_none,
          List.append_nil, List.append_nil]
        rfl
      · rw [accepted_append]
        exact haccepted.trans (List.append_nil _).symm
  | insertFailed error hmain =>
    refine hinvariant.silent rfl rfl (fun pending hpending ↦ ?_) rfl
    rw [hmain] at hpending
    cases pending with
    | none => exact hpending.1 error
    | some request => exact hpending.elim
  | @enqueued request next hmain =>
    obtain ⟨⟨pending, hpending, hpersisted⟩, haccepted⟩ := hinvariant
    rw [hmain] at hpending
    cases pending with
    | none => exact hpending.elim
    | some waiting =>
      obtain ⟨rfl, hnext⟩ := hpending
      refine ⟨⟨none, hnext, ?_⟩, ?_⟩
      · rw [persisted_append, enqueued_append, hpersisted, List.map_append, Option.toList_none,
          List.append_nil]
        exact List.append_nil _
      · change (state.enqueue request).delivered ++ (state.enqueue request).queue = _
        rw [enqueue_delivered, queue_enqueue, ← List.append_assoc, haccepted, accepted_append,
          accepted_enqueued]
  | tableChanged table => exact hinvariant.silent rfl rfl (fun _ hpending ↦ hpending) rfl
  | loopStarted htx =>
    refine hinvariant.silent rfl rfl (fun _ hpending ↦ hpending) ?_
    unfold DeliveryState.queue
    rw [htx]
    rfl
  | received htx hopen hidle hreceive =>
    refine hinvariant.silent rfl rfl (fun _ hpending ↦ hpending) ?_
    unfold DeliveryState.queue
    rw [htx]
    dsimp only
    rw [Channel.queue_of_receive hreceive, List.append_assoc]
    rfl
  | deliverReturned hdelivering => exact hinvariant.silent rfl rfl (fun _ hpending ↦ hpending) rfl
  | loopStopped htx hopen hidle hshutdown =>
    refine hinvariant.silent rfl rfl (fun _ hpending ↦ hpending) ?_
    unfold DeliveryState.queue
    rw [htx]
    rfl
  | shutdownRequested => exact hinvariant.silent rfl rfl (fun _ hpending ↦ hpending) rfl

end Invariant

/-! ### What becomes of a notification -/

/-- What has become of an enqueued notification. -/
inductive Fate
  | delivered
  | queued
  | dropped
deriving DecidableEq

/-- Enqueued notifications of which the accepted ones have one fate. -/
def withFate (fate : Fate) (requests : List Enqueued) : List (Enqueued × Fate) :=
  requests.map fun enqueued ↦ (enqueued, if enqueued.before.accepts then fate else .dropped)

/-- The notifications with a given fate. -/
def ofFate (fate : Fate) (fates : List (Enqueued × Fate)) : List DeliveryRequest :=
  (fates.filter fun enqueued ↦ enqueued.2 = fate).map fun enqueued ↦ enqueued.1.request

theorem map_fst_withFate (fate : Fate) (requests : List Enqueued) :
    (withFate fate requests).map Prod.fst = requests := by
  unfold withFate
  rw [List.map_map]
  exact List.map_id _

theorem ofFate_withFate {fate : Fate} (hfate : fate ≠ .dropped) (requests : List Enqueued) :
    ofFate fate (withFate fate requests) =
      (requests.filter fun enqueued ↦ enqueued.before.accepts).map Enqueued.request := by
  have haccepts : ∀ enqueued : Enqueued,
      decide ((if enqueued.before.accepts then fate else .dropped) = fate) =
        enqueued.before.accepts := by
    intro enqueued
    cases enqueued.before.accepts
    · exact decide_eq_false hfate.symm
    · exact decide_eq_true rfl
  unfold ofFate withFate
  rw [List.filter_map, List.map_map]
  simp only [Function.comp_def, haccepts]

theorem ofFate_withFate_of_ne {fate other : Fate} (hother : other ≠ .dropped) (hne : fate ≠ other)
    (requests : List Enqueued) : ofFate other (withFate fate requests) = [] := by
  unfold ofFate withFate
  rw [List.map_eq_nil_iff, List.filter_eq_nil_iff]
  intro enqueued henqueued
  obtain ⟨enqueued, -, rfl⟩ := List.mem_map.mp henqueued
  simp only [decide_eq_true_eq]
  split_ifs
  · exact hne
  · exact hother.symm

theorem refused_of_dropped {fate : Fate} (hfate : fate ≠ .dropped) {requests : List Enqueued}
    {enqueued : Enqueued × Fate} (henqueued : enqueued ∈ withFate fate requests)
    (hdropped : enqueued.2 = .dropped) : enqueued.1.before.accepts = false := by
  obtain ⟨enqueued, -, rfl⟩ := List.mem_map.mp henqueued
  dsimp only at hdropped ⊢
  by_contra haccepts
  rw [if_pos (Bool.eq_true_of_not_eq_false haccepts)] at hdropped
  exact hfate hdropped

/-- The delivered notifications are inserted ones, in order and each at most once. Of the inserted
notifications all have been enqueued, but for one that `main` is about to enqueue; an enqueued one
has been delivered, or waits in the channel, where it stays if the loop has stopped, or was enqueued
before the loop had started, after it had stopped, or when `DELIVERY_QUEUE_CAPACITY` requests were
waiting. -/
theorem deliveries_are_persisted (durationString : StdDuration → String)
    (table : StoredNotifications) {history : List (Taken DeliveryState DeliveryLabel)}
    {last : DeliveryState}
    (hrun : Run (DeliveryStep durationString) (.initial table) history last) :
    last.delivered.Sublist (persisted history) ∧
      ∃ (fates : List (Enqueued × Fate)) (pending : List DeliveryRequest),
        fates.map Prod.fst = enqueued history ∧
        persisted history = fates.map (fun enqueued ↦ enqueued.1.request) ++ pending ∧
        ofFate .delivered fates = last.delivered ∧
        ofFate .queued fates = last.queue ∧
        (∀ enqueued ∈ fates, enqueued.2 = .dropped → enqueued.1.before.NotStarted ∨
          enqueued.1.before.Stopped ∨ enqueued.1.before.Full) ∧
        (pending = [] ∨ ∃ request next, pending = [request] ∧
          last.main = .call (E := notifier) (.enqueue request) next) := by
  obtain ⟨⟨pending, hpending, hpersisted⟩, hmoved⟩ :=
    hrun.invariant DeliveryInvariant (.initial table) fun _ _ _ _ hbefore hstep ↦
      hbefore.step hstep
  obtain ⟨first, second, hfilter, hdelivered, hqueue⟩ := List.map_eq_append_iff.mp hmoved.symm
  obtain ⟨settled, waiting, henqueued, rfl, rfl⟩ := List.filter_eq_append_iff.mp hfilter
  let fates := withFate .delivered settled ++ withFate .queued waiting
  have hfates : fates.map Prod.fst = enqueued history := by
    rw [List.map_append, map_fst_withFate, map_fst_withFate, henqueued]
  have hrequests : persisted history =
      fates.map (fun enqueued ↦ enqueued.1.request) ++ pending.toList := by
    rw [hpersisted, ← hfates, List.map_map]
    rfl
  have happend (fate : Fate) : ofFate fate fates =
      ofFate fate (withFate .delivered settled) ++ ofFate fate (withFate .queued waiting) := by
    unfold ofFate
    rw [List.filter_append, List.map_append]
  have hkept : Fate.delivered ≠ .dropped ∧ Fate.queued ≠ .dropped := by decide
  have hapart : Fate.queued ≠ .delivered := by decide
  have hfateDelivered : ofFate .delivered fates = last.delivered := by
    rw [happend, ofFate_withFate hkept.1, ofFate_withFate_of_ne hkept.1 hapart, List.append_nil,
      hdelivered]
  have hfateQueued : ofFate .queued fates = last.queue := by
    rw [happend, ofFate_withFate_of_ne hkept.2 hapart.symm, ofFate_withFate hkept.2,
      List.nil_append, hqueue]
  refine ⟨?_, fates, pending.toList, hfates, hrequests, hfateDelivered, hfateQueued,
    fun enqueued hmem hdropped ↦ refused_iff.mp ?_, ?_⟩
  · rw [← hfateDelivered, hrequests]
    exact (List.filter_sublist.map _).trans (List.sublist_append_left _ _)
  · rcases List.mem_append.mp hmem with hsettled | hwaiting
    · exact refused_of_dropped hkept.1 hsettled hdropped
    · exact refused_of_dropped hkept.2 hwaiting hdropped
  · cases pending with
    | none => exact .inl rfl
    | some request =>
      obtain ⟨next, hmain⟩ := hpending.exists_next
      exact .inr ⟨request, next, rfl, hmain⟩

/-- A new device is notified of once the loop has started, and the notification is delivered. -/
theorem deliveries_are_persisted_oneDevice : ∃ history last,
    Run (DeliveryStep fun _ ↦ "12d") (.initial ⟨[], List.nodup_nil⟩) history last ∧
      last.delivered.length = 1 ∧ last.delivered.Sublist (persisted history) := by
  have hstart : Run (DeliveryStep fun _ ↦ "12d") (.initial ⟨[], List.nodup_nil⟩) [] _ := .start
  have hnotify := (hstart.step (.loopStarted rfl)).step
    (.notify [.new (.new "aa:bb:cc:dd:ee:ff" "192.168.1.42" "Acme" .epoch)] rfl)
  have hinserted := (hnotify.step (.now .epoch rfl)).step (.inserted rfl)
  have hreceived := (hinserted.step (.enqueued rfl)).step (.received rfl rfl rfl rfl)
  exact ⟨_, _, hreceived, rfl, (deliveries_are_persisted _ _ hreceived).1⟩

end Oott
