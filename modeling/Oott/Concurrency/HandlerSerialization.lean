import Oott.Effects.Sequential
import Oott.Sightings.FieldOwnership

/-!
# Device requests served concurrently

Any number of requests to the device API, each the read of its handler followed by its write,
interleaved call by call. The check a handler makes on what it has read is not made again when it
writes. `ChecksStand` says of a write that it is made in a state where the check would still pass.
Under it every interleaving is equal to a serial run of the same requests
(`handlers_serializable`); without it two registrations of one device can both answer 201.
-/

set_option autoImplicit false
set_option relaxedAutoImplicit false

namespace Oott

open Effects

variable {ι : Type}

/-- The requests, all about to be served. -/
def servedTogether (requests : ι → DeviceRequest) (start : World) :
    Configuration backend ι (fun _ ↦ Reply) World :=
  ⟨start, fun i ↦ (requests i).handler⟩

/-- If the move is the write of a handler, the device is there and the handler would not refuse it
in the state the write is made in. -/
def ChecksStand (requests : ι → DeviceRequest)
    (move : Move backend ι (fun _ ↦ Reply) World) : Prop :=
  move.before.threads move.thread = (requests move.thread).writing →
    ∃ device, move.before.state.db.devices.select (requests move.thread).mac = some device ∧
      (requests move.thread).refusal device = none

/-! ### Serving one request -/

namespace DeviceRequest

variable {request : DeviceRequest} {db : Database} {mac : String}

/-- What a handler refuses of a device, it refuses with 409. -/
theorem conflict_of_refusal {device : Device} {reply : Reply}
    (hrefusal : request.refusal device = some reply) : reply.1 = .conflict := by
  cases request <;>
    simp only [refusal, WebServer.Devices.registerRefusal, WebServer.Devices.updateRefusal,
      WebServer.Devices.unregisterRefusal] at hrefusal <;> grind

/-- Serving a request changes nothing and answers neither 200 nor 201, or makes its write on a
device that is there and is not refused. -/
theorem serve_cases (request : DeviceRequest) (db : Database) :
    ((request.serve db).1.1 ≠ .ok ∧ (request.serve db).1.1 ≠ .created ∧
      (request.serve db).2 = db) ∨
    ∃ device, db.devices.select request.mac = some device ∧ request.refusal device = none ∧
      request.serve db = (request.done, request.write db) := by
  unfold serve
  cases hselect : db.devices.select request.mac with
  | none => exact Or.inl ⟨nofun, nofun, rfl⟩
  | some device =>
    cases hrefusal : request.refusal device with
    | none => exact Or.inr ⟨device, rfl, hrefusal, by simp only [hrefusal]⟩
    | some reply =>
      simp only [hrefusal]
      rw [conflict_of_refusal hrefusal]
      exact Or.inl ⟨nofun, nofun, trivial⟩

/-- The execution of a handler alone, with no failing call, is what `serve` says. -/
theorem exec_reliable {world after : World} {outcome : Option Reply}
    (hexec : Program.Exec Reliable request.handler world outcome after) :
    outcome = some (request.serve world.db).1 ∧
      after = world.withDb (request.serve world.db).2 := by
  rw [Program.exec_ofMachine_iff, run_handler, Prod.mk.injEq] at hexec
  exact ⟨hexec.1.symm, hexec.2.symm⟩

/-- The device under a MAC is registered, if there is one. -/
def RegisteredIfPresent (mac : String) (table : DevicesTable) : Prop :=
  ∀ row, table.select mac = some row → row.isRegistered = true

/-- No write but that of an `unregister` undoes a registration. -/
theorem write_registeredIfPresent
    (hnot : ∀ path, request = .unregister path → ¬ NocaseEq mac request.mac)
    (hbefore : RegisteredIfPresent mac db.devices) :
    RegisteredIfPresent mac (request.write db).devices := by
  have hupdate : ∀ (clause : SetClause) (target : String),
      (NocaseEq mac target → ∀ row, row.isRegistered = true →
        (clause.apply row).isRegistered = true) →
      RegisteredIfPresent mac (db.devices.update clause target) := by
    intro clause target hclause row hrow
    by_cases hsame : NocaseEq mac target
    · rw [DevicesTable.select_update_same clause hsame] at hrow
      obtain ⟨old, hold, hupdated⟩ := Option.map_eq_some_iff.mp hrow
      rw [← hupdated]
      exact hclause hsame old (hbefore old hold)
    · rw [DevicesTable.select_update_other clause hsame] at hrow
      exact hbefore row hrow
  cases request with
  | register payload => exact hupdate _ _ fun _ _ _ ↦ rfl
  | update path payload => exact hupdate _ _ fun _ _ hregistered ↦ hregistered
  | unregister path => exact hupdate _ _ fun hsame ↦ absurd hsame (hnot path rfl)
  | delete path =>
    intro row hrow
    change (db.devices.delete (normalizeMac path)).select mac = some row at hrow
    by_cases hsame : NocaseEq mac (normalizeMac path)
    · rw [DevicesTable.select_delete_same hsame] at hrow
      cases hrow
    · rw [DevicesTable.select_delete_other hsame] at hrow
      exact hbefore row hrow

/-- A request that answers 201 found the device unregistered and leaves it registered. -/
theorem serve_created (hcreated : (request.serve db).1.1 = .created)
    (hmac : NocaseEq mac request.mac) :
    ¬ RegisteredIfPresent mac db.devices ∧
      RegisteredIfPresent mac (request.serve db).2.devices := by
  rcases request.serve_cases db with ⟨-, hnot, -⟩ | ⟨device, hselect, hrefusal, hserve⟩
  · exact absurd hcreated hnot
  · rw [hserve] at hcreated ⊢
    have hfound : db.devices.select mac = some device := by
      rw [DevicesTable.select_congr hmac, hselect]
    cases request with
    | register payload =>
      constructor
      · intro hregistered
        simp [refusal, WebServer.Devices.registerRefusal, hregistered device hfound] at hrefusal
      · intro row hrow
        change (db.devices.update _ _).select mac = some row at hrow
        have hsame : NocaseEq mac (normalizeMac payload.macAddress) := hmac
        rw [DevicesTable.select_update_of_some _ hsame hfound] at hrow
        rw [← Option.some.inj hrow]
        rfl
    | update path payload => cases hcreated
    | unregister path => cases hcreated
    | delete path => cases hcreated

end DeviceRequest

/-! ### Serial runs of requests -/

section Serial

variable {requests : ι → DeviceRequest} {start last : World}
  {order : List (Completed ι (fun _ ↦ Reply) World)}

/-- The request of a serial run registers the device of a MAC and answers 201. -/
def Registers (requests : ι → DeviceRequest) (mac : String)
    (completed : Completed ι (fun _ ↦ Reply) World) : Prop :=
  NocaseEq mac (requests completed.activity).mac ∧
    ∃ reply, completed.outcome = some reply ∧ reply.1 = .created

/-- Without an `unregister`, a serial run registers a device at most once: from then on the device
is registered if it is there. -/
theorem registers_once {mac : String}
    (hnot : ∀ i path, requests i = .unregister path → ¬ NocaseEq mac (requests i).mac)
    (hrun : Sequential (fun i ↦ Program.Exec Reliable (requests i).handler) start order last) :
    ((∃ completed ∈ order, Registers requests mac completed) →
      DeviceRequest.RegisteredIfPresent mac last.db.devices) ∧
    order.Pairwise fun later earlier ↦
      ¬ (Registers requests mac later ∧ Registers requests mac earlier) := by
  induction hrun with
  | start => exact ⟨fun ⟨_, hmem, _⟩ ↦ absurd hmem List.not_mem_nil, List.Pairwise.nil⟩
  | @next history completed hearlier hperform ih =>
    obtain ⟨hregistered, hpairwise⟩ := ih
    obtain ⟨houtcome, hafter⟩ := DeviceRequest.exec_reliable hperform
    have hcreated : Registers requests mac completed →
        ¬ DeviceRequest.RegisteredIfPresent mac completed.before.db.devices ∧
          DeviceRequest.RegisteredIfPresent mac completed.after.db.devices := by
      intro ⟨hmac, reply, hreply, hstatus⟩
      rw [houtcome] at hreply
      rw [← Option.some.inj hreply] at hstatus
      rw [hafter]
      exact DeviceRequest.serve_created hstatus hmac
    constructor
    · intro ⟨found, hmem, hfound⟩
      rcases List.mem_cons.mp hmem with hlatest | hbefore
      · rw [hlatest] at hfound
        exact (hcreated hfound).2
      · have hstill := hregistered ⟨found, hbefore, hfound⟩
        rw [hafter]
        rcases (requests completed.activity).serve_cases completed.before.db with
          ⟨-, -, hsame⟩ | ⟨device, -, -, hserve⟩
        · rw [hsame]
          exact hstill
        · rw [hserve]
          exact DeviceRequest.write_registeredIfPresent (hnot completed.activity) hstill
    · refine List.pairwise_cons.mpr ⟨fun earlier hmem hboth ↦ ?_, hpairwise⟩
      exact (hcreated hboth.1).1 (hregistered ⟨earlier, hmem, hboth.2⟩)

/-- A serial run leaves no unregistered device with an owner, if there was none. -/
theorem unowned_of_serial
    (hstart : ∀ row ∈ start.db.devices.rows, row.isRegistered = false → row.owner = "")
    (hrun : Sequential (fun i ↦ Program.Exec Reliable (requests i).handler) start order last) :
    ∀ row ∈ last.db.devices.rows, row.isRegistered = false → row.owner = "" := by
  refine hrun.invariant
    (fun world ↦ ∀ row ∈ world.db.devices.rows, row.isRegistered = false → row.owner = "")
    (fun _ ↦ True) hstart ?_ fun _ _ ↦ trivial
  intro completed hperform _ hrows
  rw [(DeviceRequest.exec_reliable hperform).2]
  rcases (requests completed.activity).serve_cases completed.before.db with
    ⟨-, -, hsame⟩ | ⟨device, hselect, hrefusal, hserve⟩
  · rw [hsame]
    exact hrows
  · rw [hserve]
    exact DeviceRequest.write_unowned hrows hselect hrefusal

/-- A request that a serial run answers 200 or 201 found its device. -/
theorem present_of_serial {completed : Completed ι (fun _ ↦ Reply) World} {reply : Reply}
    (hrun : Sequential (fun i ↦ Program.Exec Reliable (requests i).handler) start order last)
    (hmem : completed ∈ order) (houtcome : completed.outcome = some reply)
    (hstatus : reply.1 = .ok ∨ reply.1 = .created) :
    ∃ device, completed.before.db.devices.select (requests completed.activity).mac =
      some device := by
  obtain ⟨-, -, hperform⟩ := hrun.reached hmem
  rw [(DeviceRequest.exec_reliable hperform).1] at houtcome
  rw [← Option.some.inj houtcome] at hstatus
  rcases (requests completed.activity).serve_cases completed.before.db with
    ⟨hok, hcreated, -⟩ | ⟨device, hselect, -, -⟩
  · exact (hstatus.elim hok hcreated).elim
  · exact ⟨device, hselect⟩

end Serial

/-! ### Interleavings of requests -/

section Interleaved

variable [DecidableEq ι] {requests : ι → DeviceRequest} {start : World}
  {last : Configuration backend ι (fun _ ↦ Reply) World}
  {trace : List (Move backend ι (fun _ ↦ Reply) World)}

/-- A step of a handler is a read that leads on to its write, or it is the atomic commit of the
whole request: an answer to the read, or the write while the check stands. -/
theorem handler_step_atomic {earlier : List (Move backend ι (fun _ ↦ Reply) World)}
    {move : Move backend ι (fun _ ↦ Reply) World}
    {after : Configuration backend ι (fun _ ↦ Reply) World}
    (hearlier : Interleaving Reliable (servedTogether requests start) earlier move.before)
    (hstep : Step Reliable move after) (hcheck : ChecksStand requests move) :
    Silent after move ∨ AtomicCommit Reliable (servedTogether requests start) after move := by
  have hstage : ∀ i, (requests i).Stage (move.before.threads i) :=
    hearlier.threads (fun i program ↦ (requests i).Stage program) (fun i ↦ Or.inl rfl)
      fun i op next response ↦ DeviceRequest.Stage.next response
  have hmover := hstage move.thread
  obtain ⟨next, hthread, ⟨hresponse, hstate⟩, hafter⟩ := hstep.exists_next
  obtain ⟨before, thread, op, response⟩ := move
  simp only at hthread hresponse hstate hafter hmover
  have hcommit : ∀ reply : Reply, after.threads thread = .ret reply →
      (requests thread).serve before.state.db = (reply, after.state.db) →
      after.state = before.state.withDb after.state.db →
      AtomicCommit Reliable (servedTogether requests start) after
        ⟨before, thread, op, response⟩ := by
    intro reply hended hserve hworld
    refine ⟨some reply, hended, Program.exec_ofMachine_iff.mpr ?_⟩
    change (requests thread).handler.run clocked before.state = (some reply, after.state)
    rw [DeviceRequest.run_handler, hserve, ← hworld]
  rw [hthread] at hmover
  rcases hmover with hhandler | hwriting | ⟨reply, hreply⟩
  · rw [DeviceRequest.handler_eq] at hhandler
    cases hhandler
    have hsame : after.state = before.state := hstate
    cases hselect : before.state.db.devices.select (requests thread).mac with
    | none =>
      have hnone : response = .ok none := hresponse.trans (congrArg Except.ok hselect)
      rw [hnone] at hafter
      refine Or.inr (hcommit _ hafter ?_ (by rw [hsame]; rfl))
      rw [hsame]
      simp only [DeviceRequest.serve, hselect]
    | some device =>
      have hsome : response = .ok (some device) := hresponse.trans (congrArg Except.ok hselect)
      rw [hsome] at hafter
      cases hrefusal : (requests thread).refusal device with
      | none =>
        refine Or.inl ⟨hsame, ?_⟩
        change (after.threads thread).nextCall ≠ none
        rw [hafter]
        simp [answerRead, hrefusal, DeviceRequest.writing]
      | some reply =>
        refine Or.inr (hcommit reply (by rw [hafter]; simp only [answerRead, hrefusal]) ?_
          (by rw [hsame]; rfl))
        rw [hsame]
        simp only [DeviceRequest.serve, hselect, hrefusal]
  · obtain ⟨device, hselect, hrefusal⟩ := hcheck (hthread.trans hwriting)
    cases hwriting
    obtain ⟨rows, hrows⟩ := (requests thread).execute_statement before.state.db
    have hok : response = .ok rows := hresponse.trans (congrArg Prod.fst hrows)
    have hwrite : after.state = before.state.withDb ((requests thread).write before.state.db) :=
      hstate
    rw [hok] at hafter
    refine Or.inr (hcommit (requests thread).done hafter ?_ (by rw [hwrite]; rfl))
    rw [hwrite]
    simp only at hselect hrefusal
    simp only [DeviceRequest.serve, hselect, hrefusal]
    rfl
  · cases hreply

/-- The device API is linearizable in every run whose writes are all made while their checks stand:
the requests that have been answered, in the order of their last calls, make up a serial run with
the same answers and the same tables. There, without an `unregister` of a device one registration of
it at most answers 201; an answer of 200 or 201 is given only for a device that was there; and no
device ends unregistered with an owner. -/
theorem handlers_serializable
    (hrun : Interleaving Reliable (servedTogether requests start) trace last)
    (hchecks : ∀ move ∈ trace, ChecksStand requests move) :
    ∃ order, Accounts Reliable (servedTogether requests start) order last ∧
      (∀ move ∈ trace, ∃ earlier, earlier <:+ order ∧
        Accounts Reliable (servedTogether requests start) earlier move.before) ∧
      (∀ mac, (∀ i path, requests i = .unregister path → ¬ NocaseEq mac (requests i).mac) →
        ∀ first ∈ order, ∀ second ∈ order, Registers requests mac first →
          Registers requests mac second → first.activity = second.activity) ∧
      (∀ completed ∈ order, ∀ reply, completed.outcome = some reply →
        reply.1 = .ok ∨ reply.1 = .created →
        ∃ device, completed.before.db.devices.select (requests completed.activity).mac =
          some device) ∧
      ((∀ row ∈ start.db.devices.rows, row.isRegistered = false → row.owner = "") →
        ∀ row ∈ last.state.db.devices.rows, row.isRegistered = false → row.owner = "") := by
  have hpending : ∀ i, ((servedTogether requests start).threads i).nextCall ≠ none := by
    intro i
    change (requests i).handler.nextCall ≠ none
    rw [DeviceRequest.handler_eq]
    exact Option.some_ne_none _
  obtain ⟨order, haccounts, hgrows⟩ := hrun.serializable (ChecksStand requests) hpending
    (fun earlier move after hearlier hstep hcheck ↦ handler_step_atomic hearlier hstep hcheck)
    hchecks
  refine ⟨order, haccounts, hgrows, ?_, ?_, ?_⟩
  · intro mac hnot first hfirst second hsecond hregisters hregistersToo
    by_contra hne
    have hsymm : Std.Symm fun later earlier ↦
        ¬ (Registers requests mac later ∧ Registers requests mac earlier) :=
      ⟨fun _ _ h h' ↦ h h'.symm⟩
    have hdistinct : first ≠ second := fun heq ↦ hne (congrArg Completed.activity heq)
    exact (registers_once hnot haccounts.serial).2.forall hfirst hsecond hdistinct
      ⟨hregisters, hregistersToo⟩
  · intro completed hmem reply houtcome hstatus
    exact present_of_serial haccounts.serial hmem houtcome hstatus
  · exact fun hstart ↦ unowned_of_serial hstart haccounts.serial

end Interleaved

/-! ### Two registrations of one device -/

/-- A device seen for the first time. -/
def newNas : Device := .new "aa:00:00:00:00:01" "10.0.0.1" "Acme" .epoch

/-- Two users register the device. -/
def bothRegister : Bool → DeviceRequest
  | true => .register ⟨"aa:00:00:00:00:01", "Ada", "Server", none⟩
  | false => .register ⟨"AA:00:00:00:00:01", "Eve", "Printer", none⟩

/-- The two requests, on a database that has the device. -/
def bothServed : Configuration backend Bool (fun _ ↦ Reply) World :=
  servedTogether bothRegister (.still ⟨.single newNas, []⟩ .epoch)

/-- Both read before either writes: both answer 201, which they do in no serial run. -/
theorem both_registrations_answer_created :
    ∃ trace last, Interleaving Reliable bothServed trace last ∧ last.Finished ∧
      (∀ i, last.threads i = .ret (.created, "Device registered")) ∧
      ¬ ∃ order final,
        Sequential (fun i ↦ Program.Exec Reliable (bothRegister i).handler) bothServed.state order
          final ∧
        ∀ i, ∃ completed ∈ order, completed.activity = i ∧
          completed.outcome = some (.created, "Device registered") := by
  have hended : ∀ i, ((bothServed.follow clocked [true, false, true, false]).2.threads i).outcome =
      some (some (.created, "Device registered")) := by decide
  have hthreads := fun i ↦ Program.outcome_eq_some_iff.mp (hended i)
  refine ⟨_, _,
    Interleaving.follow (Transition.allows_ofMachine clocked) _ [true, false, true, false],
    fun i ↦ (Program.nextCall_eq_none_iff _).mpr ⟨_, hthreads i⟩, hthreads, ?_⟩
  intro ⟨order, final, hserial, hanswers⟩
  obtain ⟨first, hfirst, hada, hfirstCreated⟩ := hanswers true
  obtain ⟨second, hsecond, heve, hsecondCreated⟩ := hanswers false
  have hregisters : ∀ completed : Completed Bool (fun _ ↦ Reply) World,
      completed.outcome = some (.created, "Device registered") →
      Registers bothRegister "aa:00:00:00:00:01" completed := by
    intro completed hcreated
    refine ⟨?_, _, hcreated, rfl⟩
    cases completed.activity <;> decide
  have hnot : ∀ i path, bothRegister i = .unregister path →
      ¬ NocaseEq "aa:00:00:00:00:01" (bothRegister i).mac := by
    intro i path hunregister
    cases i <;> cases hunregister
  have hsymm : Std.Symm fun later earlier ↦
      ¬ (Registers bothRegister "aa:00:00:00:00:01" later ∧
        Registers bothRegister "aa:00:00:00:00:01" earlier) := ⟨fun _ _ h h' ↦ h h'.symm⟩
  have hdistinct : first ≠ second := by
    intro heq
    rw [heq, heve] at hada
    cases hada
  exact (registers_once hnot hserial).2.forall hfirst hsecond hdistinct
    ⟨hregisters first hfirstCreated, hregisters second hsecondCreated⟩

/-- One after the other, the second is refused, and the run is a serial one. -/
theorem handlers_serializable_bothRegister :
    ∃ order, Accounts Reliable bothServed order
      (bothServed.follow clocked [true, true, false]).2 := by
  have hchecks : ∀ move ∈ (bothServed.follow clocked [true, true, false]).1,
      ChecksStand bothRegister move := by
    refine List.forall_mem_cons.mpr ⟨?_, List.forall_mem_cons.mpr ⟨?_,
      List.forall_mem_cons.mpr ⟨?_, List.forall_mem_nil _⟩⟩⟩
    · intro hwriting
      change (bothRegister false).handler = (bothRegister false).writing at hwriting
      rw [DeviceRequest.handler_eq] at hwriting
      cases hwriting
    · exact fun _ ↦ ⟨newNas, by decide, rfl⟩
    · exact fun _ ↦ ⟨newNas, by decide, rfl⟩
  have hrun := Interleaving.follow (Transition.allows_ofMachine clocked) bothServed
    [true, true, false]
  obtain ⟨order, haccounts, -⟩ := handlers_serializable hrun hchecks
  exact ⟨order, haccounts⟩

end Oott
