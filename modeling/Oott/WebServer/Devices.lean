import Oott.Database.Calls

/-!
# The device API

The handlers of `web_server/devices.rs` that change a device. Each reads the device, refuses with a
status when the device is missing or in the wrong registration state, and otherwise makes one write,
on another connection. `checkThenWrite` is that shape; the handlers differ in what they refuse, what
they write and how they answer.
-/

set_option autoImplicit false
set_option relaxedAutoImplicit false

namespace Oott

open Effects

/-- The statuses the device handlers answer with. -/
inductive StatusCode
  | ok
  | created
  | notFound
  | conflict
  | internalServerError
deriving DecidableEq

/-- A status and the text of the body. -/
abbrev Reply := StatusCode × String

/-- `RegisterDevicePayload`. -/
structure RegisterDevicePayload where
  macAddress : String
  owner : String
  deviceType : String
  name : Option String

/-- `UpdateDevicePayload`. -/
structure UpdateDevicePayload where
  owner : String
  deviceType : String
  vendor : String
  name : Option String

/-- The answer to a write, by whether it succeeded. -/
def answerWrite {α : Type} (done failed : Reply) : Except DbError α → Reply
  | .ok _ => done
  | .error _ => failed

/-- The shape of the device handlers: read the device, refuse or write, and answer. -/
def checkThenWrite {α : Type} (macAddress : String) (refusal : Device → Option Reply)
    (write : Program backend (Except DbError α)) (done failed : Reply) :
    Program backend Reply := do
  match ← Db.Devices.read macAddress with
  | none => return (.notFound, "Device not found or could not be read")
  | some device =>
    match refusal device with
    | some reply => return reply
    | none => return answerWrite done failed (← write)

namespace WebServer.Devices

/-- What `register` refuses: a device that is registered. -/
def registerRefusal (device : Device) : Option Reply :=
  if device.isRegistered then some (.conflict, "Device already registered") else none

/-- `register`. -/
def register (payload : RegisterDevicePayload) : Program backend Reply :=
  checkThenWrite payload.macAddress registerRefusal
    (Db.Devices.register payload.macAddress payload.owner payload.deviceType payload.name)
    (.created, "Device registered")
    (.internalServerError, "Error registering device in the server, check your logs")

/-- What `update` refuses: a device that is not registered. -/
def updateRefusal (device : Device) : Option Reply :=
  if !device.isRegistered then
    some (.conflict, "Device is not registered, register it before modifying")
  else none

/-- `update`. -/
def update (macAddress : String) (payload : UpdateDevicePayload) : Program backend Reply :=
  checkThenWrite macAddress updateRefusal
    (Db.Devices.update macAddress payload.owner payload.deviceType payload.vendor payload.name)
    (.ok, "Device updated")
    (.internalServerError, "Error updating device in the server, check your logs")

/-- What `unregister` refuses: a device that is not registered. -/
def unregisterRefusal (device : Device) : Option Reply :=
  if !device.isRegistered then
    some (.conflict, "Device not registered, you cannot un-register it again")
  else none

/-- `unregister`. -/
def unregister (macAddress : String) : Program backend Reply :=
  checkThenWrite macAddress unregisterRefusal (Db.Devices.unregister macAddress)
    (.ok, "Device un-registered")
    (.internalServerError, "Error updating device in the server, check your logs")

/-- `delete`, which refuses no device that is there. -/
def delete (macAddress : String) : Program backend Reply :=
  checkThenWrite macAddress (fun _ ↦ none) (Db.Devices.delete macAddress)
    (.ok, "Device permanently deleted")
    (.internalServerError, "Error deleting device in the server, check your logs")

end WebServer.Devices

/-! ### The requests that change a device -/

/-- A request to one of the four handlers, with its path and payload. -/
inductive DeviceRequest
  | register (payload : RegisterDevicePayload)
  | update (macAddress : String) (payload : UpdateDevicePayload)
  | unregister (macAddress : String)
  | delete (macAddress : String)

namespace DeviceRequest

/-- The handler that serves the request. -/
def handler : DeviceRequest → Program backend Reply
  | register payload => WebServer.Devices.register payload
  | update macAddress payload => WebServer.Devices.update macAddress payload
  | unregister macAddress => WebServer.Devices.unregister macAddress
  | delete macAddress => WebServer.Devices.delete macAddress

/-- The MAC the handler reads and writes under. -/
def mac : DeviceRequest → String
  | register payload => normalizeMac payload.macAddress
  | update macAddress _ => normalizeMac macAddress
  | unregister macAddress => normalizeMac macAddress
  | delete macAddress => normalizeMac macAddress

/-- What the handler refuses of a device that is there. -/
def refusal : DeviceRequest → Device → Option Reply
  | register _ => WebServer.Devices.registerRefusal
  | update _ _ => WebServer.Devices.updateRefusal
  | unregister _ => WebServer.Devices.unregisterRefusal
  | delete _ => fun _ ↦ none

/-- The statement the handler writes with. -/
def statement : DeviceRequest → Statement
  | register payload =>
    .updateDevices (Db.Devices.registerClause payload.owner payload.deviceType payload.name)
      (normalizeMac payload.macAddress)
  | update macAddress payload =>
    .updateDevices (Db.Devices.updateClause payload.owner payload.deviceType payload.vendor
      payload.name) (normalizeMac macAddress)
  | unregister macAddress =>
    .updateDevices Db.Devices.unregisterClause (normalizeMac macAddress)
  | delete macAddress => .deleteDevice (normalizeMac macAddress)

/-- The answer of a request whose write succeeded. -/
def done : DeviceRequest → Reply
  | register _ => (.created, "Device registered")
  | update _ _ => (.ok, "Device updated")
  | unregister _ => (.ok, "Device un-registered")
  | delete _ => (.ok, "Device permanently deleted")

/-- The answer of a request whose write failed. -/
def failed : DeviceRequest → Reply
  | register _ => (.internalServerError, "Error registering device in the server, check your logs")
  | update _ _ => (.internalServerError, "Error updating device in the server, check your logs")
  | unregister _ => (.internalServerError, "Error updating device in the server, check your logs")
  | delete _ => (.internalServerError, "Error deleting device in the server, check your logs")

/-- A handler that has passed its check and is about to write. -/
def writing (request : DeviceRequest) : Program backend Reply :=
  .call (E := backend) (.sql request.statement) fun response ↦
    .ret (answerWrite request.done request.failed response)

end DeviceRequest

/-- What a handler does with the answer to its read. -/
def answerRead (refusal : Device → Option Reply) (writing : Program backend Reply) :
    Except DbError (Option Device) → Program backend Reply
  | .ok (some device) =>
    match refusal device with
    | some reply => .ret reply
    | none => writing
  | .ok none | .error _ => .ret (.notFound, "Device not found or could not be read")

/-- A handler is its read, and then an answer or its write. -/
theorem checkThenWrite_eq {α : Type} {macAddress : String} {refusal : Device → Option Reply}
    {write : Program backend (Except DbError α)} {done failed : Reply}
    {writing : Program backend Reply}
    (hwriting : (write >>= fun response ↦ .ret (answerWrite done failed response)) = writing) :
    checkThenWrite macAddress refusal write done failed =
      .call (E := backend) (.sql (.selectDevice (normalizeMac macAddress)))
        (answerRead refusal writing) := by
  subst hwriting
  refine congrArg (Program.call (E := backend) _) (funext fun response ↦ ?_)
  rcases response with error | found | device <;> rfl

/-- Answering a write does not look at the number of rows it matched. -/
theorem writeClause_answerWrite (clause : SetClause) (macAddress : String) (done failed : Reply) :
    (Db.Devices.writeClause clause macAddress >>= fun response ↦
        .ret (answerWrite done failed response)) =
      .call (E := backend) (.sql (.updateDevices clause (normalizeMac macAddress))) fun response ↦
        .ret (answerWrite done failed response) := by
  refine congrArg (Program.call (E := backend) _) (funext fun response ↦ ?_)
  cases response <;> rfl

namespace DeviceRequest

theorem handler_eq (request : DeviceRequest) :
    request.handler = .call (E := backend) (.sql (.selectDevice request.mac))
      (answerRead request.refusal request.writing) := by
  cases request with
  | register payload => exact checkThenWrite_eq (writeClause_answerWrite _ _ _ _)
  | update macAddress payload => exact checkThenWrite_eq (writeClause_answerWrite _ _ _ _)
  | unregister macAddress => exact checkThenWrite_eq (writeClause_answerWrite _ _ _ _)
  | delete macAddress =>
    change WebServer.Devices.delete macAddress = _
    unfold WebServer.Devices.delete
    exact checkThenWrite_eq rfl

/-- The tables after the write of a request, whether or not it should have been made. -/
def write (request : DeviceRequest) (db : Database) : Database := (request.statement.execute db).2

/-- The statement of a request does not fail of itself. -/
theorem execute_statement (request : DeviceRequest) (db : Database) :
    ∃ rows, request.statement.execute db = (.ok rows, request.write db) := by
  cases request <;> exact ⟨_, rfl⟩

/-- What a request answers, and the tables it leaves, when it is served alone and no call fails. -/
def serve (request : DeviceRequest) (db : Database) : Reply × Database :=
  match db.devices.select request.mac with
  | none => ((.notFound, "Device not found or could not be read"), db)
  | some device =>
    match request.refusal device with
    | some reply => (reply, db)
    | none => (request.done, request.write db)

/-- A request served alone, with no failing call, does what `serve` says. -/
theorem run_handler (request : DeviceRequest) (world : World) :
    request.handler.run clocked world =
      (some (request.serve world.db).1, world.withDb (request.serve world.db).2) := by
  rw [handler_eq, Program.run_call]
  change (answerRead request.refusal request.writing
    (.ok (world.db.devices.select request.mac))).run clocked world = _
  unfold serve
  cases hselect : world.db.devices.select request.mac with
  | none => rfl
  | some device =>
    cases hrefusal : request.refusal device with
    | some reply =>
      simp only [answerRead, hrefusal]
      rfl
    | none =>
      obtain ⟨rows, hrows⟩ := request.execute_statement world.db
      simp [answerRead, hrefusal, writing, clocked, hrows, answerWrite]

/-- The programs a thread that serves a request can have left to run. -/
def Stage (request : DeviceRequest) (program : Program backend Reply) : Prop :=
  program = request.handler ∨ program = request.writing ∨ ∃ reply, program = .ret reply

theorem Stage.next {request : DeviceRequest} {op : Call}
    {next : backend.Response op → Program backend Reply} (response : backend.Response op)
    (hstage : request.Stage (.call (E := backend) op next)) : request.Stage (next response) := by
  rcases hstage with hhandler | hwriting | ⟨reply, hreply⟩
  · rw [handler_eq] at hhandler
    cases hhandler
    rcases response with error | found | device
    · exact Or.inr (Or.inr ⟨_, rfl⟩)
    · exact Or.inr (Or.inr ⟨_, rfl⟩)
    · cases hrefusal : request.refusal device with
      | some reply => exact Or.inr (Or.inr ⟨reply, by simp only [answerRead, hrefusal]⟩)
      | none => exact Or.inr (Or.inl (by simp only [answerRead, hrefusal]))
  · cases hwriting
    exact Or.inr (Or.inr ⟨_, rfl⟩)
  · cases hreply

/-- Whatever fails, a request leaves everything as it is or makes its write, and then only on a
device that is there and that it does not refuse. -/
theorem exec_handler {request : DeviceRequest} {world after : World} {outcome : Option Reply}
    (hexec : Program.Exec Faulty request.handler world outcome after) :
    after = world ∨ ∃ device, world.db.devices.select request.mac = some device ∧
      request.refusal device = none ∧ outcome = some request.done ∧
      after = world.withDb (request.write world.db) := by
  rw [handler_eq] at hexec
  obtain ⟨response, middle, hcall, hrest⟩ := Program.exec_call_iff.mp hexec
  cases hcall with
  | fail statement error => exact Or.inl (Program.exec_ret_iff.mp hrest).2
  | answer =>
    change Program.Exec Faulty (answerRead request.refusal request.writing
      (.ok (world.db.devices.select request.mac))) world outcome after at hrest
    cases hselect : world.db.devices.select request.mac with
    | none =>
      rw [hselect] at hrest
      exact Or.inl (Program.exec_ret_iff.mp hrest).2
    | some device =>
      rw [hselect] at hrest
      unfold answerRead at hrest
      cases hrefusal : request.refusal device with
      | some reply =>
        simp only [hrefusal] at hrest
        exact Or.inl (Program.exec_ret_iff.mp hrest).2
      | none =>
        simp only [hrefusal] at hrest
        obtain ⟨written, last, hwrite, hret⟩ := Program.exec_call_iff.mp hrest
        obtain ⟨houtcome, hafter⟩ := Program.exec_ret_iff.mp hret
        cases hwrite with
        | fail statement error => exact Or.inl hafter
        | answer =>
          obtain ⟨rows, hrows⟩ := request.execute_statement world.db
          refine Or.inr ⟨device, rfl, hrefusal, ?_, hafter⟩
          rw [houtcome]
          simp [clocked, hrows, answerWrite]

end DeviceRequest

end Oott
