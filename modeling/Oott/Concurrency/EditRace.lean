import Oott.Effects.Interleaving
import Oott.Sightings.FieldOwnership
import Oott.Sightings.Reconciliation

/-!
# An edit racing a sighting

One request to `update` and one sighting of the same device, interleaved call by call, with database
calls that may fail. The sighting writes back the name and the vendor it read, or falls back on, so
an edit written between its read and its `UPDATE` can be overwritten: `Clobbers` says when the two
columns differ, and `edit_kept_iff` says that this is the only way an edit is lost.

A run is followed through its *situations*: how far each of the two has come, what the row holds,
and which of the three decisive moves have been made.
-/

set_option autoImplicit false
set_option relaxedAutoImplicit false

namespace Oott

open Effects

/-- The two threads of the race. -/
inductive EditThread
  | request
  | sighting
deriving DecidableEq

/-- What each of the two returns. -/
abbrev EditThread.Outcome : EditThread → Type
  | request => Reply
  | sighting => List DeviceChange

/-- A request to edit a device and a sighting, both about to start. -/
def editRace (settings : Settings) (macAddress : String) (payload : UpdateDevicePayload)
    (device : Device) (scanner : DeviceEventScanner) (world : World) :
    Configuration backend EditThread EditThread.Outcome World where
  state := world
  threads
    | .request => WebServer.Devices.update macAddress payload
    | .sighting => recordSighting settings device scanner

/-- What a request that answers 200 promises of the row, given what the sighting deduced. -/
structure EditKept (payload : UpdateDevicePayload) (device row : Device) : Prop where
  owner : row.owner = payload.owner
  name : ∀ name, payload.name = some name → row.name = some name
  deviceType : payload.deviceType ≠ "" → row.deviceType = payload.deviceType
  vendor : payload.vendor ≠ "" → device.vendor = "" → row.vendor = payload.vendor

/-- The sighting writes back a name or a vendor that is not the edited one: the name that was stored
before, or its own where none was, or the vendor that was stored before. -/
def Clobbers (payload : UpdateDevicePayload) (device before : Device) : Prop :=
  (∃ name written, payload.name = some name ∧ before.name.or device.name = some written ∧
    written ≠ name) ∨
  payload.vendor ≠ "" ∧ device.vendor = "" ∧ before.vendor ≠ "" ∧ before.vendor ≠ payload.vendor

/-- A read of a device that was answered. -/
def Call.ReadsDevice : (call : Call) → backend.Response call → Prop
  | .sql (.selectDevice _), .ok _ => True
  | _, _ => False

/-- An `UPDATE` of a device that was made. -/
def Call.UpdatesDevice : (call : Call) → backend.Response call → Prop
  | .sql (.updateDevices _ _), .ok _ => True
  | _, _ => False

section Race

variable (settings : Settings) (macAddress : String) (payload : UpdateDevicePayload)
  (device : Device) (scanner : DeviceEventScanner)

/-- The sighting reads the device. -/
def SightingReads (move : Move backend EditThread EditThread.Outcome World) : Prop :=
  move.thread = .sighting ∧ move.op.ReadsDevice move.response

/-- The request writes the edit. -/
def RequestWrites (move : Move backend EditThread EditThread.Outcome World) : Prop :=
  move.thread = .request ∧ move.op.UpdatesDevice move.response

/-- The sighting writes what it has seen. -/
def SightingWrites (move : Move backend EditThread EditThread.Outcome World) : Prop :=
  move.thread = .sighting ∧ move.op.UpdatesDevice move.response

/-! ### How far the request has come -/

/-- The row after the edit. -/
def afterEdit (row : Device) : Device :=
  (Db.Devices.updateClause payload.owner payload.deviceType payload.vendor payload.name).apply row

/-- The request has not written, and will not answer 200 unless it does. -/
def Unwritten (program : Program backend Reply) : Prop :=
  program = (DeviceRequest.update macAddress payload).handler ∨
    program = (DeviceRequest.update macAddress payload).writing ∨
    ∃ reply : Reply, program = .ret reply ∧ reply.1 ≠ .ok

/-- The request has written and answered 200. -/
def Written (program : Program backend Reply) : Prop :=
  program = .ret (DeviceRequest.update macAddress payload).done

variable {settings macAddress payload device scanner} {world after : World} {op : Call}
  {response : backend.Response op}

/-- A step of the request: it leaves the devices alone and is still unwritten, or it writes. -/
theorem Unwritten.step {next : backend.Response op → Program backend Reply}
    (hunwritten : Unwritten macAddress payload (.call (E := backend) op next))
    (hcall : Faulty op world response after) :
    (Unwritten macAddress payload (next response) ∧ ¬ op.UpdatesDevice response ∧
      after.db.devices = world.db.devices) ∨
    Written macAddress payload (next response) ∧ op.UpdatesDevice response ∧
      after.db.devices = world.db.devices.update (Db.Devices.updateClause payload.owner
        payload.deviceType payload.vendor payload.name) (normalizeMac macAddress) := by
  rcases hunwritten with hhandler | hwriting | ⟨reply, hreply, -⟩
  · rw [DeviceRequest.handler_eq] at hhandler
    cases hhandler
    have hdevices : after.db.devices = world.db.devices := by cases hcall <;> rfl
    refine Or.inl ⟨?_, by cases response <;> exact id, hdevices⟩
    rcases response with error | found | stored
    · exact Or.inr (Or.inr ⟨_, rfl, by decide⟩)
    · exact Or.inr (Or.inr ⟨_, rfl, by decide⟩)
    · by_cases hregistered : stored.isRegistered = true
      · refine Or.inr (Or.inl ?_)
        simp [answerRead, DeviceRequest.refusal, WebServer.Devices.updateRefusal, hregistered]
      · refine Or.inr (Or.inr
          ⟨(.conflict, "Device is not registered, register it before modifying"), ?_, by decide⟩)
        simp [answerRead, DeviceRequest.refusal, WebServer.Devices.updateRefusal, hregistered]
  · cases hwriting
    cases hcall with
    | fail statement error =>
      have hfailed : (DeviceRequest.update macAddress payload).failed.1 ≠ .ok := by
        intro hok
        cases hok
      exact Or.inl ⟨Or.inr (Or.inr ⟨_, rfl, hfailed⟩), id, rfl⟩
    | answer => exact Or.inr ⟨rfl, trivial, rfl⟩
  · cases hreply

/-! ### How far the sighting has come -/

/-- The sighting holds a record it has read and has yet to write back. -/
def Holds (settings : Settings) (device : Device) (scanner : DeviceEventScanner)
    (recorded : Device) (program : Program backend (List DeviceChange)) : Prop :=
  program = recordKnownSighting settings recorded device scanner ∨
    ∃ instant, program = writingSeen settings recorded device scanner instant

/-- The sighting has done what it does to the device. -/
def Quiet (device : Device) (program : Program backend (List DeviceChange)) : Prop :=
  program.Always (Call.RecordsEventsOf (normalizeMac device.macAddress))

/-- The first step of a sighting reads the device, or fails to. -/
theorem recordSighting_step {next : backend.Response op → Program backend (List DeviceChange)}
    (hprogram : recordSighting settings device scanner = .call (E := backend) op next)
    (hcall : Faulty op world response after) {row : Device}
    (hrow : world.db.devices.select (normalizeMac device.macAddress) = some row) :
    after.db.devices = world.db.devices ∧ ¬ op.UpdatesDevice response ∧
      (next response = recordNewSighting settings device scanner ∨
        op.ReadsDevice response ∧ Holds settings device scanner row (next response)) := by
  rw [recordSighting_eq] at hprogram
  cases hprogram
  cases hcall with
  | fail statement error => exact ⟨rfl, id, Or.inl rfl⟩
  | answer =>
    refine ⟨rfl, id, Or.inr ⟨trivial, Or.inl ?_⟩⟩
    change answerSightingRead settings device scanner
      (.ok (world.db.devices.select (normalizeMac device.macAddress))) = _
    rw [hrow]
    rfl

/-- A step of a sighting that holds a record: it reads the clock, fails to write, or writes. -/
theorem Holds.step {recorded : Device}
    {next : backend.Response op → Program backend (List DeviceChange)}
    (hholds : Holds settings device scanner recorded (.call (E := backend) op next))
    (hcall : Faulty op world response after) :
    (after.db.devices = world.db.devices ∧ ¬ op.UpdatesDevice response ∧
      (Holds settings device scanner recorded (next response) ∨ Quiet device (next response))) ∨
    op.UpdatesDevice response ∧ Quiet device (next response) ∧ ∃ instant, after.db.devices =
      world.db.devices.update (sightingClause recorded device instant)
        (normalizeMac device.macAddress) := by
  rcases hholds with hknown | ⟨instant, hwriting⟩
  · rw [recordKnownSighting_eq] at hknown
    cases hknown
    cases hcall
    exact Or.inl ⟨rfl, id, Or.inl (Or.inr ⟨_, rfl⟩)⟩
  · cases hwriting
    have hquiet := answerSeen_always settings recorded device scanner response
    cases hcall with
    | fail statement error => exact Or.inl ⟨rfl, id, Or.inr hquiet⟩
    | answer => exact Or.inr ⟨trivial, hquiet, instant, rfl⟩

/-- A sighting that takes a stored device for a new one fails to insert it. -/
theorem recordNewSighting_step
    {next : backend.Response op → Program backend (List DeviceChange)}
    (hprogram : recordNewSighting settings device scanner = .call (E := backend) op next)
    (hcall : Faulty op world response after) {row : Device}
    (hrow : world.db.devices.select (normalizeMac device.macAddress) = some row) :
    after.db.devices = world.db.devices ∧ ¬ op.UpdatesDevice response ∧
      Quiet device (next response) := by
  rw [recordNewSighting_eq] at hprogram
  cases hprogram
  have hquiet := answerInsert_always settings device scanner response
  cases hcall with
  | fail statement error => exact ⟨rfl, id, hquiet⟩
  | answer =>
    have htaken : world.db.devices.insert
        { device with macAddress := normalizeMac device.macAddress } = none := by
      refine DevicesTable.insert_eq_none_iff.mpr ?_
      change world.db.devices.select (normalizeMac device.macAddress) ≠ none
      rw [hrow]
      exact Option.some_ne_none row
    refine ⟨?_, id, hquiet⟩
    simp [clocked, Statement.execute, htaken, World.withDb]

/-- A step of a sighting that only records events. -/
theorem Quiet.step {next : backend.Response op → Program backend (List DeviceChange)}
    (hquiet : Quiet device (.call (E := backend) op next))
    (hcall : Faulty op world response after) :
    after.db.devices = world.db.devices ∧ ¬ op.UpdatesDevice response ∧
      Quiet device (next response) := by
  obtain ⟨hrecords, hrest⟩ := hquiet
  refine ⟨Faulty.devices_eq hrecords hcall, ?_, hrest response⟩
  intro hupdates
  cases op with
  | now => exact hupdates
  | sql statement =>
    cases statement with
    | updateDevices clause mac => exact hrecords
    | _ => exact hupdates

/-! ### What the row holds -/

section Row

variable (payload device) (before : Device) (instant : Instant)

/-- The edit keeps its own promise. -/
theorem editKept_edited : EditKept payload device (afterEdit payload before) where
  owner := rfl
  name := fun _ hname ↦ hname
  deviceType := fun _ ↦ rfl
  vendor := fun _ _ ↦ rfl

/-- A sighting that read the row after the edit keeps it. -/
theorem editKept_sighting_edited :
    EditKept payload device
      ((sightingClause (afterEdit payload before) device instant).apply
        (afterEdit payload before)) where
  owner := rfl
  name := by
    intro name hname
    have hedited : (afterEdit payload before).name = some name := hname
    rw [sightingClause_apply_name, hedited]
    rfl
  deviceType := by
    intro htype
    exact (sightingClause_keeps (afterEdit payload before) device instant).deviceType htype
  vendor := by
    intro _ hdeduced
    rw [sightingClause_apply_vendor, reconcile_vendor_of_eq hdeduced, ite_id]
    rfl

/-- A sighting that read the row before the edit and writes after it keeps the edit unless it
clobbers the name or the vendor. -/
theorem editKept_sighting_iff :
    EditKept payload device
        ((sightingClause before device instant).apply (afterEdit payload before)) ↔
      ¬ Clobbers payload device before := by
  constructor
  · intro hkept hclobbers
    rcases hclobbers with ⟨name, written, hname, hwritten, hne⟩ | ⟨hedit, hdeduced, hstored, hne⟩
    · have hrow := hkept.name name hname
      rw [sightingClause_apply_name, hwritten, Option.some_or] at hrow
      exact hne (Option.some.inj hrow)
    · have hrow := hkept.vendor hedit hdeduced
      rw [sightingClause_apply_vendor, reconcile_vendor_of_eq hdeduced, if_neg hstored] at hrow
      exact hne hrow
  · intro hclobbers
    refine ⟨rfl, fun name hname ↦ ?_, fun htype ↦ ?_, fun hedit hdeduced ↦ ?_⟩
    · rw [sightingClause_apply_name]
      cases hwritten : before.name.or device.name with
      | none => exact hname
      | some written =>
        rw [Option.some_or]
        by_contra hne
        exact hclobbers (Or.inl ⟨name, written, hname, hwritten, fun h ↦ hne (congrArg some h)⟩)
    · have hedited : (afterEdit payload before).deviceType ≠ "" := htype
      rw [sightingClause_apply_deviceType, if_pos (Or.inr hedited)]
      rfl
    · rw [sightingClause_apply_vendor, reconcile_vendor_of_eq hdeduced]
      split_ifs with hstored
      · rfl
      · by_contra hne
        exact hclobbers (Or.inr ⟨hedit, hdeduced, hstored, hne⟩)

end Row

/-! ### The situations of a run -/

/-- Where a run can be, with the row `before` at its start: the moves made, what the request and the
sighting still have to run, and the row as it is. -/
inductive Situation (settings : Settings) (macAddress : String) (payload : UpdateDevicePayload)
    (device : Device) (scanner : DeviceEventScanner) (before : Device)
    (trace : List (Move backend EditThread EditThread.Outcome World))
    (request : Program backend Reply) (sighting : Program backend (List DeviceChange)) :
    Device → Prop
  /-- Neither has written. -/
  | pending (hrequest : Unwritten macAddress payload request)
      (hsighting : sighting = recordSighting settings device scanner ∧
          ¬ InOrder [SightingReads] trace ∨
        sighting = recordNewSighting settings device scanner ∨
        Holds settings device scanner before sighting ∧ InOrder [SightingReads] trace)
      (horder : ¬ InOrder [RequestWrites, SightingReads] trace) :
      Situation settings macAddress payload device scanner before trace request sighting before
  /-- The sighting is done with the device and the request has not written. -/
  | seen {row : Device} (hrequest : Unwritten macAddress payload request)
      (hsighting : Quiet device sighting)
      (horder : ¬ InOrder [RequestWrites, SightingReads] trace) :
      Situation settings macAddress payload device scanner before trace request sighting row
  /-- The request has written, and the sighting has not read before that. -/
  | edited (hrequest : Written macAddress payload request)
      (hsighting : (sighting = recordSighting settings device scanner ∨
          Holds settings device scanner (afterEdit payload before) sighting) ∧
          ¬ InOrder [RequestWrites, SightingReads] trace ∨
        sighting = recordNewSighting settings device scanner ∧
          ¬ InOrder [SightingWrites, RequestWrites, SightingReads] trace) :
      Situation settings macAddress payload device scanner before trace request sighting
        (afterEdit payload before)
  /-- The request has written since the sighting read. -/
  | stale (hrequest : Written macAddress payload request)
      (hsighting : Holds settings device scanner before sighting)
      (hread : InOrder [RequestWrites, SightingReads] trace)
      (horder : ¬ InOrder [SightingWrites, RequestWrites, SightingReads] trace) :
      Situation settings macAddress payload device scanner before trace request sighting
        (afterEdit payload before)
  /-- Both are done with the device, and the edit was not written over. -/
  | kept {row : Device} (hrequest : Written macAddress payload request)
      (hsighting : Quiet device sighting)
      (horder : ¬ InOrder [SightingWrites, RequestWrites, SightingReads] trace)
      (hkept : EditKept payload device row) :
      Situation settings macAddress payload device scanner before trace request sighting row
  /-- Both are done with the device, and the edit was written over. -/
  | overwritten (hrequest : Written macAddress payload request) (hsighting : Quiet device sighting)
      (horder : InOrder [SightingWrites, RequestWrites, SightingReads] trace) (instant : Instant) :
      Situation settings macAddress payload device scanner before trace request sighting
        ((sightingClause before device instant).apply (afterEdit payload before))

section Steps

variable {before row : Device}
  {trace : List (Move backend EditThread EditThread.Outcome World)}
  {configuration : Configuration backend EditThread EditThread.Outcome World}
  {request : Program backend Reply} {sighting : Program backend (List DeviceChange)}

/-- A request that has written makes no more steps. -/
theorem Written.nextCall (hwritten : Written macAddress payload request) :
    request.nextCall = none := by
  rw [hwritten]
  rfl

/-- A step of the request leads from a situation to a situation. -/
theorem Situation.request_step {next : backend.Response op → Program backend Reply}
    (hmac : NocaseEq device.macAddress macAddress)
    (hsituation : Situation settings macAddress payload device scanner before trace
      (.call (E := backend) op next) sighting row)
    (hcall : Faulty op world response after)
    (hrow : world.db.devices.select (normalizeMac device.macAddress) = some row) :
    ∃ row, after.db.devices.select (normalizeMac device.macAddress) = some row ∧
      Situation settings macAddress payload device scanner before
        (⟨configuration, .request, op, response⟩ :: trace) (next response) sighting row := by
  have hreads : ¬ SightingReads ⟨configuration, .request, op, response⟩ := fun h ↦ nomatch h.1
  have hwrites : ¬ SightingWrites ⟨configuration, .request, op, response⟩ := fun h ↦ nomatch h.1
  have hedited := DevicesTable.select_update_of_some (Db.Devices.updateClause payload.owner
    payload.deviceType payload.vendor payload.name) (normalizeMac_congr hmac) hrow
  cases hsituation with
  | pending hrequest hsighting horder =>
    rcases hrequest.step hcall with ⟨hnext, hupdates, hdevices⟩ | ⟨hnext, hupdates, hdevices⟩
    · refine ⟨before, by rw [hdevices, hrow], .pending hnext ?_ ?_⟩
      · rw [inOrder_cons_of_not hreads]
        exact hsighting
      · rwa [inOrder_cons_of_not fun h ↦ hupdates h.2]
    · refine ⟨afterEdit payload before, by rw [hdevices, hedited]; rfl, ?_⟩
      have hlatest : ¬ InOrder [SightingWrites, RequestWrites, SightingReads]
          (⟨configuration, .request, op, response⟩ :: trace) := by
        rw [inOrder_cons_of_not hwrites]
        exact fun h ↦ horder h.tail
      rcases hsighting with ⟨hreading, hread⟩ | hinserting | ⟨hholds, hread⟩
      · refine .edited hnext (Or.inl ⟨Or.inl hreading, ?_⟩)
        rw [inOrder_cons_iff]
        exact not_or.mpr ⟨fun h ↦ hread h.2, horder⟩
      · exact .edited hnext (Or.inr ⟨hinserting, hlatest⟩)
      · exact .stale hnext hholds (Or.inl ⟨⟨rfl, hupdates⟩, hread⟩) hlatest
  | seen hrequest hsighting horder =>
    rcases hrequest.step hcall with ⟨hnext, hupdates, hdevices⟩ | ⟨hnext, hupdates, hdevices⟩
    · refine ⟨row, by rw [hdevices, hrow], .seen hnext hsighting ?_⟩
      rwa [inOrder_cons_of_not fun h ↦ hupdates h.2]
    · refine ⟨afterEdit payload row, by rw [hdevices, hedited]; rfl, .kept hnext hsighting ?_ ?_⟩
      · rw [inOrder_cons_of_not hwrites]
        exact fun h ↦ horder h.tail
      · exact editKept_edited payload device row
  | edited hrequest => exact nomatch hrequest.nextCall
  | stale hrequest => exact nomatch hrequest.nextCall
  | kept hrequest => exact nomatch hrequest.nextCall
  | overwritten hrequest => exact nomatch hrequest.nextCall

/-- A step of the sighting leads from a situation to a situation. -/
theorem Situation.sighting_step
    {next : backend.Response op → Program backend (List DeviceChange)}
    (hsituation : Situation settings macAddress payload device scanner before trace request
      (.call (E := backend) op next) row)
    (hcall : Faulty op world response after)
    (hrow : world.db.devices.select (normalizeMac device.macAddress) = some row) :
    ∃ row, after.db.devices.select (normalizeMac device.macAddress) = some row ∧
      Situation settings macAddress payload device scanner before
        (⟨configuration, .sighting, op, response⟩ :: trace) request (next response) row := by
  have hedits : ¬ RequestWrites ⟨configuration, .sighting, op, response⟩ := fun h ↦ nomatch h.1
  have hkeeps : ¬ InOrder [RequestWrites, SightingReads] trace →
      ¬ InOrder [RequestWrites, SightingReads]
        (⟨configuration, .sighting, op, response⟩ :: trace) := by
    intro horder
    rwa [inOrder_cons_of_not hedits]
  have hkeepsAll : ¬ op.UpdatesDevice response →
      (InOrder [SightingWrites, RequestWrites, SightingReads]
          (⟨configuration, .sighting, op, response⟩ :: trace) ↔
        InOrder [SightingWrites, RequestWrites, SightingReads] trace) := fun hupdates ↦
    inOrder_cons_of_not fun h ↦ hupdates h.2
  have hseen := fun clause ↦ DevicesTable.select_update_of_some clause (NocaseEq.refl _) hrow
  cases hsituation with
  | pending hrequest hsighting horder =>
    rcases hsighting with ⟨hreading, -⟩ | hinserting | ⟨hholds, hread⟩
    · obtain ⟨hdevices, -, hnext⟩ := recordSighting_step hreading.symm hcall hrow
      refine ⟨before, by rw [hdevices, hrow], .pending hrequest ?_ (hkeeps horder)⟩
      rcases hnext with hinserting | ⟨hreads, hholds⟩
      · exact Or.inr (Or.inl hinserting)
      · exact Or.inr (Or.inr ⟨hholds, Or.inl ⟨⟨rfl, hreads⟩, inOrder_nil⟩⟩)
    · obtain ⟨hdevices, -, hquiet⟩ := recordNewSighting_step hinserting.symm hcall hrow
      exact ⟨before, by rw [hdevices, hrow], .seen hrequest hquiet (hkeeps horder)⟩
    · rcases hholds.step hcall with ⟨hdevices, -, hnext⟩ | ⟨-, hquiet, instant, hdevices⟩
      · refine ⟨before, by rw [hdevices, hrow], ?_⟩
        rcases hnext with hholds | hquiet
        · exact .pending hrequest (Or.inr (Or.inr ⟨hholds, Or.inr hread⟩)) (hkeeps horder)
        · exact .seen hrequest hquiet (hkeeps horder)
      · exact ⟨_, by rw [hdevices, hseen], .seen hrequest hquiet (hkeeps horder)⟩
  | seen hrequest hsighting horder =>
    obtain ⟨hdevices, -, hquiet⟩ := hsighting.step hcall
    exact ⟨row, by rw [hdevices, hrow], .seen hrequest hquiet (hkeeps horder)⟩
  | edited hrequest hsighting =>
    rcases hsighting with ⟨hreading | hholds, horder⟩ | ⟨hinserting, horder⟩
    · obtain ⟨hdevices, hupdates, hnext⟩ := recordSighting_step hreading.symm hcall hrow
      refine ⟨afterEdit payload before, by rw [hdevices, hrow], .edited hrequest ?_⟩
      rcases hnext with hinserting | ⟨-, hholds⟩
      · refine Or.inr ⟨hinserting, ?_⟩
        rw [hkeepsAll hupdates]
        exact fun h ↦ horder h.tail
      · exact Or.inl ⟨Or.inr hholds, hkeeps horder⟩
    · have hlatest : ¬ InOrder [SightingWrites, RequestWrites, SightingReads]
          (⟨configuration, .sighting, op, response⟩ :: trace) := by
        rw [inOrder_cons_iff]
        exact not_or.mpr ⟨fun h ↦ horder h.2, fun h ↦ horder h.tail⟩
      rcases hholds.step hcall with ⟨hdevices, -, hnext⟩ | ⟨-, hquiet, instant, hdevices⟩
      · refine ⟨afterEdit payload before, by rw [hdevices, hrow], ?_⟩
        rcases hnext with hholds | hquiet
        · exact .edited hrequest (Or.inl ⟨Or.inr hholds, hkeeps horder⟩)
        · exact .kept hrequest hquiet hlatest (editKept_edited payload device before)
      · exact ⟨_, by rw [hdevices, hseen], .kept hrequest hquiet hlatest
          (editKept_sighting_edited payload device before instant)⟩
    · obtain ⟨hdevices, hupdates, hquiet⟩ := recordNewSighting_step hinserting.symm hcall hrow
      refine ⟨afterEdit payload before, by rw [hdevices, hrow], .kept hrequest hquiet ?_ ?_⟩
      · rwa [hkeepsAll hupdates]
      · exact editKept_edited payload device before
  | stale hrequest hsighting hread horder =>
    rcases hsighting.step hcall with
      ⟨hdevices, hupdates, hnext⟩ | ⟨hupdates, hquiet, instant, hdevices⟩
    · refine ⟨afterEdit payload before, by rw [hdevices, hrow], ?_⟩
      rw [← hkeepsAll hupdates] at horder
      rcases hnext with hholds | hquiet
      · exact .stale hrequest hholds (Or.inr hread) horder
      · exact .kept hrequest hquiet horder (editKept_edited payload device before)
    · have hlatest : InOrder [SightingWrites, RequestWrites, SightingReads]
          (⟨configuration, .sighting, op, response⟩ :: trace) := Or.inl ⟨⟨rfl, hupdates⟩, hread⟩
      exact ⟨_, by rw [hdevices, hseen],
        .overwritten hrequest hquiet hlatest instant⟩
  | kept hrequest hsighting horder hkept =>
    obtain ⟨hdevices, hupdates, hquiet⟩ := hsighting.step hcall
    rw [← hkeepsAll hupdates] at horder
    exact ⟨row, by rw [hdevices, hrow], .kept hrequest hquiet horder hkept⟩
  | overwritten hrequest hsighting horder instant =>
    obtain ⟨hdevices, hupdates, hquiet⟩ := hsighting.step hcall
    rw [← hkeepsAll hupdates] at horder
    exact ⟨_, by rw [hdevices, hrow], .overwritten hrequest hquiet horder instant⟩

end Steps

/-- Every configuration of the race is in a situation. -/
theorem editRace_situation {before : Device} {start : World}
    {trace : List (Move backend EditThread EditThread.Outcome World)}
    {last : Configuration backend EditThread EditThread.Outcome World}
    (hmac : NocaseEq device.macAddress macAddress)
    (hrow : start.db.devices.select (normalizeMac device.macAddress) = some before)
    (hrun : Interleaving Faulty (editRace settings macAddress payload device scanner start) trace
      last) :
    ∃ row, last.state.db.devices.select (normalizeMac device.macAddress) = some row ∧
      Situation settings macAddress payload device scanner before trace (last.threads .request)
        (last.threads .sighting) row := by
  induction hrun with
  | start =>
    exact ⟨before, hrow, .pending (Or.inl rfl) (Or.inl ⟨rfl, not_inOrder_nil⟩) not_inOrder_nil⟩
  | @step trace move after hbefore hstep ih =>
    obtain ⟨row, hselect, hsituation⟩ := ih
    obtain ⟨next, hthread, hcall, hafter⟩ := hstep.exists_next
    obtain ⟨configuration, thread, op, response⟩ := move
    cases thread with
    | request =>
      have hne : EditThread.sighting ≠ .request := by decide
      have hother : after.threads .sighting = configuration.threads .sighting :=
        hstep.threads_of_ne hne
      rw [hother, hafter]
      rw [hthread] at hsituation
      exact hsituation.request_step hmac hcall hselect
    | sighting =>
      have hne : EditThread.request ≠ .sighting := by decide
      have hother : after.threads .request = configuration.threads .request :=
        hstep.threads_of_ne hne
      rw [hother, hafter]
      rw [hthread] at hsituation
      exact hsituation.sighting_step hcall hselect

/-- When a race is over and the request has answered 200, its edit is in the row, except when it was
written between the read and the `UPDATE` of a sighting that clobbers it. -/
theorem edit_kept_iff (settings : Settings) (scanner : DeviceEventScanner) {start : World}
    {before : Device} {reply : Reply}
    {trace : List (Move backend EditThread EditThread.Outcome World)}
    {last : Configuration backend EditThread EditThread.Outcome World}
    (hmac : NocaseEq device.macAddress macAddress)
    (hrow : start.db.devices.select (normalizeMac macAddress) = some before)
    (hrun : Interleaving Faulty (editRace settings macAddress payload device scanner start) trace
      last)
    (hfinished : last.Finished) (hreply : last.threads .request = .ret reply)
    (hok : reply.1 = .ok) :
    (∃ row, last.state.db.devices.select (normalizeMac macAddress) = some row ∧
      EditKept payload device row) ↔
    ¬ (InOrder [SightingWrites, RequestWrites, SightingReads] trace ∧
      Clobbers payload device before) := by
  have hsame : normalizeMac device.macAddress = normalizeMac macAddress := hmac
  rw [← hsame] at hrow ⊢
  obtain ⟨row, hselect, hsituation⟩ := editRace_situation hmac hrow hrun
  have hrowIs : (∃ row, last.state.db.devices.select (normalizeMac device.macAddress) = some row ∧
      EditKept payload device row) ↔ EditKept payload device row := by
    constructor
    · intro ⟨found, hfound, hkept⟩
      rw [hselect] at hfound
      rwa [Option.some.inj hfound]
    · exact fun hkept ↦ ⟨row, hselect, hkept⟩
  rw [hrowIs]
  have hwrote : ¬ Unwritten macAddress payload (last.threads .request) := by
    rw [hreply]
    intro hunwritten
    rcases hunwritten with hhandler | hwriting | ⟨other, hother, hne⟩
    · rw [DeviceRequest.handler_eq] at hhandler
      cases hhandler
    · cases hwriting
    · cases hother
      exact hne hok
  have hdone := hfinished .sighting
  have hholding : ∀ recorded,
      ¬ Holds settings device scanner recorded (last.threads .sighting) := by
    intro recorded hholds
    rcases hholds with hknown | ⟨instant, hwriting⟩
    · rw [hknown, recordKnownSighting_eq] at hdone
      cases hdone
    · rw [hwriting] at hdone
      cases hdone
  cases hsituation with
  | pending hrequest => exact absurd hrequest hwrote
  | seen hrequest => exact absurd hrequest hwrote
  | edited hrequest hsighting =>
    rcases hsighting with ⟨hreading | hholds, -⟩ | ⟨hinserting, -⟩
    · rw [hreading, recordSighting_eq] at hdone
      cases hdone
    · exact absurd hholds (hholding _)
    · rw [hinserting, recordNewSighting_eq] at hdone
      cases hdone
  | stale hrequest hsighting => exact absurd hsighting (hholding _)
  | kept hrequest hsighting horder hkept => exact iff_of_true hkept fun h ↦ horder h.1
  | overwritten hrequest hsighting horder instant =>
    rw [editKept_sighting_iff, and_iff_right horder]

end Race

/-! ### Two runs -/

/-- A bare sighting of the registered device, at the address it is known at. -/
def sightedNas : Device := .new "aa:00:00:00:00:01" "10.0.0.1" "" .epoch

/-- The sighting reads, the request reads and writes, and the sighting goes on. -/
def editBetween : List EditThread :=
  [.sighting, .request, .request] ++ List.replicate 7 .sighting

/-- The race of a request against a sighting of the registered device. -/
def nasRace (payload : UpdateDevicePayload) :
    Configuration backend EditThread EditThread.Outcome World :=
  editRace .default "aa:00:00:00:00:01" payload sightedNas .arp
    (.still ⟨.single registeredNas, []⟩ .epoch)

/-- A new name written between the read and the `UPDATE` of a sighting is lost. -/
theorem edit_lost_between_read_and_seen :
    ∃ trace last,
      Interleaving Reliable (nasRace ⟨"Ada", "Server", "Acme", some "box"⟩) trace last ∧
      last.Finished ∧ last.threads .request = .ret (.ok, "Device updated") ∧
      ¬ ∃ row, last.state.db.devices.select (normalizeMac "aa:00:00:00:00:01") = some row ∧
        EditKept ⟨"Ada", "Server", "Acme", some "box"⟩ sightedNas row := by
  refine ⟨_, _, Interleaving.follow (Transition.allows_ofMachine clocked) _ editBetween, ?_, ?_, ?_⟩
  · intro thread
    refine Program.nextCall_eq_none_of_outcome ?_
    cases thread <;> decide
  · refine Program.outcome_eq_some_iff.mp (?_ : _ = some (some (StatusCode.ok, "Device updated")))
    decide
  · intro ⟨row, hrow, hkept⟩
    have hname : (((nasRace ⟨"Ada", "Server", "Acme", some "box"⟩).follow clocked
        editBetween).2.state.db.devices.select (normalizeMac "aa:00:00:00:00:01")).map
          Device.name = some (some "nas") := by decide
    rw [hrow] at hname
    have hedited := hkept.name "box" rfl
    rw [Option.map_some, hedited] at hname
    exact absurd hname (by decide)

/-- A new owner written there is kept. -/
theorem edit_kept_iff_owner :
    ∃ row, ((nasRace ⟨"Eve", "Server", "Acme", none⟩).follow clocked
        editBetween).2.state.db.devices.select (normalizeMac "aa:00:00:00:00:01") = some row ∧
      EditKept ⟨"Eve", "Server", "Acme", none⟩ sightedNas row := by
  have hclobbers : ¬ Clobbers ⟨"Eve", "Server", "Acme", none⟩ sightedNas registeredNas := by
    intro hclobbers
    rcases hclobbers with ⟨name, written, hname, -⟩ | ⟨-, -, -, hne⟩
    · cases hname
    · exact hne rfl
  have hmac : NocaseEq sightedNas.macAddress "aa:00:00:00:00:01" := NocaseEq.refl _
  have hrow : (World.still ⟨.single registeredNas, []⟩ .epoch).db.devices.select
      (normalizeMac "aa:00:00:00:00:01") = some registeredNas := by decide
  have hrun := Interleaving.follow Faulty.allows_clocked
    (nasRace ⟨"Eve", "Server", "Acme", none⟩) editBetween
  have hreply : (((nasRace ⟨"Eve", "Server", "Acme", none⟩).follow clocked
      editBetween).2.threads .request).outcome = some (some (.ok, "Device updated")) := by decide
  have hsighting : (((nasRace ⟨"Eve", "Server", "Acme", none⟩).follow clocked
      editBetween).2.threads .sighting).outcome.isSome = true := by decide
  generalize (nasRace ⟨"Eve", "Server", "Acme", none⟩).follow clocked editBetween = reached at *
  have hended := Program.outcome_eq_some_iff.mp hreply
  have hfinished : reached.2.Finished := by
    intro thread
    cases thread with
    | request => exact (Program.nextCall_eq_none_iff _).mpr ⟨_, hended⟩
    | sighting => exact Program.nextCall_eq_none_of_outcome hsighting
  exact (edit_kept_iff .default .arp hmac hrow hrun hfinished hended rfl).mpr fun h ↦ hclobbers h.2

end Oott
