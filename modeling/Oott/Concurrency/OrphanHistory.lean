import Oott.Effects.Interleaving
import Oott.Operations

/-!
# Events without a device

`device_events` has no foreign key to `devices`. A sighting finds or inserts the device first and
inserts its events later, without looking at the device again; a permanent deletion removes the
device and its events together. `NoOrphans` therefore rests on the order of the calls, and it holds
in every state of every interleaving, whichever database calls fail, as long as no device is deleted
while a sighting of it is past the first part and may still insert an event (`no_orphans`). A
deletion just then leaves an event behind.
-/

set_option autoImplicit false
set_option relaxedAutoImplicit false

namespace Oott

open Effects

/-- Every event carries the MAC of a device that is there. -/
def NoOrphans (db : Database) : Prop :=
  ∀ event ∈ db.deviceEvents, db.devices.select event.macAddress ≠ none

instance (db : Database) : Decidable (NoOrphans db) :=
  inferInstanceAs (Decidable (∀ event ∈ db.deviceEvents, db.devices.select event.macAddress ≠ none))

/-! ### The statements -/

section Statements

variable {db : Database} {mac : String}

/-- An `UPDATE` neither adds nor removes a device. -/
theorem present_update (clause : SetClause) (target : String) :
    (db.updateDevices clause target).devices.select mac ≠ none ↔ db.devices.select mac ≠ none := by
  change (db.devices.update clause target).select mac ≠ none ↔ _
  rw [DevicesTable.select_update, Ne, Option.map_eq_none_iff]

/-- A device that is not deleted stays. -/
theorem present_delete {target : String} (hother : ¬ NocaseEq mac target) :
    (db.deleteDevice target).devices.select mac = db.devices.select mac :=
  DevicesTable.select_delete_other hother

/-- An `INSERT` keeps the devices that are there and adds its own. -/
theorem present_insert {row : Device} {table : DevicesTable}
    (hinsert : db.devices.insert row = some table)
    (hpresent : db.devices.select mac ≠ none ∨ NocaseEq row.macAddress mac) :
    table.select mac ≠ none := by
  obtain ⟨hrows, -⟩ := DevicesTable.rows_of_insert hinsert
  intro hnone
  rw [DevicesTable.select_eq_none_iff, hrows] at hnone
  rcases hpresent with hbefore | hown
  · obtain ⟨found, hfound⟩ := Option.ne_none_iff_exists'.mp hbefore
    exact hnone found (List.mem_append_left _ (DevicesTable.mem_of_select hfound))
      (DevicesTable.nocaseEq_of_select hfound)
  · exact hnone row (List.mem_append_right _ List.mem_cons_self) hown

theorem NoOrphans.updateDevices (hbefore : NoOrphans db) (clause : SetClause) (target : String) :
    NoOrphans (db.updateDevices clause target) := by
  intro event hevent
  exact (present_update clause target).mpr (hbefore event hevent)

/-- A deletion removes the events of the device with it. -/
theorem NoOrphans.deleteDevice (hbefore : NoOrphans db) (target : String) :
    NoOrphans (db.deleteDevice target) := by
  intro event hevent
  obtain ⟨hold, hother⟩ := List.mem_filter.mp hevent
  rw [present_delete (by simpa using hother)]
  exact hbefore event hold

theorem NoOrphans.insertDevice (hbefore : NoOrphans db) {row : Device} {table : DevicesTable}
    (hinsert : db.devices.insert row = some table) : NoOrphans { db with devices := table } := by
  intro event hevent
  exact present_insert hinsert (Or.inl (hbefore event hevent))

/-- An event of a device that is there can be inserted. -/
theorem NoOrphans.insertEvent (hbefore : NoOrphans db) {event : DeviceEvent}
    (hpresent : db.devices.select event.macAddress ≠ none) : NoOrphans (db.insertEvent event) := by
  intro inserted hinserted
  rcases List.mem_append.mp hinserted with hold | hnew
  · exact hbefore inserted hold
  · rw [List.mem_singleton.mp hnew]
    exact hpresent

theorem NoOrphans.deleteEventsBefore (hbefore : NoOrphans db) (cutoff : Instant) :
    NoOrphans (db.deleteEventsBefore cutoff) := by
  intro event hevent
  exact hbefore event (List.mem_filter.mp hevent).1

end Statements

/-! ### The calls -/

/-- The call deletes the device of a MAC. -/
def Call.Deletes (mac : String) : (call : Call) → backend.Response call → Prop
  | .sql (.deleteDevice target), .ok _ => NocaseEq mac target
  | _, _ => False

/-- A call of a sighting once it has found or inserted its device. -/
def Call.FollowsDevice (mac : String) : Call → Prop
  | .now => True
  | .sql (.updateDevices _ _) => True
  | .sql (.countDeviceEvents _ _ _ _) => True
  | .sql (.insertDeviceEvent event) => event.macAddress = mac
  | .sql _ => False

/-- A call that inserts no event. -/
def Call.InsertsNoEvent : Call → Prop
  | .sql (.insertDeviceEvent _) => False
  | _ => True

/-- A call of a sweep. -/
def Call.Sweeps : Call → Prop
  | .now => True
  | .sql (.deleteDeviceEventsBefore _) => True
  | .sql _ => False

section Calls

variable {op : Call} {world after : World} {response : backend.Response op} {mac : String}

theorem Call.followsDevice_of_recordsEvents (hrecords : op.RecordsEventsOf mac) :
    op.FollowsDevice mac := by
  cases op with
  | now => trivial
  | sql statement =>
    cases statement with
    | countDeviceEvents => trivial
    | insertDeviceEvent event => exact hrecords
    | updateDevices => trivial
    | _ => exact hrecords.elim

/-- Only a deletion removes a device. -/
theorem Faulty.present (hcall : Faulty op world response after)
    (hpresent : world.db.devices.select mac ≠ none) :
    after.db.devices.select mac ≠ none ∨ op.Deletes mac response := by
  cases hcall with
  | fail statement error => exact Or.inl hpresent
  | answer =>
    cases op with
    | now => exact Or.inl hpresent
    | sql statement =>
      cases statement with
      | updateDevices clause target => exact Or.inl ((present_update clause target).mpr hpresent)
      | deleteDevice target =>
        by_cases hsame : NocaseEq mac target
        · exact Or.inr hsame
        · refine Or.inl ?_
          change (world.db.deleteDevice target).devices.select mac ≠ none
          rw [present_delete hsame]
          exact hpresent
      | insertDevice row =>
        refine Or.inl ?_
        cases hinsert : world.db.devices.insert row with
        | none =>
          simpa [clocked, Statement.execute, hinsert, World.withDb] using hpresent
        | some table =>
          simpa [clocked, Statement.execute, hinsert, World.withDb] using
            present_insert hinsert (Or.inl hpresent)
      | _ => exact Or.inl hpresent

/-- A call of a sighting that has its device keeps every event with a device, if the device is still
there or the call inserts no event. -/
theorem Faulty.noOrphans_of_followsDevice (hcall : Faulty op world response after)
    (hfollows : op.FollowsDevice mac)
    (hpresent : world.db.devices.select mac ≠ none ∨ op.InsertsNoEvent)
    (hbefore : NoOrphans world.db) : NoOrphans after.db := by
  cases hcall with
  | fail statement error => exact hbefore
  | answer =>
    cases op with
    | now => exact hbefore
    | sql statement =>
      cases statement with
      | updateDevices clause target => exact hbefore.updateDevices clause target
      | countDeviceEvents => exact hbefore
      | insertDeviceEvent event =>
        refine hbefore.insertEvent ?_
        rw [show event.macAddress = mac from hfollows]
        exact hpresent.resolve_right id
      | selectDevice => exact hbefore
      | insertDevice => exact hfollows.elim
      | deleteDevice => exact hfollows.elim
      | deleteDeviceEventsBefore => exact hfollows.elim

/-- A call of a sweep keeps every event with a device. -/
theorem Faulty.noOrphans_of_sweeps (hcall : Faulty op world response after) (hsweeps : op.Sweeps)
    (hbefore : NoOrphans world.db) : NoOrphans after.db := by
  cases hcall with
  | fail statement error => exact hbefore
  | answer =>
    cases op with
    | now => exact hbefore
    | sql statement =>
      cases statement with
      | deleteDeviceEventsBefore cutoff => exact hbefore.deleteEventsBefore cutoff
      | _ => exact hsweeps.elim

end Calls

/-! ### The operations -/

/-- The program is about to look for its device or to insert it. -/
def AboutToFindDevice {α : Type} (program : Program backend α) : Prop :=
  (∃ mac, program.nextCall = some (.sql (.selectDevice mac))) ∨
    ∃ row, program.nextCall = some (.sql (.insertDevice row))

theorem not_aboutToFindDevice_of_always {α : Type} {program : Program backend α} {mac : String}
    (hfollows : program.Always (Call.FollowsDevice mac)) : ¬ AboutToFindDevice program := by
  intro hfind
  cases program with
  | ret value => rcases hfind with ⟨target, hnext⟩ | ⟨row, hnext⟩ <;> cases hnext
  | abort => rcases hfind with ⟨target, hnext⟩ | ⟨row, hnext⟩ <;> cases hnext
  | call op next =>
    obtain ⟨hop, -⟩ := hfollows
    rcases hfind with ⟨target, hnext⟩ | ⟨row, hnext⟩
    · rw [Option.some.inj hnext] at hop
      exact hop
    · rw [Option.some.inj hnext] at hop
      exact hop

/-- A sweep makes no calls but a reading of the clock and a deletion of events. -/
theorem sweep_always (settings : Settings) : (sweep settings).Always Call.Sweeps := by
  unfold sweep
  split
  · refine (Program.always_perform trivial).bind fun instant ↦ ?_
    refine (Program.always_orAbort _).bind fun cutoff ↦ ?_
    exact (Program.always_perform trivial).bind fun _ ↦ Program.always_ret _
  · exact Program.always_ret _

namespace Operation

/-- The programs a thread can have left to run, given the devices there are: a sighting that has its
device still has it, or inserts no event any more. -/
def Stage (settings : Settings) (table : DevicesTable) :
    (operation : Operation) → Program backend operation.Outcome → Prop
  | sighting device scanner, program =>
    program = recordSighting settings device scanner ∨
      program = recordNewSighting settings device scanner ∨
      program.Always (Call.FollowsDevice (normalizeMac device.macAddress)) ∧
        (table.select (normalizeMac device.macAddress) ≠ none ∨ program.Always Call.InsertsNoEvent)
  | request served, program => served.Stage program
  | sweep, program => program.Always Call.Sweeps

variable {settings : Settings}

theorem stage_program (settings : Settings) (table : DevicesTable) (operation : Operation) :
    operation.Stage settings table (operation.program settings) := by
  cases operation with
  | sighting device scanner => exact Or.inl rfl
  | request served => exact Or.inl rfl
  | sweep => exact sweep_always settings

/-- A thread that does not move stays in its stage, unless its device is deleted while it may still
insert an event. -/
theorem Stage.other {table table' : DevicesTable} {operation : Operation}
    {program : Program backend operation.Outcome} (hstage : operation.Stage settings table program)
    (hkept : ∀ device scanner, operation = sighting device scanner →
      table.select (normalizeMac device.macAddress) ≠ none →
      table'.select (normalizeMac device.macAddress) ≠ none ∨ AboutToFindDevice program ∨
        program.Always Call.InsertsNoEvent) :
    operation.Stage settings table' program := by
  cases operation with
  | sighting device scanner =>
    rcases hstage with hreading | hinserting | ⟨hfollows, hpresent⟩
    · exact Or.inl hreading
    · exact Or.inr (Or.inl hinserting)
    · refine Or.inr (Or.inr ⟨hfollows, ?_⟩)
      rcases hpresent with hpresent | hnever
      · rcases hkept device scanner rfl hpresent with hstill | hfind | hnever
        · exact Or.inl hstill
        · exact absurd hfind (not_aboutToFindDevice_of_always hfollows)
        · exact Or.inr hnever
      · exact Or.inr hnever
  | request served => exact hstage
  | sweep => exact hstage

variable {op : Call} {world after : World} {response : backend.Response op}

/-- A step of a sighting keeps every event with a device, and the sighting in its stage. -/
theorem Stage.sighting_step {device : Device} {scanner : DeviceEventScanner}
    {next : backend.Response op → Program backend (List DeviceChange)}
    (hstage : (sighting device scanner).Stage settings world.db.devices
      (.call (E := backend) op next))
    (hcall : Faulty op world response after) (hbefore : NoOrphans world.db) :
    NoOrphans after.db ∧
      (sighting device scanner).Stage settings after.db.devices (next response) := by
  have hanswerSeen : ∀ recorded written,
      (answerSeen settings recorded device scanner written).Always
        (Call.FollowsDevice (normalizeMac device.macAddress)) := fun recorded written ↦
    (answerSeen_always settings recorded device scanner written).mono
      fun _ ↦ Call.followsDevice_of_recordsEvents
  rcases hstage with hreading | hinserting | ⟨⟨hop, hrest⟩, hpresent⟩
  · rw [recordSighting_eq] at hreading
    cases hreading
    have hsame : after.db = world.db := by cases hcall <;> rfl
    rw [hsame]
    refine ⟨hbefore, ?_⟩
    cases hcall with
    | fail statement error => exact Or.inr (Or.inl rfl)
    | answer =>
      change Stage settings world.db.devices (sighting device scanner)
        (answerSightingRead settings device scanner
          (.ok (world.db.devices.select (normalizeMac device.macAddress))))
      cases hselect : world.db.devices.select (normalizeMac device.macAddress) with
      | none => exact Or.inr (Or.inl rfl)
      | some recorded =>
        refine Or.inr (Or.inr ⟨?_, Or.inl (by rw [hselect]; exact Option.some_ne_none _)⟩)
        change (recordKnownSighting settings recorded device scanner).Always _
        rw [recordKnownSighting_eq]
        exact ⟨trivial, fun instant ↦ ⟨trivial, hanswerSeen recorded⟩⟩
  · rw [recordNewSighting_eq] at hinserting
    cases hinserting
    have hfollows := (answerInsert_always settings device scanner response).mono
      fun _ ↦ Call.followsDevice_of_recordsEvents
    cases hcall with
    | fail statement error => exact ⟨hbefore, Or.inr (Or.inr ⟨hfollows, Or.inr trivial⟩)⟩
    | answer =>
      cases hinsert : world.db.devices.insert
          { device with macAddress := normalizeMac device.macAddress } with
      | none =>
        have hanswer : clocked (.sql (.insertDevice
            { device with macAddress := normalizeMac device.macAddress })) world =
              (.error .parseRusqlite, world) := by
          simp [clocked, Statement.execute, hinsert, World.withDb]
        rw [hanswer] at hfollows ⊢
        exact ⟨hbefore, Or.inr (Or.inr ⟨hfollows, Or.inr trivial⟩)⟩
      | some table =>
        have hanswer : clocked (.sql (.insertDevice
            { device with macAddress := normalizeMac device.macAddress })) world =
              (.ok 1, world.withDb { world.db with devices := table }) := by
          simp [clocked, Statement.execute, hinsert, World.withDb]
        rw [hanswer] at hfollows ⊢
        have hpresent : table.select (normalizeMac device.macAddress) ≠ none :=
          present_insert hinsert (Or.inr (NocaseEq.refl _))
        exact ⟨hbefore.insertDevice hinsert, Or.inr (Or.inr ⟨hfollows, Or.inl hpresent⟩)⟩
  · have hkeeps : world.db.devices.select (normalizeMac device.macAddress) ≠ none ∨
        op.InsertsNoEvent := hpresent.imp_right And.left
    refine ⟨hcall.noOrphans_of_followsDevice hop hkeeps hbefore,
      Or.inr (Or.inr ⟨hrest response, ?_⟩)⟩
    rcases hpresent with hpresent | hnever
    · refine (hcall.present hpresent).imp_right fun hdeletes ↦ ?_
      -- A sighting that has its device makes no deletions.
      cases op with
      | now => exact hdeletes.elim
      | sql statement =>
        cases statement with
        | deleteDevice target => exact hop.elim
        | _ => exact hdeletes.elim
    · exact Or.inr (hnever.2 response)

/-- A step of a request keeps every event with a device. -/
theorem Stage.request_step {served : DeviceRequest}
    {next : backend.Response op → Program backend Reply}
    (hstage : served.Stage (.call (E := backend) op next))
    (hcall : Faulty op world response after) (hbefore : NoOrphans world.db) :
    NoOrphans after.db := by
  rcases hstage with hhandler | hwriting | ⟨reply, hreply⟩
  · rw [DeviceRequest.handler_eq] at hhandler
    cases hhandler
    have hsame : after.db = world.db := by cases hcall <;> rfl
    rwa [hsame]
  · cases hwriting
    cases hcall with
    | fail statement error => exact hbefore
    | answer =>
      cases served with
      | register payload => exact hbefore.updateDevices _ _
      | update path payload => exact hbefore.updateDevices _ _
      | unregister path => exact hbefore.updateDevices _ _
      | delete path => exact hbefore.deleteDevice _
  · cases hreply

/-- A step of an operation keeps every event with a device, and the operation in its stage. -/
theorem Stage.step {operation : Operation}
    {next : backend.Response op → Program backend operation.Outcome}
    (hstage : operation.Stage settings world.db.devices (.call (E := backend) op next))
    (hcall : Faulty op world response after) (hbefore : NoOrphans world.db) :
    NoOrphans after.db ∧ operation.Stage settings after.db.devices (next response) := by
  cases operation with
  | sighting device scanner => exact hstage.sighting_step hcall hbefore
  | request served =>
    exact ⟨Stage.request_step hstage hcall hbefore, DeviceRequest.Stage.next response hstage⟩
  | sweep => exact ⟨hcall.noOrphans_of_sweeps hstage.1 hbefore, hstage.2 response⟩

end Operation

/-! ### Interleavings -/

variable {ι : Type}

/-- The operations, all about to start. -/
def started (settings : Settings) (operations : ι → Operation) (start : World) :
    Configuration backend ι (fun i ↦ (operations i).Outcome) World :=
  ⟨start, fun i ↦ (operations i).program settings⟩

/-- If the move deletes a device, every sighting of the device has yet to find or insert it, or
inserts no event any more. -/
def DeletesApart (operations : ι → Operation)
    (move : Move backend ι (fun i ↦ (operations i).Outcome) World) : Prop :=
  ∀ i device scanner, operations i = .sighting device scanner →
    move.op.Deletes (normalizeMac device.macAddress) move.response →
    AboutToFindDevice (move.before.threads i) ∨
      (move.before.threads i).Always Call.InsertsNoEvent

/-- No orphan history: from an empty database, in every state of every interleaving of sightings,
requests and sweeps, whichever database calls fail, every event carries the MAC of a device that is
there, as long as no device is deleted while a sighting that has found or inserted it may still
insert an event. -/
theorem no_orphans [DecidableEq ι] (settings : Settings) (operations : ι → Operation)
    (clock : ℕ → Instant) {trace : List (Move backend ι (fun i ↦ (operations i).Outcome) World)}
    {last : Configuration backend ι (fun i ↦ (operations i).Outcome) World}
    (hrun : Interleaving Faulty (started settings operations ⟨Database.empty, clock⟩) trace last)
    (hdeletes : ∀ move ∈ trace, DeletesApart operations move) : NoOrphans last.state.db := by
  have hinvariant : NoOrphans last.state.db ∧
      ∀ i, (operations i).Stage settings last.state.db.devices (last.threads i) := by
    refine hrun.invariant (fun configuration ↦ NoOrphans configuration.state.db ∧ ∀ i,
        (operations i).Stage settings configuration.state.db.devices (configuration.threads i))
      (DeletesApart operations) ?_ ?_ hdeletes
    · exact ⟨List.forall_mem_nil _, fun i ↦ Operation.stage_program settings _ (operations i)⟩
    · intro move after hstep hapart hbefore
      obtain ⟨hnoOrphans, hstages⟩ := hbefore
      obtain ⟨next, hthread, hcall, hafter⟩ := hstep.exists_next
      have hmover := hstages move.thread
      rw [hthread] at hmover
      obtain ⟨hkept, hnext⟩ := hmover.step hcall hnoOrphans
      refine ⟨hkept, fun i ↦ ?_⟩
      by_cases hi : i = move.thread
      · subst hi
        rw [hafter]
        exact hnext
      · rw [hstep.threads_of_ne hi]
        refine (hstages i).other fun device scanner hsighting hpresent ↦ ?_
        exact (hcall.present hpresent).imp_right fun hdelete ↦
          hapart i device scanner hsighting hdelete
  exact hinvariant.1

/-! ### A discovery and a deletion -/

/-- A scanner discovers a device, and a user deletes it. -/
def foundAndDeleted : Bool → Operation
  | true => .sighting (.new "aa:00:00:00:00:01" "10.0.0.1" "Acme" .epoch) .arp
  | false => .request (.delete "aa:00:00:00:00:01")

/-- Both about to start on an empty database. -/
def foundAndDeletedStart :
    Configuration backend Bool (fun i ↦ (foundAndDeleted i).Outcome) World :=
  started .default foundAndDeleted ⟨Database.empty, fun _ ↦ .epoch⟩

/-- A deletion between the insertion of the device and that of its first event leaves the event
behind, and nothing is under way any more. -/
theorem orphan_of_deletion_between :
    ∃ trace last, Interleaving Reliable foundAndDeletedStart trace last ∧ last.Finished ∧
      ¬ NoOrphans last.state.db := by
  refine ⟨_, _, Interleaving.follow (Transition.allows_ofMachine clocked) _
    [true, true, false, false, true, true, true, true], ?_, ?_⟩
  · intro i
    refine Program.nextCall_eq_none_of_outcome ?_
    cases i <;> decide
  · decide

/-- A deletion after the sighting leaves none. -/
theorem no_orphans_foundAndDeleted :
    NoOrphans (foundAndDeletedStart.follow clocked
      [true, true, true, true, true, true, false, false]).2.state.db := by
  refine no_orphans .default foundAndDeleted _
    (Interleaving.follow Faulty.allows_clocked foundAndDeletedStart _) ?_
  refine List.forall_mem_cons.mpr ⟨?_, ?_⟩
  · intro i device scanner hsighting hdeletes
    cases i with
    | true => exact Or.inr trivial
    | false => cases hsighting
  · have hnone : ∀ move ∈ (foundAndDeletedStart.follow clocked
        [true, true, true, true, true, true, false]).1, ∀ mac,
        ¬ move.op.Deletes mac move.response := by
      iterate 7 refine List.forall_mem_cons.mpr ⟨fun _ h ↦ h.elim, ?_⟩
      exact List.forall_mem_nil _
    exact fun move hmove i device scanner _ hdeletes ↦ absurd hdeletes (hnone move hmove _)

end Oott
