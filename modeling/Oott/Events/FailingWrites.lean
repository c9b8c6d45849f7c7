import Oott.Effects.Trace
import Oott.Events.Recording

/-!
# Recording events when writes fail

A change is to be returned only once its event is recorded. `record_event` answers `true` also when
its insertion failed, so an entry is returned without a row exactly when the insertion of its event
fails (`returned_recorded_iff`). The duplicate check may fail freely, and so may the insertion of
the `DeviceSeen` event, which stands for no change.
-/

set_option autoImplicit false
set_option relaxedAutoImplicit false

namespace Oott

open Effects

/-- The call is an insertion of an event of the given type, and it failed. -/
def FailsToInsert (eventType : DeviceEventType) : Answer backend → Prop
  | ⟨.sql (.insertDeviceEvent event), .error _⟩ => event.eventType = eventType
  | _ => False

/-- The call is an insertion of the event of a change, and it failed. -/
def LosesChange (answer : Answer backend) : Prop :=
  ∃ eventType, eventType ≠ .deviceSeen ∧ FailsToInsert eventType answer

/-- Every returned change has its row among those added to `device_events`. -/
def ReturnedRecorded (device : Device) (scanner : DeviceEventScanner) (before after : Database)
    (returned : List DeviceChange) : Prop :=
  ∃ inserted, after.deviceEvents = before.deviceEvents ++ inserted ∧
    ∀ change ∈ returned, ∃ event ∈ inserted, event.Describes device (eventTypeFor change) scanner

section Recording

variable {settings : Settings} {scanner : DeviceEventScanner} {world after : World}
  {device : Device} {eventType : DeviceEventType} {trace : List (Answer backend)}

/-- One attempt to record an event of a type: it is found to be a duplicate, or inserted, or the
insertion fails; only the last makes a failing insertion, and it too answers `true`. -/
inductive Attempt (device : Device) (eventType : DeviceEventType) (scanner : DeviceEventScanner) :
    List (Answer backend) → Bool → List DeviceEvent → Prop
  | duplicate {trace : List (Answer backend)}
      (hkept : ∀ answer ∈ trace, ∀ other, ¬ FailsToInsert other answer) :
      Attempt device eventType scanner trace false []
  | inserted {trace : List (Answer backend)} {event : DeviceEvent}
      (hkept : ∀ answer ∈ trace, ∀ other, ¬ FailsToInsert other answer)
      (hdescribes : event.Describes device eventType scanner) :
      Attempt device eventType scanner trace true [event]
  | lost {trace : List (Answer backend)}
      (hlost : ∃ answer ∈ trace, FailsToInsert eventType answer)
      (honly : ∀ answer ∈ trace, ∀ other, FailsToInsert other answer → other = eventType) :
      Attempt device eventType scanner trace true []

/-- A call that fails to insert nothing may come before an attempt. -/
theorem Attempt.cons {answer : Answer backend} {recorded : Bool} {inserted : List DeviceEvent}
    (hattempt : Attempt device eventType scanner trace recorded inserted)
    (hanswer : ∀ other, ¬ FailsToInsert other answer) :
    Attempt device eventType scanner (answer :: trace) recorded inserted := by
  cases hattempt with
  | duplicate hkept => exact .duplicate (List.forall_mem_cons.mpr ⟨hanswer, hkept⟩)
  | inserted hkept hdescribes =>
    exact .inserted (List.forall_mem_cons.mpr ⟨hanswer, hkept⟩) hdescribes
  | lost hlost honly =>
    obtain ⟨failed, hmem, hfails⟩ := hlost
    refine .lost ⟨failed, List.mem_cons_of_mem _ hmem, hfails⟩
      (List.forall_mem_cons.mpr ⟨?_, honly⟩)
    exact fun other h ↦ absurd h (hanswer other)

/-- The insertion that ends an attempt, after calls that insert nothing. -/
theorem attempt_of_insert {earlier : List (Answer backend)} {event : DeviceEvent} {recorded : Bool}
    (hdescribes : DeviceEvent.Describes { event with macAddress := normalizeMac event.macAddress }
      device eventType scanner)
    (hearlier : ∀ answer ∈ earlier, ∀ other, ¬ FailsToInsert other answer)
    (htraced : Program.Traced Faulty
      (Db.DeviceEvents.insert event >>= fun _ ↦ (.ret true : Program backend Bool)) world trace
      (some recorded) after) :
    ∃ inserted, after.db.deviceEvents = world.db.deviceEvents ++ inserted ∧
      Attempt device eventType scanner (earlier ++ trace) recorded inserted := by
  obtain ⟨response, middle, rest, rfl, hcall, hrest⟩ := Program.traced_call_iff.mp htraced
  obtain ⟨rfl, hrecorded, rfl⟩ := Program.traced_ret_iff.mp hrest
  cases hrecorded
  cases hcall with
  | answer =>
    refine ⟨[_], rfl, .inserted (List.forall_mem_append.mpr ⟨hearlier, ?_⟩)
      ⟨hdescribes.macAddress, hdescribes.eventType, hdescribes.ipv4Address, hdescribes.vendor,
        hdescribes.scanner⟩⟩
    exact List.forall_mem_singleton.mpr fun _ ↦ id
  | fail statement error =>
    refine ⟨[], (List.append_nil _).symm, .lost ?_ (List.forall_mem_append.mpr ⟨?_, ?_⟩)⟩
    · exact ⟨_, List.mem_append_right _ (List.mem_singleton_self _), hdescribes.eventType⟩
    · exact fun answer hanswer other hfails ↦ absurd hfails (hearlier answer hanswer other)
    · exact List.forall_mem_singleton.mpr fun other hfails ↦ hfails.symm.trans hdescribes.eventType

/-- What `record_event` does with the answer to its duplicate check. -/
def answerCheck (event : DeviceEvent) (response : Except DbError ℕ) : Program backend Bool :=
  match response.map fun count ↦ decide (0 < count) with
  | .ok true => .ret false
  | .ok false | .error _ => Db.DeviceEvents.insert event >>= fun _ ↦ .ret true

theorem recordEvent_eq (settings : Settings) (event : DeviceEvent) :
    recordEvent settings event =
      .call (E := backend) .now fun instant ↦
        Program.orAbort (settings.since instant) >>= fun since ↦
          .call (E := backend) (.sql (.countDeviceEvents (normalizeMac event.macAddress)
            event.scanner event.eventType since)) (answerCheck event) := by
  refine congrArg (Program.call (E := backend) _) (funext fun instant ↦ ?_)
  refine congrArg (Program.orAbort (settings.since instant) >>= ·) (funext fun since ↦ ?_)
  refine congrArg (Program.call (E := backend) _) (funext fun response ↦ ?_)
  cases response <;> rfl

/-- Recording an event, whatever fails, is an attempt that adds what it inserts. -/
theorem recordEvent_traced {event : DeviceEvent} {recorded : Bool}
    (hdescribes : DeviceEvent.Describes { event with macAddress := normalizeMac event.macAddress }
      device eventType scanner)
    (htraced : Program.Traced Faulty (recordEvent settings event) world trace (some recorded)
      after) :
    ∃ inserted, after.db.deviceEvents = world.db.deviceEvents ++ inserted ∧
      Attempt device eventType scanner trace recorded inserted := by
  rw [recordEvent_eq] at htraced
  obtain ⟨instant, opened, trace, rfl, hclock, hopen⟩ := Program.traced_call_iff.mp htraced
  obtain ⟨since, middle, opening, trace, rfl, hsince, hcount⟩ := Program.traced_bind_some hopen
  obtain ⟨rfl, -, rfl⟩ := Program.traced_orAbort_iff.mp hsince
  obtain ⟨response, checked, trace, rfl, hcheck, hlast⟩ := Program.traced_call_iff.mp hcount
  -- Neither the reading of the clock nor the check touches the table or inserts anything.
  have htable : checked.db = world.db := by
    cases hclock
    cases hcheck <;> rfl
  rw [← htable]
  have hearlier : ∀ answer ∈ ([⟨.now, instant⟩, ⟨.sql (.countDeviceEvents
      (normalizeMac event.macAddress) event.scanner event.eventType since), response⟩] :
      List (Answer backend)), ∀ other, ¬ FailsToInsert other answer := by
    refine List.forall_mem_cons.mpr ⟨fun _ ↦ id, List.forall_mem_singleton.mpr fun _ ↦ ?_⟩
    cases response <;> exact id
  rcases response with error | count
  · exact attempt_of_insert hdescribes hearlier hlast
  · unfold answerCheck at hlast
    simp only [Except.map] at hlast
    cases hduplicate : decide (0 < count) with
    | true =>
      rw [hduplicate] at hlast
      obtain ⟨rfl, hrecorded, rfl⟩ := Program.traced_ret_iff.mp hlast
      cases hrecorded
      exact ⟨[], (List.append_nil _).symm, .duplicate hearlier⟩
    | false =>
      rw [hduplicate] at hlast
      exact attempt_of_insert hdescribes hearlier hlast

theorem recordDeviceEvent_traced {recorded : Bool}
    (htraced : Program.Traced Faulty (recordDeviceEvent settings device eventType scanner) world
      trace (some recorded) after) :
    ∃ inserted, after.db.deviceEvents = world.db.deviceEvents ++ inserted ∧
      Attempt device eventType scanner trace recorded inserted := by
  rw [recordDeviceEvent_eq] at htraced
  obtain ⟨instant, stamped, trace, rfl, hclock, hrecord⟩ := Program.traced_call_iff.mp htraced
  have htable : stamped.db = world.db := by
    cases hclock
    rfl
  rw [← htable]
  have hdescribes : DeviceEvent.Describes
      { DeviceEvent.new device.macAddress instant eventType device.ipv4Address device.vendor scanner
        with macAddress := normalizeMac device.macAddress } device eventType scanner :=
    ⟨rfl, rfl, rfl, rfl, rfl⟩
  obtain ⟨inserted, hevents, hattempt⟩ := recordEvent_traced hdescribes hrecord
  exact ⟨inserted, hevents, hattempt.cons fun _ ↦ id⟩

/-- An attempt that answers `false` or inserts its event loses no change. -/
theorem Attempt.keeps_or_loses {recorded : Bool} {inserted : List DeviceEvent}
    (hattempt : Attempt device eventType scanner trace recorded inserted)
    (hchange : eventType ≠ .deviceSeen) :
    ((recorded = true → ∃ event ∈ inserted, event.Describes device eventType scanner) ∧
        ∀ answer ∈ trace, ¬ LosesChange answer) ∨
      recorded = true ∧ inserted = [] ∧ ∃ answer ∈ trace, LosesChange answer := by
  cases hattempt with
  | duplicate hkept =>
    refine Or.inl ⟨nofun, fun answer hmem ⟨other, _, hfails⟩ ↦ hkept answer hmem other hfails⟩
  | inserted hkept hdescribes =>
    refine Or.inl ⟨fun _ ↦ ⟨_, List.mem_singleton_self _, hdescribes⟩, ?_⟩
    exact fun answer hmem ⟨other, _, hfails⟩ ↦ hkept answer hmem other hfails
  | lost hlost honly =>
    obtain ⟨answer, hmem, hfails⟩ := hlost
    exact Or.inr ⟨rfl, rfl, answer, hmem, eventType, hchange, hfails⟩

/-- What an attempt inserts has its event type. -/
theorem Attempt.eventType_of_mem {recorded : Bool} {inserted : List DeviceEvent}
    (hattempt : Attempt device eventType scanner trace recorded inserted) :
    ∀ event ∈ inserted, event.eventType = eventType := by
  cases hattempt with
  | duplicate hkept => exact List.forall_mem_nil _
  | inserted hkept hdescribes => exact List.forall_mem_singleton.mpr hdescribes.eventType
  | lost hlost honly => exact List.forall_mem_nil _

/-- The row of another type is not among what an attempt inserts. -/
theorem Attempt.exists_append_iff {recorded : Bool} {inserted later : List DeviceEvent}
    {other : DeviceEventType}
    (hattempt : Attempt device eventType scanner trace recorded inserted)
    (hother : other ≠ eventType) :
    (∃ event ∈ inserted ++ later, event.Describes device other scanner) ↔
      ∃ event ∈ later, event.Describes device other scanner := by
  constructor
  · rintro ⟨event, hevent, hdescribes⟩
    refine ⟨event, (List.mem_append.mp hevent).resolve_left fun hfirst ↦ hother ?_, hdescribes⟩
    rw [← hdescribes.eventType, hattempt.eventType_of_mem event hfirst]
  · rintro ⟨event, hevent, hdescribes⟩
    exact ⟨event, List.mem_append_right _ hevent, hdescribes⟩

/-- The `DeviceSeen` event that comes first loses no change, recorded or not. -/
theorem Attempt.deviceSeen_loses_none {recorded : Bool} {inserted : List DeviceEvent}
    (hattempt : Attempt device .deviceSeen scanner trace recorded inserted) :
    ∀ answer ∈ trace, ¬ LosesChange answer := by
  intro answer hmem ⟨eventType, hchange, hfails⟩
  cases hattempt with
  | duplicate hkept => exact hkept answer hmem eventType hfails
  | inserted hkept _ => exact hkept answer hmem eventType hfails
  | lost hlost honly => exact hchange (honly answer hmem eventType hfails)

/-- Recording changes of different types: all that are returned have their rows exactly when no
insertion of one fails. -/
theorem recordChanges_traced {changes returned : List DeviceChange}
    (hdistinct : (changes.map eventTypeFor).Nodup)
    (htraced : Program.Traced Faulty (recordChanges settings device scanner changes) world trace
      (some returned) after) :
    ∃ inserted, after.db.deviceEvents = world.db.deviceEvents ++ inserted ∧
      (∀ event ∈ inserted, event.eventType ∈ changes.map eventTypeFor) ∧
      ((∀ change ∈ returned, ∃ event ∈ inserted,
          event.Describes device (eventTypeFor change) scanner) ↔
        ∀ answer ∈ trace, ¬ LosesChange answer) := by
  induction changes generalizing world trace returned with
  | nil =>
    obtain ⟨rfl, hreturned, rfl⟩ := Program.traced_ret_iff.mp htraced
    cases hreturned
    exact ⟨[], (List.append_nil _).symm, List.forall_mem_nil _,
      iff_of_true (List.forall_mem_nil _) (List.forall_mem_nil _)⟩
  | cons change rest ih =>
    rw [List.map_cons, List.nodup_cons] at hdistinct
    unfold recordChanges at htraced
    obtain ⟨recorded, middle, first, second, rfl, hhead, hrest⟩ := Program.traced_bind_some htraced
    obtain ⟨kept, last, second, third, rfl, htail, hret⟩ := Program.traced_bind_some hrest
    obtain ⟨rfl, hreturned, rfl⟩ := Program.traced_ret_iff.mp hret
    obtain ⟨later, hlater, htypes, hiff⟩ := ih hdistinct.2 htail
    obtain ⟨inserted, hinserted, hattempt⟩ := recordDeviceEvent_traced hhead
    have hsublist := recordChanges_sublist (Program.exec_iff_traced.mpr ⟨_, htail⟩)
    refine ⟨inserted ++ later, ?_, ?_, ?_⟩
    · rw [hlater, hinserted, List.append_assoc]
    · refine List.forall_mem_append.mpr ⟨fun event hevent ↦ ?_, fun event hevent ↦ ?_⟩
      · rw [hattempt.eventType_of_mem event hevent]
        exact List.mem_cons_self
      · exact List.mem_cons_of_mem _ (htypes event hevent)
    · rw [List.append_nil, List.forall_mem_append, ← hiff]
      -- The rows of the head and of the tail are told apart by their types.
      have hothers : (∀ other ∈ kept, ∃ event ∈ inserted ++ later,
            event.Describes device (eventTypeFor other) scanner) ↔
          ∀ other ∈ kept, ∃ event ∈ later,
            event.Describes device (eventTypeFor other) scanner := by
        refine forall₂_congr fun other hother ↦ hattempt.exists_append_iff fun hsame ↦ ?_
        exact hdistinct.1 (List.mem_map.mpr ⟨other, hsublist.subset hother, hsame⟩)
      rcases hattempt.keeps_or_loses (eventTypeFor_ne_deviceSeen change) with
        ⟨hkept, hnone⟩ | ⟨rfl, rfl, hloses⟩
      · rw [← hothers, and_iff_right hnone]
        cases recorded with
        | false =>
          cases hreturned
          exact Iff.rfl
        | true =>
          cases hreturned
          obtain ⟨event, hevent, hdescribes⟩ := hkept rfl
          rw [if_pos rfl, List.forall_mem_cons]
          exact and_iff_right ⟨event, List.mem_append_left _ hevent, hdescribes⟩
      · cases hreturned
        refine iff_of_false (fun hreturned ↦ ?_) fun h ↦ ?_
        · obtain ⟨event, hevent, hdescribes⟩ := hreturned change List.mem_cons_self
          have hmem := htypes event hevent
          rw [hdescribes.eventType] at hmem
          exact hdistinct.1 hmem
        · obtain ⟨answer, hmem, hlost⟩ := hloses
          exact h.1 answer hmem hlost

/-- The added rows are determined by the tables. -/
theorem returnedRecorded_iff {before later : Database} {inserted : List DeviceEvent}
    {returned : List DeviceChange}
    (hinserted : later.deviceEvents = before.deviceEvents ++ inserted) :
    ReturnedRecorded device scanner before later returned ↔
      ∀ change ∈ returned, ∃ event ∈ inserted,
        event.Describes device (eventTypeFor change) scanner := by
  constructor
  · intro ⟨others, hothers, hreturned⟩
    rw [hinserted] at hothers
    rwa [List.append_cancel_left hothers]
  · exact fun hreturned ↦ ⟨inserted, hinserted, hreturned⟩

/-- A new device is returned with its row exactly when the insertion of its event does not fail. -/
theorem recordNewDevice_recorded_iff {returned : Option DeviceChange}
    (htraced : Program.Traced Faulty (recordNewDevice settings device scanner) world trace
      (some returned) after) :
    ReturnedRecorded device scanner world.db after.db returned.toList ↔
      ∀ answer ∈ trace, ¬ LosesChange answer := by
  unfold recordNewDevice at htraced
  obtain ⟨recorded, middle, first, second, rfl, hrecord, hret⟩ := Program.traced_bind_some htraced
  obtain ⟨rfl, hreturned, rfl⟩ := Program.traced_ret_iff.mp hret
  obtain ⟨inserted, hinserted, hattempt⟩ := recordDeviceEvent_traced hrecord
  rw [returnedRecorded_iff hinserted, List.append_nil]
  rcases hattempt.keeps_or_loses nofun with ⟨hkept, hnone⟩ | ⟨rfl, rfl, answer, hmem, hlost⟩
  · refine iff_of_true ?_ hnone
    cases recorded with
    | false =>
      cases hreturned
      exact List.forall_mem_nil _
    | true =>
      cases hreturned
      exact List.forall_mem_singleton.mpr (hkept rfl)
  · cases hreturned
    refine iff_of_false (fun hrecorded ↦ ?_) fun hnone ↦ hnone answer hmem hlost
    obtain ⟨event, hevent, -⟩ := hrecorded _ (List.mem_singleton_self _)
    cases hevent

/-- The changes of a known device are returned with their rows exactly when no insertion of an event
of a change fails. -/
theorem recordKnownDevice_recorded_iff {existing : Device} {returned : List DeviceChange}
    (htraced : Program.Traced Faulty (recordKnownDevice settings existing device scanner) world
      trace (some returned) after) :
    ReturnedRecorded device scanner world.db after.db returned ↔
      ∀ answer ∈ trace, ¬ LosesChange answer := by
  unfold recordKnownDevice at htraced
  obtain ⟨recorded, seen, first, rest, rfl, hseen, hrest⟩ := Program.traced_bind_some htraced
  obtain ⟨instant, read, trace, rfl, hclock, hchanges⟩ := Program.traced_call_iff.mp hrest
  have htable : read.db = seen.db := by
    cases hclock
    rfl
  obtain ⟨baseline, hbaseline, hattempt⟩ := recordDeviceEvent_traced hseen
  obtain ⟨inserted, hinserted, -, hiff⟩ :=
    recordChanges_traced (changesAt_nodup settings existing device instant) hchanges
  rw [htable, hbaseline, List.append_assoc] at hinserted
  rw [returnedRecorded_iff hinserted, List.forall_mem_append, List.forall_mem_cons,
    and_iff_right hattempt.deviceSeen_loses_none, and_iff_right fun ⟨_, _, hfails⟩ ↦ hfails, ← hiff]
  -- The row of the `DeviceSeen` event is the row of no change.
  exact forall₂_congr fun change _ ↦ hattempt.exists_append_iff (eventTypeFor_ne_deviceSeen change)

end Recording

/-- A change is returned only once its event is recorded, exactly when no insertion of the event of
a change fails: for every pattern of failing calls, the two recording functions return only changes
whose rows they have added if and only if that insertion is not among the failures. -/
theorem returned_recorded_iff (settings : Settings) (scanner : DeviceEventScanner)
    {world after : World} {trace : List (Answer backend)} (device : Device) :
    (∀ returned, Program.Traced Faulty (recordNewDevice settings device scanner) world trace
        (some returned) after →
      (ReturnedRecorded device scanner world.db after.db returned.toList ↔
        ∀ answer ∈ trace, ¬ LosesChange answer)) ∧
    ∀ existing returned, Program.Traced Faulty
        (recordKnownDevice settings existing device scanner) world trace (some returned) after →
      (ReturnedRecorded device scanner world.db after.db returned ↔
        ∀ answer ∈ trace, ¬ LosesChange answer) :=
  ⟨fun _ ↦ recordNewDevice_recorded_iff, fun _ _ ↦ recordKnownDevice_recorded_iff⟩

/-- A device that is seen for the first time. -/
def foundDevice : Device := .new "aa:00:00:00:00:01" "10.0.0.1" "Acme" .epoch

/-- The insertion of the event of a new device fails, and the device is returned without a row. -/
theorem returned_without_row :
    ∃ trace after, Program.Traced Faulty (recordNewDevice .default foundDevice .arp)
        (.still .empty .epoch) trace (some (some (.new foundDevice))) after ∧
      ¬ ReturnedRecorded foundDevice .arp .empty after.db [.new foundDevice] := by
  refine ⟨_, _, .call (.answer .now _) (.call (.answer .now _) (.call (.answer _ _)
    (.call (.fail _ _ .pool) (.ret _ _)))), ?_⟩
  rw [@returnedRecorded_iff .arp foundDevice .empty _ [] _ rfl]
  intro hrecorded
  obtain ⟨event, hevent, -⟩ := hrecorded _ (List.mem_singleton_self _)
  cases hevent

/-- Where only the duplicate check fails, the device is returned with its row. -/
theorem returned_recorded_iff_failedCheck :
    ∃ trace after, Program.Traced Faulty (recordNewDevice .default foundDevice .arp)
        (.still .empty .epoch) trace (some (some (.new foundDevice))) after ∧
      ReturnedRecorded foundDevice .arp .empty after.db [.new foundDevice] := by
  have htraced : Program.Traced Faulty (recordNewDevice .default foundDevice .arp)
      (.still .empty .epoch) _ (some (some (.new foundDevice))) _ :=
    .call (.answer .now _) (.call (.answer .now _) (.call (.fail _ _ .pool)
      (.call (.answer _ _) (.ret _ _))))
  have hiff := (returned_recorded_iff .default .arp foundDevice).1 _ htraced
  refine ⟨_, _, htraced, hiff.mpr ?_⟩
  iterate 4 refine List.forall_mem_cons.mpr ⟨fun ⟨_, _, hfails⟩ ↦ hfails, ?_⟩
  exact List.forall_mem_nil _

end Oott
