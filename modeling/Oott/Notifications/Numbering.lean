import Oott.Database.Notifications

/-!
# The numbering of the notifications

The primary key of `notifications` is an integer that SQLite gives out anew once the largest has
been deleted. The notifications are inserted by one task, `main`, each with the time it has just
read from the clock, and the retention sweep deletes by that time. So as long as the clock is not
set back the ids count the insertions since the table was last empty, and an id is given a second
time only after every row had been purged (`notification_ids`).

The invariant is `Numbered`: the rows are in the order of their ids and of their texts, the last row
has the count as its id, and no text is later than what `main` has last read from the clock.
-/

set_option autoImplicit false
set_option relaxedAutoImplicit false

namespace Oott

open Effects Instant

/-! ### The ids along a run -/

section Moves

variable {ι : Type} {α : ι → Type}

/-- The id that a move has given to a new row. -/
def insertedId (move : Move notificationBackend ι α StoredNotifications) : Option Int :=
  match move.op, move.response with
  | .sql (.insert _), .ok id => some id
  | _, _ => none

/-- The time that a move has read from the clock. -/
def reading (move : Move notificationBackend ι α StoredNotifications) : Option Instant :=
  match move.op, move.response with
  | .now, instant => some instant
  | _, _ => none

/-- The rows inserted since the table was last empty. -/
def insertedSinceEmpty : List (Move notificationBackend ι α StoredNotifications) → ℕ
  | [] => 0
  | move :: earlier =>
    (if (insertedId move).isSome then 1 else 0) +
      if move.before.state.rows = [] then 0 else insertedSinceEmpty earlier

/-- The clock is not set back along the run, and stays in the years of four digits. -/
structure ForwardClock (trace : List (Move notificationBackend ι α StoredNotifications)) :
    Prop where
  forward : trace.Pairwise fun later earlier ↦
    ∀ instant ∈ reading later, ∀ before ∈ reading earlier, before ≤ instant
  fourDigitYear : ∀ move ∈ trace, ∀ instant ∈ reading move, instant.FourDigitYear

theorem ForwardClock.of_cons {move : Move notificationBackend ι α StoredNotifications}
    {trace : List (Move notificationBackend ι α StoredNotifications)}
    (hclock : ForwardClock (move :: trace)) : ForwardClock trace :=
  ⟨(List.pairwise_cons.mp hclock.forward).2, fun earlier hmem ↦
    hclock.fourDigitYear earlier (List.mem_cons_of_mem _ hmem)⟩

theorem ForwardClock.of_suffix
    {earlier trace : List (Move notificationBackend ι α StoredNotifications)}
    (hclock : ForwardClock trace) (hsuffix : earlier <:+ trace) : ForwardClock earlier :=
  ⟨hclock.forward.sublist hsuffix.sublist, fun move hmem ↦
    hclock.fourDigitYear move (hsuffix.subset hmem)⟩

end Moves

/-! ### What each statement keeps -/

/-- No text sorts before an earlier one: the order of texts, as SQLite compares them. -/
def TextsInOrder (first second : String) : Prop := ¬ second < first

theorem TextsInOrder.refl (text : String) : TextsInOrder text text := String.lt_irrefl text

theorem TextsInOrder.trans {first second third : String} (hfirst : TextsInOrder first second)
    (hsecond : TextsInOrder second third) : TextsInOrder first third :=
  String.not_lt.mpr (String.le_trans (String.not_lt.mp hfirst) (String.not_lt.mp hsecond))

theorem TextsInOrder.lt_of_lt {first second third : String} (hfirst : TextsInOrder first second)
    (hlt : second < third) : first < third :=
  Std.lt_of_le_of_lt (String.not_lt.mp hfirst) hlt

/-- The rows are in the order of their ids and of their texts, the last has the count as its id, and
no text is later than that of the latest reading. -/
structure Numbered (latest : Option Instant) (count : ℕ) (table : StoredNotifications) : Prop where
  ascending : table.rows.Pairwise fun first second ↦
    first.record.id < second.record.id ∧ TextsInOrder first.timestamp second.timestamp
  last_id : ∀ row ∈ table.rows.getLast?, row.record.id = count
  written : ∀ row ∈ table.rows, ∃ instant ∈ latest,
    TextsInOrder row.timestamp (toRfc3339Opts instant .nanos)

namespace StoredNotifications

variable {table : StoredNotifications}

/-- The next id is one more than the last, where the ids ascend. -/
theorem nextId_eq {last : Stored Notification}
    (hascending : table.rows.Pairwise fun first second ↦ first.record.id < second.record.id)
    (hlast : table.rows.getLast? = some last) (hpositive : 0 ≤ last.record.id) :
    table.nextId = last.record.id + 1 := by
  have hmax : ∀ (ids : List Int) (bound : Int), 0 ≤ bound → (∀ id ∈ ids, id ≤ bound) →
      ids.foldr max 0 ≤ bound := by
    intro ids bound hbound hids
    induction ids with
    | nil => exact hbound
    | cons id ids ih =>
      obtain ⟨hid, hrest⟩ := List.forall_mem_cons.mp hids
      exact max_le hid (ih hrest)
  have hlower : last.record.id < table.nextId := id_lt_nextId (List.mem_of_getLast? hlast)
  have hupper : table.nextId ≤ last.record.id + 1 := by
    refine Int.add_le_add_right (hmax _ _ hpositive fun id hid ↦ ?_) 1
    obtain ⟨row, hrow, rfl⟩ := List.mem_map.mp hid
    obtain ⟨init, hinit⟩ := List.getLast?_eq_some_iff.mp hlast
    rw [hinit] at hascending hrow
    rcases List.mem_append.mp hrow with hearlier | hsame
    · have hlt : row.record.id < last.record.id :=
        (List.pairwise_append.mp hascending).2.2 row hearlier last List.mem_cons_self
      exact hlt.le
    · rw [List.mem_singleton.mp hsame]
  omega

theorem nextId_of_nil (hrows : table.rows = []) : table.nextId = 1 := by
  unfold nextId
  rw [hrows]
  rfl

end StoredNotifications

namespace Numbered

variable {latest : Option Instant} {count : ℕ} {table : StoredNotifications}

/-- The empty table is numbered, whatever the count is. -/
theorem of_nil (hrows : table.rows = []) : Numbered latest count table := by
  refine ⟨by rw [hrows]; exact List.Pairwise.nil, fun row hrow ↦ ?_, fun row hrow ↦ ?_⟩
  · rw [hrows] at hrow
    cases hrow
  · rw [hrows] at hrow
    cases hrow

/-- The texts that are no later than a reading are no later than the next. -/
theorem reading_le {instant : Instant} (hnumbered : Numbered latest count table)
    (hle : ∀ before ∈ latest,
      TextsInOrder (toRfc3339Opts before .nanos) (toRfc3339Opts instant .nanos)) :
    Numbered (some instant) count table := by
  refine ⟨hnumbered.ascending, hnumbered.last_id, fun row hrow ↦ ⟨instant, rfl, ?_⟩⟩
  obtain ⟨before, hbefore, htext⟩ := hnumbered.written row hrow
  exact htext.trans (hle before hbefore)

theorem flag (hnumbered : Numbered latest count table) (isNew : Bool)
    (where' : Notification → Bool) : Numbered latest count (table.flag isNew where') := by
  refine ⟨?_, fun row hrow ↦ ?_, fun row hrow ↦ ?_⟩
  · show (table.rows.map _).Pairwise _
    rw [List.pairwise_map]
    simpa only [StoredNotifications.flagRow_id, StoredNotifications.flagRow_timestamp]
      using hnumbered.ascending
  · change row ∈ (table.rows.map _).getLast? at hrow
    rw [List.getLast?_map, Option.mem_map] at hrow
    obtain ⟨old, hold, rfl⟩ := hrow
    rw [StoredNotifications.flagRow_id]
    exact hnumbered.last_id old hold
  · obtain ⟨old, hold, rfl⟩ := List.mem_map.mp hrow
    rw [StoredNotifications.flagRow_timestamp]
    exact hnumbered.written old hold

/-- A purge that leaves any row leaves the last, whose text is the latest. -/
theorem purge (hnumbered : Numbered latest count table) (cutoff : Instant) :
    Numbered latest count (table.purge cutoff) := by
  refine ⟨hnumbered.ascending.filter _, fun row hrow ↦ ?_, fun row hrow ↦
    hnumbered.written row (List.mem_of_mem_filter hrow)⟩
  have hmem : row ∈ (table.purge cutoff).rows := List.mem_of_getLast? hrow
  obtain ⟨hrows, hkept⟩ := List.mem_filter.mp hmem
  rcases List.eq_nil_or_concat table.rows with hnil | ⟨init, last, hconcat⟩
  · rw [hnil] at hrows
    cases hrows
  · rw [List.concat_eq_append] at hconcat
    have hlast : table.rows.getLast? = some last := by rw [hconcat, List.getLast?_concat]
    have hascending := hnumbered.ascending
    rw [hconcat] at hascending hrows
    have hle : TextsInOrder row.timestamp last.timestamp := by
      rcases List.mem_append.mp hrows with hearlier | hsame
      · exact ((List.pairwise_append.mp hascending).2.2 row hearlier last
          (List.mem_singleton.mpr rfl)).2
      · rw [List.mem_singleton.mp hsame]
        exact .refl _
    have hlastKept : ¬ last.timestamp < toRfc3339 cutoff := fun hlt ↦
      of_decide_eq_true hkept (hle.lt_of_lt hlt)
    have hpurged : (table.purge cutoff).rows.getLast? = some last := by
      show (table.rows.filter _).getLast? = _
      rw [hconcat, List.filter_append, List.filter_singleton, decide_eq_true hlastKept, cond_true,
        List.getLast?_concat]
    rw [Option.mem_def.mp hrow, Option.some.injEq] at hpurged
    rw [hpurged]
    exact hnumbered.last_id last hlast

/-- An insertion with the latest reading: the new row is the last, and its id is the new count. -/
theorem insert {notification : Notification}
    (hnumbered : Numbered (some notification.createdOn) count table) :
    table.nextId = (1 + if table.rows = [] then 0 else count : ℕ) ∧
      Numbered (some notification.createdOn) (1 + if table.rows = [] then 0 else count)
        (table.insert notification) := by
  have hid : table.nextId = (1 + if table.rows = [] then 0 else count : ℕ) := by
    by_cases hrows : table.rows = []
    · rw [if_pos hrows, StoredNotifications.nextId_of_nil hrows]
      rfl
    · have hlast := List.getLast?_eq_some_getLast hrows
      have hcount := hnumbered.last_id _ hlast
      rw [if_neg hrows, StoredNotifications.nextId_eq
        (hnumbered.ascending.imp fun hordered ↦ hordered.1) hlast (by omega), hcount]
      omega
  refine ⟨hid, List.pairwise_append.mpr ⟨hnumbered.ascending, List.pairwise_singleton _ _, ?_⟩,
    fun row hrow ↦ ?_, fun row hrow ↦ ?_⟩
  · intro row hrow added hadded
    rw [List.mem_singleton.mp hadded]
    obtain ⟨instant, hinstant, htext⟩ := hnumbered.written row hrow
    rw [← Option.mem_some_iff.mp hinstant] at htext
    exact ⟨StoredNotifications.id_lt_nextId hrow, htext⟩
  · change row ∈ (table.rows ++ [_]).getLast? at hrow
    rw [List.getLast?_concat] at hrow
    rw [← Option.mem_some_iff.mp hrow]
    exact hid
  · rcases List.mem_append.mp hrow with hold | hnew
    · exact hnumbered.written row hold
    · rw [List.mem_singleton.mp hnew]
      exact ⟨notification.createdOn, rfl, .refl _⟩

end Numbered

/-! ### The insertions of `main` -/

/-- What `main` remembers: the time it has last read from the clock. -/
def latestReading (latest : Option Instant) :
    (op : NotificationCall) → notificationBackend.Response op → Option Instant
  | .now, instant => some instant
  | .sql _, _ => latest
  | .enqueue _, _ => latest

/-- A notification is inserted with the time that has last been read. -/
def StampedLatest (latest : Option Instant) : NotificationCall → Prop
  | .sql (.insert notification) => latest = some notification.createdOn
  | _ => True

/-- A call that inserts no notification. -/
def NotificationCall.InsertsNothing : NotificationCall → Prop
  | .sql (.insert _) => False
  | _ => True

/-- The calls of `notify` that `main` makes, one for the changes of each scan. -/
def notifyScans (durationString : StdDuration → String) (scans : List (List DeviceChange)) :
    Program notificationBackend Unit :=
  (scans.forM (notify durationString)).translate notifying

theorem notifyScans_guarded (durationString : StdDuration → String)
    (scans : List (List DeviceChange)) :
    (notifyScans durationString scans).Guarded latestReading StampedLatest none := by
  have hnotice (latest : Option Instant) (notice : Notice) :
      ((persistAndDeliver notice).translate notifying).Guarded latestReading StampedLatest
        latest := by
    refine ⟨trivial, fun instant ↦ ⟨rfl, fun result ↦ ?_⟩⟩
    cases result with
    | error error => trivial
    | ok id => exact ⟨trivial, fun _ ↦ trivial⟩
  unfold notifyScans
  rw [Program.translate_forM]
  refine Program.Guarded.forM fun latest changes ↦ ?_
  unfold notify
  rw [Program.translate_forM]
  exact Program.Guarded.forM hnotice

/-! ### Along a run -/

/-- A table without rows has any count. -/
theorem Numbered.recount {latest : Option Instant} {count : ℕ} {table : StoredNotifications}
    (hnumbered : Numbered latest count table) :
    Numbered latest (0 + if table.rows = [] then 0 else count) table := by
  by_cases hrows : table.rows = []
  · exact .of_nil hrows
  · rwa [if_neg hrows, Nat.zero_add]

/-- An earlier instant has no later text. -/
theorem textsInOrder_of_le {first second : Instant} (hfirst : first.FourDigitYear)
    (hsecond : second.FourDigitYear) (hle : first ≤ second) :
    TextsInOrder (toRfc3339Opts first .nanos) (toRfc3339Opts second .nanos) := fun hlt ↦
  not_lt_of_ge hle ((stored_lt_iff hsecond hfirst.2).mp hlt)

section Run

variable {ι : Type} {α : ι → Type} [DecidableEq ι] {main : ι}
  {start last : Configuration notificationBackend ι α StoredNotifications}
  {trace : List (Move notificationBackend ι α StoredNotifications)}

/-- What `main` recalls has been read from the clock. -/
theorem exists_reading_of_recalled {instant : Instant}
    (hrecalled : recalled latestReading none main trace = some instant) :
    ∃ move ∈ trace, reading move = some instant := by
  induction trace with
  | nil => cases hrecalled
  | cons move earlier ih =>
    have hlater (hearlier : recalled latestReading none main earlier = some instant) :
        ∃ latest ∈ move :: earlier, reading latest = some instant := by
      obtain ⟨latest, hmem, hreading⟩ := ih hearlier
      exact ⟨latest, List.mem_cons_of_mem _ hmem, hreading⟩
    by_cases hmain : move.thread = main
    · rw [recalled_cons_self hmain] at hrecalled
      obtain ⟨before, thread, op, response⟩ := move
      cases op with
      | now => exact ⟨_, List.mem_cons_self, hrecalled⟩
      | sql => exact hlater hrecalled
      | enqueue => exact hlater hrecalled
    · rw [recalled_cons_of_ne hmain] at hrecalled
      exact hlater hrecalled

/-- Where only `main` inserts, every call is stamped with what `main` recalls. -/
theorem stamped_of_step {move : Move notificationBackend ι α StoredNotifications}
    {after : Configuration notificationBackend ι α StoredNotifications}
    (hbefore : Interleaving NotificationFaulty start trace move.before)
    (hmain : (start.threads main).Guarded latestReading StampedLatest none)
    (hothers : ∀ i, i ≠ main → (start.threads i).Always NotificationCall.InsertsNothing)
    (hstep : Step NotificationFaulty move after) :
    StampedLatest (recalled latestReading none main trace) move.op := by
  by_cases hi : move.thread = main
  · subst hi
    exact Step.allowed_of_guarded (hbefore.guarded hmain) hstep
  · have hnothing := hbefore.allowed_of_always (hothers _ hi) hstep
    obtain ⟨before, thread, op, response⟩ := move
    cases op with
    | now => trivial
    | enqueue => trivial
    | sql statement => cases statement <;> trivial

/-- The invariant of the runs in which only `main` inserts. -/
theorem numbered_of_run
    (hmain : (start.threads main).Guarded latestReading StampedLatest none)
    (hothers : ∀ i, i ≠ main → (start.threads i).Always NotificationCall.InsertsNothing)
    (hstart : start.state = .empty) (hrun : Interleaving NotificationFaulty start trace last)
    (hclock : ForwardClock trace) :
    Numbered (recalled latestReading none main trace) (insertedSinceEmpty trace) last.state := by
  induction hrun with
  | start =>
    rw [hstart]
    exact .of_nil rfl
  | @step trace move after hbefore hstep ih =>
    have hnumbered := ih hclock.of_cons
    have hallowed := stamped_of_step hbefore hmain hothers hstep
    obtain ⟨before, thread, op, response⟩ := move
    obtain ⟨-, -, hcall, -⟩ := hstep.exists_next
    have hrecounted := hnumbered.recount
    dsimp only at hcall hallowed hrecounted
    -- What `main` recalls changes with its own readings only.
    have hrecalled (hop : ∀ latest, latestReading latest op response = latest) :
        recalled latestReading none main (⟨before, thread, op, response⟩ :: trace) =
          recalled latestReading none main trace := by
      by_cases hthread : thread = main
      · rw [recalled_cons_self hthread, hop]
      · exact recalled_cons_of_ne hthread
    generalize after.state = table at hcall ⊢
    cases hcall with
    | now instant =>
      by_cases hthread : thread = main
      · rw [recalled_cons_self hthread]
        refine hrecounted.reading_le fun earlier hearlier ↦ ?_
        obtain ⟨other, hmem, hreading⟩ := exists_reading_of_recalled hearlier
        exact textsInOrder_of_le
          (hclock.fourDigitYear other (List.mem_cons_of_mem _ hmem) _ hreading)
          (hclock.fourDigitYear _ List.mem_cons_self instant rfl)
          ((List.pairwise_cons.mp hclock.forward).1 other hmem instant rfl _ hreading)
      · rw [recalled_cons_of_ne hthread]
        exact hrecounted
    | enqueue =>
      rw [hrecalled fun _ ↦ rfl]
      exact hrecounted
    | fail statement =>
      rw [hrecalled fun _ ↦ rfl]
      cases statement <;> exact hrecounted
    | @answer statement _ result hanswers =>
      rw [hrecalled fun _ ↦ rfl]
      cases statement with
      | select => exact hrecounted
      | list => exact hrecounted
      | count => exact hrecounted
      | purgeOlderThan cutoff => exact hrecounted.purge cutoff
      | markAsOld => exact hrecounted.flag _ _
      | markAsNew => exact hrecounted.flag _ _
      | markAllAsOld => exact hrecounted.flag _ _
      | insert notification =>
        have hlatest : recalled latestReading none main trace = some notification.createdOn :=
          hallowed
        rw [hlatest] at hnumbered ⊢
        exact hnumbered.insert.2

omit [DecidableEq ι] in
/-- The count of a run in whose last moves the table was never empty is no less than it was before
them. -/
theorem insertedSinceEmpty_le
    {later earlier : List (Move notificationBackend ι α StoredNotifications)}
    (hrows : ∀ move ∈ later, move.before.state.rows ≠ []) :
    insertedSinceEmpty earlier ≤ insertedSinceEmpty (later ++ earlier) := by
  induction later with
  | nil => exact le_rfl
  | cons move later ih =>
    obtain ⟨hmove, hlater⟩ := List.forall_mem_cons.mp hrows
    show _ ≤ _ + if move.before.state.rows = [] then 0 else insertedSinceEmpty (later ++ earlier)
    rw [if_neg hmove]
    exact (ih hlater).trans (Nat.le_add_left _ _)

/-- In a run in which only `main` inserts, an inserted row gets the count of the insertions as its
id. -/
theorem insertedId_eq_count
    (hmain : (start.threads main).Guarded latestReading StampedLatest none)
    (hothers : ∀ i, i ≠ main → (start.threads i).Always NotificationCall.InsertsNothing)
    (hstart : start.state = .empty) (hrun : Interleaving NotificationFaulty start trace last)
    (hclock : ForwardClock trace) {move : Move notificationBackend ι α StoredNotifications}
    {earlier : List (Move notificationBackend ι α StoredNotifications)}
    (hsuffix : move :: earlier <:+ trace) {id : Int} (hid : insertedId move = some id) :
    id = insertedSinceEmpty (move :: earlier) := by
  obtain ⟨later, hlater⟩ := hsuffix
  rw [← hlater] at hrun
  obtain ⟨hbefore, after, hstep, -⟩ := hrun.split
  have hnumbered := numbered_of_run hmain hothers hstart hbefore
    (hclock.of_suffix ((List.suffix_cons move earlier).trans ⟨later, hlater⟩))
  have hallowed := stamped_of_step hbefore hmain hothers hstep
  obtain ⟨before, thread, op, response⟩ := move
  obtain ⟨-, -, hcall, -⟩ := hstep.exists_next
  dsimp only at hcall hallowed hnumbered
  generalize after.state = table at hcall
  cases hcall with
  | now => cases hid
  | enqueue => cases hid
  | fail statement => cases statement <;> cases hid
  | @answer statement _ result hanswers =>
    cases statement with
    | insert notification =>
      have hlatest : recalled latestReading none main earlier = some notification.createdOn :=
        hallowed
      have hgiven : result = before.state.nextId := hanswers
      rw [hlatest] at hnumbered
      rw [← Option.some.inj hid, hgiven]
      exact hnumbered.insert.1
    | _ => cases hid

end Run

/-- As long as the clock is not set back, the id of a new notification is the number of those
inserted since the table was last empty. In every interleaving of the calls of `notify`, for any
scans, with requests and sweeps that insert nothing, so it is for every insertion; and between two
insertions that get the same id the table has been empty. -/
theorem notification_ids {κ : Type} [DecidableEq κ] {β : κ → Type}
    (durationString : StdDuration → String) (scans : List (List DeviceChange))
    (others : (i : κ) → Program notificationBackend (β i))
    (hothers : ∀ i, (others i).Always NotificationCall.InsertsNothing)
    {trace : List (Move notificationBackend (Option κ) (fun i ↦ i.elim Unit β)
      StoredNotifications)}
    {last : Configuration notificationBackend (Option κ) (fun i ↦ i.elim Unit β)
      StoredNotifications}
    (hrun : Interleaving NotificationFaulty
      (besides (notifyScans durationString scans) others) trace last)
    (hclock : ForwardClock trace) :
    (∀ move earlier id, move :: earlier <:+ trace → insertedId move = some id →
      id = insertedSinceEmpty (move :: earlier)) ∧
    ∀ second between first earlier id, second :: (between ++ first :: earlier) <:+ trace →
      insertedId first = some id → insertedId second = some id →
        ∃ move ∈ second :: between, move.before.state.rows = [] := by
  have hid : ∀ move earlier id, move :: earlier <:+ trace → insertedId move = some id →
      id = insertedSinceEmpty (move :: earlier) := by
    intro move earlier id hsuffix hid
    have hmain : ((besides (notifyScans durationString scans) others).threads none).Guarded
        latestReading StampedLatest none := notifyScans_guarded durationString scans
    refine insertedId_eq_count hmain (fun i hi ↦ ?_) rfl hrun hclock hsuffix hid
    cases i with
    | none => exact absurd rfl hi
    | some i => exact hothers i
  refine ⟨hid, fun second between first earlier id hsuffix hfirst hsecond ↦ ?_⟩
  by_contra hnone
  have hrows : ∀ move ∈ second :: between, move.before.state.rows ≠ [] := fun move hmem hrows ↦
    hnone ⟨move, hmem, hrows⟩
  have hcount : id = insertedSinceEmpty (second :: (between ++ first :: earlier)) :=
    hid _ _ _ hsuffix hsecond
  have hearlier : id = insertedSinceEmpty (first :: earlier) :=
    hid _ _ _ ((List.suffix_append (second :: between) (first :: earlier)).trans hsuffix) hfirst
  obtain ⟨hlatest, hbetween⟩ := List.forall_mem_cons.mp hrows
  have hle : insertedSinceEmpty (first :: earlier) ≤
      insertedSinceEmpty (between ++ first :: earlier) := insertedSinceEmpty_le hbetween
  have hmore : insertedSinceEmpty (second :: (between ++ first :: earlier)) =
      1 + insertedSinceEmpty (between ++ first :: earlier) := by
    show (if (insertedId second).isSome then 1 else 0) + (if _ then 0 else _) = _
    rw [hsecond, if_neg hlatest]
    rfl
  omega

/-- Two scans that each find a device, and a sweep after the first that purges its notification: the
second notification gets the id of the first. -/
def purgedBetween :
    List (Move notificationBackend (Option Unit)
      (fun i ↦ i.elim Unit fun _ ↦ Except DbError ℕ) StoredNotifications) ×
    Configuration notificationBackend (Option Unit)
      (fun i ↦ i.elim Unit fun _ ↦ Except DbError ℕ) StoredNotifications :=
  (besides (notifyScans (fun _ ↦ "")
      [[.new (.new "aa:00:00:00:00:01" "10.0.0.1" "Acme" .epoch)],
        [.new (.new "aa:00:00:00:00:02" "10.0.0.2" "Acme" .epoch)]])
    fun _ : Unit ↦ Db.Notifications.purgeOlderThan ⟨10 ^ 9, by decide⟩).follow (answering .epoch)
      [none, none, none, some (), none, none, none]

/-- The id 1 is given twice, and the table was empty in between. -/
theorem notification_ids_purgedBetween :
    purgedBetween.1.filterMap insertedId = [1, 1] ∧
      ∀ second between first earlier id,
        second :: (between ++ first :: earlier) <:+ purgedBetween.1 →
        insertedId first = some id → insertedId second = some id →
          ∃ move ∈ second :: between, move.before.state.rows = [] := by
  have hpurge (cutoff : Instant) :
      (Db.Notifications.purgeOlderThan cutoff).Always NotificationCall.InsertsNothing :=
    Program.always_perform trivial
  refine ⟨by decide +kernel, (notification_ids (fun _ ↦ "") _ _ (fun _ ↦ hpurge _)
    (Interleaving.follow (NotificationFaulty.allows_answering .epoch) _ _) ⟨?_, ?_⟩).2⟩
  · show purgedBetween.1.Pairwise _
    decide +kernel
  · show ∀ move ∈ purgedBetween.1, _
    decide +kernel

end Oott
