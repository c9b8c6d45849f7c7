import Oott.Effects.Sequential
import Oott.Model.Time
import Mathlib.Data.List.AList
import Mathlib.Data.List.Dedup

/-!
# The status of a passive scanner

`scanners/common/passive_status.rs`: the last sighting of every MAC, and a snapshot that counts
those of the last hour and forgets the others. Each function is given the instant it reads from the
clock; `snapshot` panics, here `none`, where an hour before that instant is not in the calendar. On
a clock that does not run backwards what a snapshot forgets is of no use to a later one, so that
every snapshot reports what the discoveries alone determine (`snapshot_exact`).
-/

set_option autoImplicit false
set_option relaxedAutoImplicit false

namespace Oott

open Effects

/-- `RECENT_WINDOW_SECONDS`. -/
def recentWindowSeconds : UInt64 := 3600

/-- `Duration::seconds(RECENT_WINDOW_SECONDS)`. -/
def recentWindow : TimeDelta := ⟨(StdDuration.fromSecs recentWindowSeconds).nanos, by decide⟩

/-- `HashMap<String, DateTime<Utc>>`. -/
abbrev SightingTimes := AList fun _ : String ↦ Instant

/-- `HashMap::retain`, by the time. -/
def SightingTimes.retain (times : SightingTimes) (kept : Instant → Bool) : SightingTimes where
  entries := times.entries.filter fun entry ↦ kept entry.2
  nodupKeys := times.nodupKeys.sublist List.filter_sublist

/-- `PassiveStatus`. -/
structure PassiveStatus where
  isListening : Bool := false
  listeningSince : Option Instant := none
  recentSightings : SightingTimes := ∅
  lastDiscoveryAt : Option Instant := none

/-- `PassiveSnapshot`. -/
structure PassiveSnapshot where
  isListening : Bool
  listeningSince : Option Instant
  devicesLastHour : ℕ
  lastDiscoveryAt : Option Instant

namespace PassiveStatus

/-- `PassiveStatus::new`. -/
def new : PassiveStatus := {}

/-- `set_listening`. -/
def setListening (status : PassiveStatus) (now : Instant) : PassiveStatus :=
  { status with isListening := true, listeningSince := some now }

/-- `record_discovery`. -/
def recordDiscovery (status : PassiveStatus) (mac : String) (now : Instant) : PassiveStatus :=
  { status with
    recentSightings := status.recentSightings.insert mac now
    lastDiscoveryAt := some now }

/-- The pruning of `snapshot`. -/
def prune (status : PassiveStatus) (cutoff : Instant) : PassiveStatus :=
  { status with recentSightings := status.recentSightings.retain fun seen ↦ cutoff ≤ seen }

/-- `snapshot`. -/
def snapshot (status : PassiveStatus) (now : Instant) : Option (PassiveSnapshot × PassiveStatus) :=
  (now.sub recentWindow).map fun cutoff ↦
    let status := status.prune cutoff
    ({ isListening := status.isListening
       listeningSince := status.listeningSince
       devicesLastHour := status.recentSightings.entries.length
       lastDiscoveryAt := status.lastDiscoveryAt }, status)

end PassiveStatus

/-- A call of a function of `PassiveStatus`. -/
inductive PassiveCall
  | setListening
  | recordDiscovery (mac : String)
  | snapshot

/-- What a call returns. -/
abbrev PassiveCall.Outcome : PassiveCall → Type
  | setListening => Unit
  | recordDiscovery _ => Unit
  | snapshot => PassiveSnapshot

/-- A call at an instant: what it returns, unless it panics, and the status it leaves. -/
def PassiveStatus.Performs : (timed : Timed Instant PassiveCall) → PassiveStatus →
    Option timed.activity.Outcome → PassiveStatus → Prop
  | ⟨now, .setListening⟩, before, outcome, after =>
    outcome = some () ∧ after = before.setListening now
  | ⟨now, .recordDiscovery mac⟩, before, outcome, after =>
    outcome = some () ∧ after = before.recordDiscovery mac now
  | ⟨now, .snapshot⟩, before, outcome, after =>
    match before.snapshot now with
    | some (snapshot, status) => outcome = some snapshot ∧ after = status
    | none => outcome = none ∧ after = before

/-- The calls made so far, the latest first. -/
abbrev PassiveHistory :=
  List (Completed (Timed Instant PassiveCall) (fun timed ↦ timed.activity.Outcome) PassiveStatus)

/-- The MAC and the time of a call that is a discovery. -/
def Timed.asDiscovery : Timed Instant PassiveCall → Option (String × Instant)
  | ⟨now, .recordDiscovery mac⟩ => some (mac, now)
  | _ => none

/-- The discoveries of a history, the latest first. -/
def discoveries (history : PassiveHistory) : List (String × Instant) :=
  history.filterMap fun completed ↦ Timed.asDiscovery completed.activity

/-- The MACs whose latest discovery was at the cutoff or after it. -/
def macsSince (discovered : List (String × Instant)) (cutoff : Instant) : List String :=
  (discovered.map Prod.fst).dedup.filter fun mac ↦ (discovered.lookup mac).any (cutoff ≤ ·)

/-- A snapshot of a history: when it was taken, the discoveries before it, and what it says. -/
structure PassiveReport where
  time : Instant
  discovered : List (String × Instant)
  snapshot : PassiveSnapshot

/-- The snapshots of a history that did not panic, the latest first. -/
def reports : PassiveHistory → List PassiveReport
  | [] => []
  | ⟨_, ⟨now, .snapshot⟩, some snapshot, _⟩ :: earlier =>
    ⟨now, discoveries earlier, snapshot⟩ :: reports earlier
  | _ :: earlier => reports earlier

/-- A snapshot counts the MACs whose latest discovery is no older than an hour, and gives the time
of the latest discovery. -/
def PassiveReport.Exact (report : PassiveReport) : Prop :=
  ∃ cutoff, report.time.sub recentWindow = some cutoff ∧
    report.snapshot.devicesLastHour = (macsSince report.discovered cutoff).length ∧
    report.snapshot.lastDiscoveryAt = report.discovered.head?.map Prod.snd

/-! ### What the map holds -/

theorem SightingTimes.mem_lookup_retain {times : SightingTimes} {kept : Instant → Bool}
    {mac : String} {seen : Instant} :
    seen ∈ (times.retain kept).lookup mac ↔ seen ∈ times.lookup mac ∧ kept seen = true := by
  rw [AList.mem_lookup_iff, AList.mem_lookup_iff]
  exact List.mem_filter

/-- What the discoveries of a history make of a status. An entry of the map is the latest discovery
of its MAC, and a latest discovery without an entry is older than what a snapshot looked back to. -/
structure PassiveStatus.Follows (history : PassiveHistory) (status : PassiveStatus) : Prop where
  lastDiscoveryAt : status.lastDiscoveryAt = (discoveries history).head?.map Prod.snd
  latest : ∀ mac seen, seen ∈ status.recentSightings.lookup mac →
    (discoveries history).lookup mac = some seen
  kept : ∀ mac seen, (discoveries history).lookup mac = some seen →
    seen ∈ status.recentSightings.lookup mac ∨ ∃ earlier ∈ history, ∃ cutoff,
      earlier.activity.time.sub recentWindow = some cutoff ∧ seen < cutoff

section Steps

variable {history : PassiveHistory} {status : PassiveStatus}

theorem PassiveStatus.Follows.new : PassiveStatus.new.Follows [] where
  lastDiscoveryAt := rfl
  latest := by
    intro mac seen hseen
    cases hseen
  kept := by
    intro mac seen hseen
    cases hseen

/-- An older reason for a missing entry remains one. -/
theorem PassiveStatus.Follows.kept_cons (hfollows : status.Follows history)
    (latest : Completed (Timed Instant PassiveCall) (fun timed ↦ timed.activity.Outcome)
      PassiveStatus) {mac : String} {seen : Instant}
    (hseen : (discoveries history).lookup mac = some seen) :
    seen ∈ status.recentSightings.lookup mac ∨ ∃ earlier ∈ latest :: history, ∃ cutoff,
      earlier.activity.time.sub recentWindow = some cutoff ∧ seen < cutoff := by
  rcases hfollows.kept mac seen hseen with hmem | ⟨earlier, hearlier, hcutoff⟩
  · exact Or.inl hmem
  · exact Or.inr ⟨earlier, List.mem_cons_of_mem _ hearlier, hcutoff⟩

/-- Every call makes of the status what it makes of the discoveries. -/
theorem PassiveStatus.Follows.step
    {completed : Completed (Timed Instant PassiveCall) (fun timed ↦ timed.activity.Outcome)
      PassiveStatus}
    (hperform : PassiveStatus.Performs completed.activity completed.before completed.outcome
      completed.after)
    (hfollows : completed.before.Follows history) :
    completed.after.Follows (completed :: history) := by
  obtain ⟨before, ⟨now, call⟩, outcome, after⟩ := completed
  cases call with
  | setListening =>
    change _ ∧ after = before.setListening now at hperform
    obtain ⟨-, rfl⟩ := hperform
    exact ⟨hfollows.lastDiscoveryAt, hfollows.latest, fun mac seen ↦ hfollows.kept_cons _⟩
  | recordDiscovery mac =>
    change _ ∧ after = before.recordDiscovery mac now at hperform
    obtain ⟨-, rfl⟩ := hperform
    have hdiscoveries : discoveries
        (⟨before, ⟨now, .recordDiscovery mac⟩, outcome, before.recordDiscovery mac now⟩ ::
          history) = (mac, now) :: discoveries history := rfl
    refine ⟨rfl, fun other seen hseen ↦ ?_, fun other seen hseen ↦ ?_⟩
    · rw [hdiscoveries]
      change seen ∈ (before.recentSightings.insert mac now).lookup other at hseen
      by_cases hsame : other = mac
      · subst hsame
        rw [AList.lookup_insert, Option.mem_some_iff] at hseen
        rw [List.lookup_cons_self, hseen]
      · rw [AList.lookup_insert_ne hsame] at hseen
        rw [List.lookup_cons, beq_false_of_ne hsame]
        exact hfollows.latest other seen hseen
    · rw [hdiscoveries] at hseen
      change seen ∈ (before.recentSightings.insert mac now).lookup other ∨ _
      by_cases hsame : other = mac
      · subst hsame
        rw [List.lookup_cons_self] at hseen
        rw [AList.lookup_insert]
        exact Or.inl hseen
      · rw [List.lookup_cons, beq_false_of_ne hsame] at hseen
        rw [AList.lookup_insert_ne hsame]
        exact hfollows.kept_cons _ hseen
  | snapshot =>
    unfold Performs snapshot at hperform
    dsimp only at hperform
    cases hcutoff : now.sub recentWindow with
    | none =>
      rw [hcutoff] at hperform
      obtain ⟨-, rfl⟩ := hperform
      exact ⟨hfollows.lastDiscoveryAt, hfollows.latest, fun mac seen ↦ hfollows.kept_cons _⟩
    | some cutoff =>
      rw [hcutoff] at hperform
      obtain ⟨-, rfl⟩ := hperform
      refine ⟨hfollows.lastDiscoveryAt, fun mac seen hseen ↦ ?_, fun mac seen hseen ↦ ?_⟩
      · exact hfollows.latest mac seen (SightingTimes.mem_lookup_retain.mp hseen).1
      · by_cases hrecent : cutoff ≤ seen
        · refine (hfollows.kept_cons _ hseen).imp_left fun hmem ↦ ?_
          exact SightingTimes.mem_lookup_retain.mpr ⟨hmem, decide_eq_true hrecent⟩
        · exact Or.inr ⟨_, List.mem_cons_self, cutoff, hcutoff, not_le.mp hrecent⟩

/-- In every run, the status follows the history. -/
theorem PassiveStatus.follows_of_run
    (hrun : Sequential PassiveStatus.Performs PassiveStatus.new history status) :
    status.Follows history := by
  induction hrun with
  | start => exact .new
  | next _ hperform ih => exact ih.step hperform

/-- Later instants look back to later cutoffs. -/
theorem cutoff_mono {first second firstCutoff secondCutoff : Instant} (hle : first ≤ second)
    (hfirst : first.sub recentWindow = some firstCutoff)
    (hsecond : second.sub recentWindow = some secondCutoff) : firstCutoff ≤ secondCutoff := by
  rw [Instant.sub_eq_some] at hfirst hsecond
  rw [Instant.le_iff] at hle ⊢
  omega

/-- The entries that a snapshot keeps are one for each MAC that was discovered since the cutoff. -/
theorem PassiveStatus.Follows.length_retain (hfollows : status.Follows history)
    {now cutoff : Instant} (hcutoff : now.sub recentWindow = some cutoff)
    (htimes : ∀ earlier ∈ history, earlier.activity.time ≤ now) :
    (status.recentSightings.retain fun seen ↦ cutoff ≤ seen).entries.length =
      (macsSince (discoveries history) cutoff).length := by
  let retained := status.recentSightings.retain fun seen ↦ cutoff ≤ seen
  have hmem : ∀ mac, mac ∈ retained.keys ↔ mac ∈ macsSince (discoveries history) cutoff := by
    intro mac
    have hsince : mac ∈ macsSince (discoveries history) cutoff ↔
        ∃ seen, (discoveries history).lookup mac = some seen ∧ cutoff ≤ seen := by
      unfold macsSince
      rw [List.mem_filter, List.mem_dedup]
      cases hlatest : (discoveries history).lookup mac with
      | none => simp
      | some seen =>
        have hmac : mac ∈ (discoveries history).map Prod.fst := by
          obtain ⟨later, older, hdiscovered, -⟩ := List.lookup_eq_some_iff.mp hlatest
          rw [hdiscovered]
          simp
        simp [hmac]
    rw [hsince, ← AList.mem_keys, ← AList.lookup_isSome, Option.isSome_iff_exists]
    constructor
    · rintro ⟨seen, hseen⟩
      obtain ⟨hseen, hrecent⟩ := SightingTimes.mem_lookup_retain.mp hseen
      exact ⟨seen, hfollows.latest mac seen hseen, of_decide_eq_true hrecent⟩
    · rintro ⟨seen, hlatest, hrecent⟩
      refine ⟨seen, SightingTimes.mem_lookup_retain.mpr ⟨?_, decide_eq_true hrecent⟩⟩
      rcases hfollows.kept mac seen hlatest with hseen | ⟨earlier, hearlier, first, hfirst, hlt⟩
      · exact hseen
      · exact absurd (hlt.trans_le (cutoff_mono (htimes earlier hearlier) hfirst hcutoff))
          (not_lt.mpr hrecent)
  have hnodup : (macsSince (discoveries history) cutoff).Nodup :=
    (List.nodup_dedup _).filter _
  calc retained.entries.length = retained.keys.length := (List.length_map _).symm
    _ = (macsSince (discoveries history) cutoff).length :=
      ((List.perm_ext_iff_of_nodup retained.keys_nodup hnodup).mpr hmem).length_eq

/-- A snapshot of a status that follows the history is exact. -/
theorem PassiveStatus.Follows.exact (hfollows : status.Follows history) {now : Instant}
    (htimes : ∀ earlier ∈ history, earlier.activity.time ≤ now) {snapshot : PassiveSnapshot}
    {after : PassiveStatus} (hsnapshot : status.snapshot now = some (snapshot, after)) :
    PassiveReport.Exact ⟨now, discoveries history, snapshot⟩ := by
  obtain ⟨cutoff, hcutoff, hresult⟩ := Option.map_eq_some_iff.mp hsnapshot
  cases hresult
  exact ⟨cutoff, hcutoff, hfollows.length_retain hcutoff htimes, hfollows.lastDiscoveryAt⟩

/-- In every run on a clock that does not run backwards, every snapshot is exact. -/
theorem exact_of_run
    (hrun : Sequential PassiveStatus.Performs PassiveStatus.new history status)
    (hclock : Chronological history) : ∀ report ∈ reports history, report.Exact := by
  induction hrun with
  | start => exact List.forall_mem_nil _
  | @next history completed hearlier hperform ih =>
    obtain ⟨htimes, hordered⟩ := List.pairwise_cons.mp hclock
    obtain ⟨before, ⟨now, call⟩, outcome, after⟩ := completed
    cases call with
    | setListening => exact ih hordered
    | recordDiscovery mac => exact ih hordered
    | snapshot =>
      cases outcome with
      | none => exact ih hordered
      | some snapshot =>
        refine List.forall_mem_cons.mpr ⟨?_, ih hordered⟩
        have hsnapshot : before.snapshot now = some (snapshot, after) := by
          unfold PassiveStatus.Performs at hperform
          dsimp only at hperform
          cases hresult : before.snapshot now with
          | none =>
            rw [hresult] at hperform
            cases hperform.1
          | some result =>
            rw [hresult] at hperform
            rw [Option.some_inj.mp hperform.1, hperform.2]
        exact (PassiveStatus.follows_of_run hearlier).exact htimes hsnapshot

end Steps

/-- For every sequence of calls on a clock that does not run backwards, every snapshot counts the
MACs whose latest discovery is no older than an hour and gives the time of the latest discovery. The
snapshots taken before make no difference: after the same discoveries and at the same time, the
snapshots of two sequences say the same. -/
theorem snapshot_exact {history other : PassiveHistory} {status otherStatus : PassiveStatus}
    (hrun : Sequential PassiveStatus.Performs PassiveStatus.new history status)
    (hclock : Chronological history)
    (hother : Sequential PassiveStatus.Performs PassiveStatus.new other otherStatus)
    (hotherClock : Chronological other) :
    (∀ report ∈ reports history, report.Exact) ∧
      ∀ report ∈ reports history, ∀ again ∈ reports other,
        report.time = again.time → report.discovered = again.discovered →
        report.snapshot.devicesLastHour = again.snapshot.devicesLastHour ∧
          report.snapshot.lastDiscoveryAt = again.snapshot.lastDiscoveryAt := by
  have hexact := exact_of_run hrun hclock
  have hotherExact := exact_of_run hother hotherClock
  refine ⟨hexact, fun report hreport again hagain htime hdiscovered ↦ ?_⟩
  obtain ⟨cutoff, hcutoff, hdevices, hlast⟩ := hexact report hreport
  obtain ⟨otherCutoff, hotherCutoff, hotherDevices, hotherLast⟩ := hotherExact again hagain
  rw [htime, hotherCutoff, Option.some_inj] at hcutoff
  subst hcutoff
  rw [hdevices, hotherDevices, hlast, hotherLast, hdiscovered]
  exact ⟨rfl, rfl⟩

/-- Some hours after the epoch. -/
def hoursLater (hours : Fin 24) : Instant := ⟨(hours : ℕ) * (3600 * 10 ^ 9), by
  unfold Instant.minNanos Instant.maxNanos
  omega⟩

section Calls

variable {history : PassiveHistory} {status after : PassiveStatus} {report : PassiveSnapshot}

theorem PassiveStatus.run_recordDiscovery
    (hrun : Sequential PassiveStatus.Performs .new history status) (mac : String) (now : Instant) :
    Sequential PassiveStatus.Performs .new
      (⟨status, ⟨now, .recordDiscovery mac⟩, some (), status.recordDiscovery mac now⟩ :: history)
      (status.recordDiscovery mac now) :=
  .next hrun ⟨rfl, rfl⟩

theorem PassiveStatus.run_snapshot (hrun : Sequential PassiveStatus.Performs .new history status)
    (now : Instant) (hsnapshot : status.snapshot now = some (report, after)) :
    Sequential PassiveStatus.Performs .new
      (⟨status, ⟨now, .snapshot⟩, some report, after⟩ :: history) after := by
  refine .next hrun ?_
  simp [PassiveStatus.Performs, hsnapshot]

end Calls

/-- Two MACs are discovered, forgotten by a snapshot, and one of them is discovered once more. The
snapshot an hour after that still counts it, and says the same without the earlier snapshot. -/
theorem snapshot_exact_anHourLater : ∃ (history other : PassiveHistory)
    (status otherStatus : PassiveStatus),
    Sequential PassiveStatus.Performs .new history status ∧
      Sequential PassiveStatus.Performs .new other otherStatus ∧
      (reports history).map (fun report ↦ report.snapshot.devicesLastHour) = [1, 0] ∧
      (∀ report ∈ reports history, report.Exact) ∧
      ∀ report ∈ (reports history).head?, ∀ again ∈ reports other,
        report.snapshot.devicesLastHour = again.snapshot.devicesLastHour := by
  have hfirst := PassiveStatus.run_recordDiscovery .start "aa:00:00:00:00:01" (hoursLater 0)
  have hboth := PassiveStatus.run_recordDiscovery hfirst "aa:00:00:00:00:02" (hoursLater 0)
  have hpruned := PassiveStatus.run_snapshot hboth (hoursLater 2) rfl
  have hagain := PassiveStatus.run_recordDiscovery hpruned "aa:00:00:00:00:01" (hoursLater 2)
  have hrun := PassiveStatus.run_snapshot hagain (hoursLater 3) rfl
  have hunpruned := PassiveStatus.run_recordDiscovery hboth "aa:00:00:00:00:01" (hoursLater 2)
  have hother := PassiveStatus.run_snapshot hunpruned (hoursLater 3) rfl
  obtain ⟨hexact, hsame⟩ := snapshot_exact hrun (by unfold Chronological; decide) hother
    (by unfold Chronological; decide)
  refine ⟨_, _, _, _, hrun, hother, rfl, hexact, ?_⟩
  rintro report ⟨⟩ again hagain
  exact (hsame _ List.mem_cons_self again hagain (by
    rw [List.mem_singleton.mp hagain]) (by rw [List.mem_singleton.mp hagain]; rfl)).1

end Oott
