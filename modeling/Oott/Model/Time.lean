import Mathlib.Algebra.Group.Nat.Defs
import Mathlib.Algebra.Order.Group.Unbundled.Int

/-!
# Instants and durations

The three time types of the backend and the arithmetic it does on them, in nanoseconds. A
`std::time::Duration` has a 64-bit count of seconds; a `chrono::Duration` is bounded by `i64::MAX`
milliseconds, so the conversion `Duration::from_std` can fail; a `DateTime<Utc>` lies between the
first day of the year -262143 and the last of 262142, so subtracting a duration can leave the range,
and the operator then panics.
-/

set_option autoImplicit false
set_option relaxedAutoImplicit false

namespace Oott

/-- `std::time::Duration`. -/
structure StdDuration where
  nanos : Nat
  inRange : nanos < 2 ^ 64 * 10 ^ 9
deriving DecidableEq

/-- `chrono::Duration::MAX` in nanoseconds: `i64::MAX` milliseconds. -/
def TimeDelta.maxNanos : Int := (2 ^ 63 - 1) * 10 ^ 6

/-- `chrono::Duration`. -/
structure TimeDelta where
  nanos : Int
  inRange : -TimeDelta.maxNanos ≤ nanos ∧ nanos ≤ TimeDelta.maxNanos
deriving DecidableEq

/-- `DateTime::<Utc>::MIN_UTC`, in nanoseconds since the epoch. -/
def Instant.minNanos : Int := -8334601228800 * 10 ^ 9

/-- `DateTime::<Utc>::MAX_UTC`, in nanoseconds since the epoch. -/
def Instant.maxNanos : Int := 8210266876799 * 10 ^ 9 + 999999999

/-- `chrono::DateTime<Utc>`. -/
@[ext] structure Instant where
  nanos : Int
  inRange : Instant.minNanos ≤ nanos ∧ nanos ≤ Instant.maxNanos
deriving DecidableEq

namespace StdDuration

instance : LinearOrder StdDuration := LinearOrder.lift' StdDuration.nanos fun
  | ⟨_, _⟩, ⟨_, _⟩, rfl => rfl

/-- `Duration::from_secs`. -/
def fromSecs (seconds : UInt64) : StdDuration :=
  ⟨seconds.toNat * 10 ^ 9, Nat.mul_lt_mul_of_pos_right seconds.toNat_lt (by decide)⟩

/-- The first count of nanoseconds that is none of a `std::time::Duration`. -/
abbrev limitNanos : Nat := 2 ^ 64 * 10 ^ 9

/-- `Duration * u32`, `none` where the operator panics. -/
def mul (duration : StdDuration) (factor : UInt32) : Option StdDuration :=
  if h : duration.nanos * factor.toNat < limitNanos then
    some ⟨duration.nanos * factor.toNat, h⟩
  else none

theorem le_iff (first second : StdDuration) : first ≤ second ↔ first.nanos ≤ second.nanos :=
  Iff.rfl

theorem lt_iff (first second : StdDuration) : first < second ↔ first.nanos < second.nanos :=
  Iff.rfl

theorem mul_eq_some {duration product : StdDuration} {factor : UInt32} :
    duration.mul factor = some product ↔ product.nanos = duration.nanos * factor.toNat := by
  have hproduct := product.inRange
  unfold mul
  by_cases hrange : duration.nanos * factor.toNat < limitNanos
  · rw [dif_pos hrange, Option.some.injEq, StdDuration.mk.injEq]
    exact eq_comm
  · rw [dif_neg hrange]
    constructor
    · intro hnone
      cases hnone
    · intro hnanos
      exact absurd (hnanos ▸ hproduct) hrange

end StdDuration

namespace TimeDelta

/-- `chrono::Duration::zero()`, its default. -/
def zero : TimeDelta := ⟨0, by decide⟩

/-- `chrono::Duration::from_std`, which fails beyond `i64::MAX` milliseconds. -/
def fromStd (duration : StdDuration) : Option TimeDelta :=
  if h : (duration.nanos : Int) ≤ maxNanos then
    some ⟨duration.nanos, by unfold maxNanos at *; omega⟩
  else none

theorem fromStd_eq_none {duration : StdDuration} :
    fromStd duration = none ↔ maxNanos < (duration.nanos : Int) := by
  unfold fromStd
  by_cases hlong : (duration.nanos : Int) ≤ maxNanos
  · simp [hlong]
  · simpa [hlong] using not_le.mp hlong

theorem fromStd_eq_some {duration : StdDuration} {delta : TimeDelta} :
    fromStd duration = some delta ↔ delta.nanos = duration.nanos := by
  have hmax := delta.inRange.2
  unfold fromStd
  by_cases hlong : (duration.nanos : Int) ≤ maxNanos
  · rw [dif_pos hlong, Option.some.injEq, TimeDelta.mk.injEq]
    exact eq_comm
  · rw [dif_neg hlong]
    constructor
    · intro hnone
      cases hnone
    · intro hnanos
      exact absurd (hnanos ▸ hmax) hlong

end TimeDelta

namespace Instant

instance : LinearOrder Instant := LinearOrder.lift' Instant.nanos fun
  | ⟨_, _⟩, ⟨_, _⟩, rfl => rfl

theorem le_iff (first second : Instant) : first ≤ second ↔ first.nanos ≤ second.nanos := Iff.rfl

theorem lt_iff (first second : Instant) : first < second ↔ first.nanos < second.nanos := Iff.rfl

/-- `DateTime::UNIX_EPOCH`. -/
def epoch : Instant := ⟨0, by decide⟩

/-- `DateTime - Duration`, `none` where the operator panics. -/
def sub (instant : Instant) (delta : TimeDelta) : Option Instant :=
  if h : minNanos ≤ instant.nanos - delta.nanos ∧ instant.nanos - delta.nanos ≤ maxNanos then
    some ⟨instant.nanos - delta.nanos, h⟩
  else none

/-- `DateTime + Duration`, `none` where the operator panics. -/
def add (instant : Instant) (delta : TimeDelta) : Option Instant :=
  if h : minNanos ≤ instant.nanos + delta.nanos ∧ instant.nanos + delta.nanos ≤ maxNanos then
    some ⟨instant.nanos + delta.nanos, h⟩
  else none

/-- `(now - earlier).to_std().unwrap_or(Duration::from_secs(0))`: zero when `earlier` is ahead. -/
def elapsedSince (now earlier : Instant) : StdDuration :=
  ⟨(now.nanos - earlier.nanos).toNat, by
    have hnow := now.inRange
    have hearlier := earlier.inRange
    unfold minNanos maxNanos at *
    omega⟩

theorem sub_eq_some {instant result : Instant} {delta : TimeDelta} :
    instant.sub delta = some result ↔ result.nanos = instant.nanos - delta.nanos := by
  unfold sub
  split
  · next h =>
    rw [Option.some.injEq, Instant.ext_iff]
    exact eq_comm
  · next h =>
    constructor
    · intro hnone
      cases hnone
    · intro hresult
      have hrange := result.inRange
      rw [hresult] at hrange
      exact absurd hrange h

theorem add_eq_some {instant result : Instant} {delta : TimeDelta} :
    instant.add delta = some result ↔ result.nanos = instant.nanos + delta.nanos := by
  unfold add
  split
  · next h =>
    rw [Option.some.injEq, Instant.ext_iff]
    exact eq_comm
  · next h =>
    constructor
    · intro hnone
      cases hnone
    · intro hresult
      have hrange := result.inRange
      rw [hresult] at hrange
      exact absurd hrange h

end Instant

end Oott
