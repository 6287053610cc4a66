import NatReach.Discovery.Pacing

namespace NatReach

section Order
variable {α : Type} {value : α → Nat} {first second : α} {less : Prop} [Decidable less]

theorem value_lesser (order : less ↔ value first ≤ value second) :
    value (if less then first else second) = min (value first) (value second) := by
  split
  · rename_i isLess
    exact (Nat.min_eq_left (order.1 isLess)).symm
  · rename_i notLess
    rw [order] at notLess
    exact (Nat.min_eq_right (Nat.le_of_not_le notLess)).symm

theorem value_greater (order : less ↔ value first ≤ value second) :
    value (if less then second else first) = max (value first) (value second) := by
  split
  · rename_i isLess
    exact (Nat.max_eq_right (order.1 isLess)).symm
  · rename_i notLess
    rw [order] at notLess
    exact (Nat.max_eq_left (Nat.le_of_not_le notLess)).symm

end Order

/-- A span of time: whole seconds, and the nanoseconds beyond them. -/
structure Span where
  seconds : UInt64
  nanos : Fin 1000000000
deriving DecidableEq, Repr

namespace Span

def total (span : Span) : Nat := 1000000000 * span.seconds.toNat + span.nanos

def longest : Span where
  seconds := 18446744073709551615
  nanos := ⟨999999999, by decide⟩

def ofMillis (time : UInt64) : Span where
  seconds := time / 1000
  nanos := ⟨time.toNat % 1000 * 1000000, by omega⟩

def times (span : Span) (factor : UInt32) : Span :=
  let nanos := span.nanos.val * factor.toNat
  let seconds := span.seconds.toNat * factor.toNat + nanos / 1000000000
  if fits : seconds < UInt64.size then
    ⟨.ofNatLT seconds fits, ⟨nanos % 1000000000, Nat.mod_lt _ (by decide)⟩⟩
  else longest

def shorter (first second : Span) : Span :=
  if first.seconds < second.seconds ∨ first.seconds = second.seconds ∧ first.nanos ≤ second.nanos then
    first
  else second

def doublings (attempt : UInt32) : UInt32 := min (if attempt = 0 then 0 else attempt - 1) 16

def backoff (base ceiling : Span) (attempt : UInt32) : Span :=
  (base.times (1 <<< doublings attempt)).shorter ceiling

/-! ## Lengths -/

theorem total_le_longest (span : Span) : span.total ≤ longest.total := by
  have seconds : span.seconds.toNat < 18446744073709551616 := span.seconds.toNat_lt
  have nanos := span.nanos.isLt
  change _ ≤ 1000000000 * 18446744073709551615 + 999999999
  unfold total
  omega

theorem total_ofMillis (time : UInt64) : (ofMillis time).total = 1000000 * time.toNat := by
  have seconds : (time / 1000).toNat = time.toNat / 1000 := UInt64.toNat_div ..
  simp only [total, ofMillis, seconds]
  omega

theorem total_times (span : Span) (factor : UInt32) :
    (span.times factor).total = min (span.total * factor.toNat) longest.total := by
  have product : span.total * factor.toNat =
      1000000000 * (span.seconds.toNat * factor.toNat) + span.nanos.val * factor.toNat := by
    rw [total, Nat.add_mul, Nat.mul_assoc]
  have last : longest.total = 1000000000 * UInt64.size - 1 := by decide
  rw [product, last]
  unfold times
  dsimp only
  split
  · rename_i fits
    simp only [total, UInt64.toNat_ofNatLT]
    omega
  · rename_i tooLong
    rw [last]
    omega

theorem total_shorter (first second : Span) :
    (first.shorter second).total = min first.total second.total := by
  have order : first.seconds < second.seconds ∨
      first.seconds = second.seconds ∧ first.nanos ≤ second.nanos ↔ first.total ≤ second.total := by
    have one := first.nanos.isLt
    have other := second.nanos.isLt
    rw [UInt64.lt_iff_toNat_lt, ← UInt64.toNat_inj, Fin.le_def]
    simp only [total]
    omega
  unfold shorter
  exact value_lesser order

theorem toNat_min (first second : UInt32) : (min first second).toNat = min first.toNat second.toNat := by
  rw [Std.min_eq_if]
  exact value_lesser UInt32.le_iff_toNat_le

theorem toNat_doublings (attempt : UInt32) :
    (doublings attempt).toNat = min (attempt.toNat - 1) Pacing.maxDoublings := by
  have before : (if attempt = 0 then 0 else attempt - 1).toNat = attempt.toNat - 1 := by
    split
    · rename_i none
      rw [none]
      rfl
    · rename_i some
      rw [← UInt32.toNat_inj] at some
      have one : (1 : UInt32) ≤ attempt := by
        rw [UInt32.le_iff_toNat_le]
        exact Nat.pos_of_ne_zero some
      exact UInt32.toNat_sub_of_le _ _ one
  rw [doublings, toNat_min, before]
  rfl

theorem toNat_one_shiftLeft {doublings : UInt32} (few : doublings.toNat < 32) :
    ((1 : UInt32) <<< doublings).toNat = 1 <<< doublings.toNat := by
  rw [UInt32.toNat_shiftLeft, Nat.mod_eq_of_lt few, UInt32.toNat_one, Nat.shiftLeft_eq, Nat.one_mul]
  exact Nat.mod_eq_of_lt (Nat.pow_lt_pow_right (by decide) few)

/-- The wait after a probe is what it would be with unlimited numbers. -/
theorem total_backoff (base ceiling : Span) (attempt : UInt32) :
    (backoff base ceiling attempt).total =
      min (base.total <<< min (attempt.toNat - 1) Pacing.maxDoublings) ceiling.total := by
  have few : (doublings attempt).toNat < 32 := by
    rw [toNat_doublings, Pacing.maxDoublings]
    omega
  rw [backoff, total_shorter, total_times, toNat_one_shiftLeft few, toNat_doublings, Nat.min_assoc,
    -- the ceiling is a span itself, so what is cut off is above it
    Nat.min_eq_right ceiling.total_le_longest, Nat.shiftLeft_eq, Nat.shiftLeft_eq, Nat.one_mul]

theorem total_backoff_ofMillis (pacing : Pacing) {base ceiling : UInt64}
    (first : pacing.retryBase = base.toNat) (most : pacing.retryMax = ceiling.toNat) (attempt : UInt32) :
    (backoff (.ofMillis base) (.ofMillis ceiling) attempt).total =
      1000000 * pacing.backoff attempt.toNat := by
  rw [total_backoff, total_ofMillis, total_ofMillis, Pacing.backoff, first, most, Nat.shiftLeft_eq,
    Nat.shiftLeft_eq, Nat.mul_assoc, Nat.mul_min_mul_left]

end Span

/-- A point in time: whole seconds since some origin, maybe before it, and the nanoseconds beyond them. -/
structure ClockTime where
  seconds : Int64
  nanos : Fin 1000000000
deriving DecidableEq, Repr

namespace ClockTime

def total (time : ClockTime) : Int := 1000000000 * time.seconds.toInt + time.nanos

def ofMillis (time : UInt64) : ClockTime where
  seconds := .ofNat (time.toNat / 1000)
  nanos := (Span.ofMillis time).nanos

def after? (time : ClockTime) (span : Span) : Option ClockTime :=
  let nanos := time.nanos.val + span.nanos.val
  let seconds : Int := time.seconds.toInt + (span.seconds.toNat + nanos / 1000000000 : Nat)
  if seconds ≤ Int64.maxValue.toInt then
    some ⟨.ofInt seconds, ⟨nanos % 1000000000, Nat.mod_lt _ (by decide)⟩⟩
  else none

def limit : Int := 9223372036854775808000000000

theorem total_lt_limit (time : ClockTime) : time.total < limit := by
  have seconds := time.seconds.toInt_lt
  have nanos := time.nanos.isLt
  unfold total limit
  omega

theorem total_ofMillis (time : UInt64) : (ofMillis time).total = 1000000 * time.toNat := by
  have small : time.toNat / 1000 < 9223372036854775808 := by
    have := time.toNat_lt
    omega
  have seconds : (Int64.ofNat (time.toNat / 1000)).toInt = (time.toNat / 1000 : Nat) :=
    Int64.toInt_ofNat_of_lt small
  simp only [total, ofMillis, Span.ofMillis, seconds]
  omega

theorem total_of_after? {time later : ClockTime} {span : Span} (reached : time.after? span = some later) :
    later.total = time.total + span.total := by
  have least := time.seconds.le_toInt
  simp only [after?, Option.ite_none_right_eq_some, Option.some.injEq] at reached
  obtain ⟨fits, rfl⟩ := reached
  have last : Int64.maxValue.toInt = 9223372036854775807 := by decide
  rw [last] at fits
  simp only [total, Span.total]
  rw [Int64.toInt_ofInt_of_le (by omega) (by omega)]
  omega

theorem exists_after?_iff {time : ClockTime} {span : Span} :
    (∃ later, time.after? span = some later) ↔ time.total + span.total < limit := by
  have last : Int64.maxValue.toInt = 9223372036854775807 := by decide
  constructor
  · rintro ⟨later, reached⟩
    rw [← total_of_after? reached]
    exact later.total_lt_limit
  · intro fits
    refine ⟨_, if_pos ?_⟩
    simp only [total, Span.total, limit] at fits
    rw [last]
    omega

end ClockTime
end NatReach
