import Mathlib.Algebra.Order.Ring.Int
import NatReach.Config.Basic
import NatReach.Discovery.Clock
import NatReach.Proofs.PeerTable.Coherence

namespace NatReach
open PeerTable

/-! ## The wait -/

namespace Pacing
variable {pacing : Pacing}

theorem backoff_eq (pacing : Pacing) (attempt : Nat) :
    pacing.backoff attempt =
      min (pacing.retryBase * 2 ^ min (max attempt 1 - 1) 16) pacing.retryMax := by
  have doublings : max attempt 1 - 1 = attempt - 1 := by omega
  rw [backoff, Nat.shiftLeft_eq, doublings, maxDoublings]

theorem retryBase_le_backoff (ordered : pacing.retryBase ≤ pacing.retryMax) (attempt : Nat) :
    pacing.retryBase ≤ pacing.backoff attempt := by
  rw [backoff, Nat.shiftLeft_eq]
  exact Nat.le_min.2 ⟨Nat.le_mul_of_pos_right _ (Nat.two_pow_pos _), ordered⟩

theorem backoff_one (ordered : pacing.retryBase ≤ pacing.retryMax) :
    pacing.backoff 1 = pacing.retryBase := Nat.min_eq_left ordered

end Pacing

theorem Span.total_backoff_mono (base ceiling : Span) {first second : UInt32} (later : first ≤ second) :
    (base.backoff ceiling first).total ≤ (base.backoff ceiling second).total := by
  have doublings :
      min (first.toNat - 1) Pacing.maxDoublings ≤ min (second.toNat - 1) Pacing.maxDoublings := by
    have := UInt32.le_iff_toNat_le.1 later
    omega
  have longer := Nat.mul_le_mul_left base.total (Nat.pow_le_pow_right (by decide : 0 < 2) doublings)
  rw [total_backoff, total_backoff, Nat.shiftLeft_eq, Nat.shiftLeft_eq]
  omega

theorem ClockTime.exists_after_backoff {now : ClockTime} (early : now.total ≤ 1000000 * 2 ^ 64)
    (base : Span) (ceiling : UInt64) (attempt : UInt32) :
    ∃ later, now.after? (base.backoff (.ofMillis ceiling) attempt) = some later ∧
      later.total = now.total + (base.backoff (.ofMillis ceiling) attempt).total := by
  have short : (base.backoff (.ofMillis ceiling) attempt).total ≤ 1000000 * ceiling.toNat := by
    rw [Span.total_backoff, Span.total_ofMillis]
    exact Nat.min_le_right ..
  have small := ceiling.toNat_lt
  obtain ⟨later, reached⟩ := exists_after?_iff.2 (show now.total +
      (base.backoff (.ofMillis ceiling) attempt).total < limit by
    unfold limit
    omega)
  exact ⟨later, reached, total_of_after? reached⟩

/-! ## Settings -/

def Pacing.ofMachine (base ceiling : UInt64) (most : UInt32) (revalidate : Option Nat) : Pacing where
  retryBase := base.toNat
  retryMax := ceiling.toNat
  maxAttempts := most.toNat
  revalidate := revalidate

theorem DiscoverySettings.pacing_eq_ofMachine (settings : DiscoverySettings) :
    settings.pacing =
      .ofMachine settings.retryBase (max settings.retryMax settings.retryBase) (max settings.maxAttempts 1)
        (settings.revalidateSeconds.map fun seconds => 1000 * seconds.toNat) := by
  have ceiling : (max settings.retryMax settings.retryBase).toNat =
      max settings.retryMax.toNat settings.retryBase.toNat := value_greater UInt64.le_iff_toNat_le
  have most : (max settings.maxAttempts 1).toNat = max settings.maxAttempts.toNat 1 :=
    value_greater UInt32.le_iff_toNat_le
  rw [pacing, Pacing.ofMachine, ceiling, most]

/-! ## What is put on record -/

theorem Probe.Coherent.attempts_of_turn_ask {probe : Probe} {pacing : Pacing} {now : Nat}
    (coherent : probe.Coherent) (turn : probe.turn pacing now = .ask) :
    probe.attempts = 0 ∨ probe.attempts < pacing.maxAttempts := by
  rcases turn_eq_ask_iff.1 turn with ⟨-, none, -⟩ | ⟨-, -, fewer⟩ | ⟨⟨nat, resolved⟩, -⟩
  · exact .inl none
  · exact .inr fewer
  · rw [Coherent, resolved] at coherent
    exact .inl coherent.2.1

theorem Remote.exists_deadline {base ceiling : UInt64} {most : UInt32} {revalidate : Option Nat}
    {remote after : Remote} {now : UInt64} {number : UInt32} {role : Role} {order : ProbeOrder}
    (asks : remote.ask (.ofMachine base ceiling most revalidate) now.toNat number role = (some order, after))
    (few : (remote.probe role).attempts + 1 < UInt32.size) :
    ∃ count next later, (after.probe role).attempts = UInt32.toNat count ∧
      (after.probe role).nextAt = some next ∧
      (ClockTime.ofMillis now).after? (Span.backoff (.ofMillis base) (.ofMillis ceiling) count) =
        some later ∧
      later.total = 1000000 * next := by
  obtain ⟨ip, -, -, rfl⟩ := ask_eq_some_iff.1 asks
  rw [probe_setProbe]
  have early : (ClockTime.ofMillis now).total ≤ 1000000 * 2 ^ 64 := by
    have small := now.toNat_lt
    rw [ClockTime.total_ofMillis]
    omega
  have counted : (UInt32.ofNat ((remote.probe role).attempts + 1)).toNat =
      (remote.probe role).attempts + 1 := UInt32.toNat_ofNat_of_lt few
  obtain ⟨later, reached, length⟩ := ClockTime.exists_after_backoff early (.ofMillis base) ceiling
    (.ofNat ((remote.probe role).attempts + 1))
  refine ⟨_, _, later, counted.symm, rfl, reached, ?_⟩
  rw [length, ClockTime.total_ofMillis,
    Span.total_backoff_ofMillis (.ofMachine base ceiling most revalidate) rfl rfl, counted]
  omega

namespace PeerTable

theorem attempts_add_one_lt {base ceiling : UInt64} {most : UInt32} {revalidate : Option Nat}
    {family : Family} {first : UInt32} {operations : List Operation} {log : List Event} {table : PeerTable}
    (ran : run operations (new (.ofMachine base ceiling most revalidate) family first) = (log, table))
    {id : String} {remote : Remote} (present : table.get? id = some remote) {role : Role} {now : Nat}
    (few : remote.turn (.ofMachine base ceiling most revalidate) now role = .ask ∨
      (issued log).length + 1 < UInt32.size) :
    (remote.probe role).attempts + 1 < UInt32.size := by
  obtain ⟨-, story, sorted, recorded⟩ := run_sorted ran present
  rcases few with asks | few
  · have turn : (remote.probe role).turn (.ofMachine base ceiling most revalidate) now = .ask := by
      unfold Remote.turn at asks
      split at asks
      · exact asks
      · cases asks
    rcases (sorted.coherent.probes role).attempts_of_turn_ask turn with none | fewer
    · rw [none]
      decide
    · have := most.toNat_lt
      change _ < most.toNat at fewer
      unfold UInt32.size
      omega
  · have := sorted.attempts role
    omega

/-- The wait after a probe is the first wait, doubled with every attempt up to sixteen times, and at most the
ceiling: for all waits and ceilings of 64 bits and all attempts of 32, no product is cut off. So waits do not
get shorter. Settings, whatever they are, give a first wait, waits between it and the ceiling, and an attempt.
A clock that shows at most 2^63 milliseconds goes on until a wait has passed. So the record of a request
can be written: the time at which the answer is overdue and the attempts are within the limits of a machine,
at every tick, and at every plan before which fewer than 2^32 - 1 requests have gone out. -/
theorem waits_exact (base ceiling : UInt64) (most : UInt32) (revalidate : Option Nat) (attempt : UInt32) :
    let pacing := Pacing.ofMachine base ceiling most revalidate
    let wait := Span.backoff (.ofMillis base) (.ofMillis ceiling)
    (wait attempt).total = 1000000 * pacing.backoff attempt.toNat ∧
    pacing.backoff attempt.toNat =
      min (base.toNat * 2 ^ min (max attempt.toNat 1 - 1) 16) ceiling.toNat ∧
    (wait attempt).total ≤ (Span.ofMillis ceiling).total ∧
    (∀ earlier ≤ attempt, (wait earlier).total ≤ (wait attempt).total) ∧
    (∀ settings : DiscoverySettings,
      settings.pacing =
          .ofMachine settings.retryBase (max settings.retryMax settings.retryBase)
            (max settings.maxAttempts 1)
            (settings.revalidateSeconds.map fun seconds => 1000 * seconds.toNat) ∧
        settings.pacing.retryBase ≤ settings.pacing.backoff attempt.toNat ∧
        settings.pacing.backoff attempt.toNat ≤ settings.pacing.retryMax ∧
        settings.pacing.backoff 1 = settings.pacing.retryBase ∧ 1 ≤ settings.pacing.maxAttempts) ∧
    (∀ now : ClockTime, now.total ≤ 1000000 * 2 ^ 63 →
      ∃ later, now.after? (wait attempt) = some later ∧
        later.total = now.total + (wait attempt).total) ∧
    ∀ family first operations log table id remote role number order after (now : UInt64),
      run operations (new pacing family first) = (log, table) → table.get? id = some remote →
      remote.ask pacing now.toNat number role = (some order, after) →
      remote.turn pacing now.toNat role = .ask ∨ (issued log).length + 1 < UInt32.size →
      ∃ count next later, (after.probe role).attempts = UInt32.toNat count ∧
        (after.probe role).nextAt = some next ∧
        (ClockTime.ofMillis now).after? (wait count) = some later ∧ later.total = 1000000 * next := by
  intro pacing wait
  have exact : (wait attempt).total = 1000000 * pacing.backoff attempt.toNat :=
    Span.total_backoff_ofMillis pacing rfl rfl attempt
  refine ⟨exact, pacing.backoff_eq attempt.toNat, ?_, fun earlier => Span.total_backoff_mono _ _,
    ?_, ?_, ?_⟩
  · rw [exact, Span.total_ofMillis]
    exact Nat.mul_le_mul_left _ (pacing.backoff_le_max _)
  · intro settings
    have ordered : settings.pacing.retryBase ≤ settings.pacing.retryMax := Nat.le_max_right ..
    exact ⟨settings.pacing_eq_ofMachine, Pacing.retryBase_le_backoff ordered _,
      settings.pacing.backoff_le_max _, Pacing.backoff_one ordered, Nat.le_max_right ..⟩
  · intro now early
    exact ClockTime.exists_after_backoff (by omega) _ ceiling attempt
  · intro family first operations log table id remote role number order after now ran present asks few
    exact Remote.exists_deadline asks (attempts_add_one_lt ran present few)

theorem waits_exact_longest :
    let longest : UInt64 := 18446744073709551615
    let pacing := Pacing.ofMachine longest longest 6 none
    let wait := Span.backoff (.ofMillis longest) (.ofMillis longest)
    (wait 4294967295).total = 1000000 * 18446744073709551615 ∧
    (∃ later, (ClockTime.ofMillis 9223372036854775808).after? (wait 4294967295) = some later ∧
      later.total = 1000000 * 27670116110564327423) ∧
    ∃ log table remote order after later,
      run [.add twoAddresses 0] (new pacing .v4 7) = (log, table) ∧
      table.get? "gateway" = some remote ∧
      remote.ask pacing 9223372036854775808 7 .viaPublic = (some order, after) ∧
      (after.probe .viaPublic).nextAt = some 27670116110564327423 ∧
      (ClockTime.ofMillis 9223372036854775808).after? (wait 1) = some later ∧
      later.total = 1000000 * 27670116110564327423 := by
  intro longest pacing wait
  obtain ⟨exact, -, -, -, -, clock, records⟩ := waits_exact longest longest 6 none 4294967295
  have all : pacing.backoff 4294967295 = 18446744073709551615 := by decide +kernel
  have whole : (wait 4294967295).total = 1000000 * 18446744073709551615 := exact.trans (congrArg _ all)
  refine ⟨whole, ?_, ?_⟩
  · obtain ⟨later, reached, length⟩ := clock (.ofMillis 9223372036854775808) (by decide +kernel)
    refine ⟨later, reached, length.trans ?_⟩
    rw [whole]
    decide +kernel
  · generalize ran : run [.add twoAddresses 0] (new pacing .v4 7) = result
    have asking : (result.2.get? "gateway").map (fun remote =>
        let asked := remote.ask pacing 9223372036854775808 7 .viaPublic
        (asked.1.isSome, (asked.2.probe .viaPublic).attempts, (asked.2.probe .viaPublic).nextAt)) =
          some (true, 1, some 27670116110564327423) := by
      rw [← ran]
      decide +kernel
    have quiet : (issued result.1).length + 1 < UInt32.size := by
      rw [← ran]
      decide +kernel
    obtain ⟨log, table⟩ := result
    obtain ⟨remote, present, asked⟩ := Option.map_eq_some_iff.1 asking
    generalize asks : remote.ask pacing 9223372036854775808 7 .viaPublic = ordered at asked
    obtain ⟨order, after⟩ := ordered
    simp only [Prod.mk.injEq, Option.isSome_iff_exists] at asked
    obtain ⟨⟨order, rfl⟩, once, next⟩ := asked
    obtain ⟨count, time, later, counted, deadline, reached, length⟩ := records .v4 7 _ log table "gateway"
      remote .viaPublic 7 order after 9223372036854775808 ran present asks (.inr quiet)
    have one : count = 1 := UInt32.toNat_inj.1 (counted.symm.trans once)
    rw [next] at deadline
    cases deadline
    rw [one] at reached
    exact ⟨log, table, remote, order, after, later, rfl, present, asks, next, reached, length⟩

end PeerTable
end NatReach
