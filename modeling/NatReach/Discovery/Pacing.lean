namespace NatReach

structure Pacing where
  retryBase : Nat := 1000
  retryMax : Nat := 16000
  maxAttempts : Nat := 6
  /-- After how long an answered address is probed again, if ever. -/
  revalidate : Option Nat := none
deriving DecidableEq, Repr, Inhabited

namespace Pacing

def maxDoublings : Nat := 16

/-- The wait after a probe, by how many probes there have been with it. A shift doubles. -/
def backoff (pacing : Pacing) (attempt : Nat) : Nat :=
  min (pacing.retryBase <<< min (attempt - 1) maxDoublings) pacing.retryMax

theorem backoff_le_max (pacing : Pacing) (attempt : Nat) :
    pacing.backoff attempt ≤ pacing.retryMax := Nat.min_le_right ..

theorem backoff_pos {pacing : Pacing} (base : 0 < pacing.retryBase) (ceiling : 0 < pacing.retryMax)
    (attempt : Nat) : 0 < pacing.backoff attempt := by
  rw [backoff, Nat.shiftLeft_eq, Nat.lt_min]
  exact ⟨Nat.mul_pos base (Nat.two_pow_pos _), ceiling⟩

end Pacing
end NatReach
