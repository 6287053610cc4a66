import NatReach.Discovery.Pacing

namespace NatReach

inductive Role where
  | viaPublic
  | viaPrivate
deriving DecidableEq, Repr, Inhabited

namespace Role

def name : Role → String
  | viaPublic => "public"
  | viaPrivate => "private"

def ofName? (name : String) : Option Role :=
  if name = "public" then some viaPublic
  else if name = "private" then some viaPrivate
  else none

def inOrder : List Role := [viaPrivate, viaPublic]

end Role

/-- How far the asking has come. A verdict is whether addresses are altered on the way. -/
inductive Progress where
  | unresolved
  | pending (request : UInt32) (previous : Option Bool)
  | resolved (nat : Bool)
deriving DecidableEq, Repr, Inhabited

namespace Progress

def known : Progress → Option Bool
  | unresolved => none
  | pending _ previous => previous
  | resolved nat => some nat

def isResolved : Progress → Bool
  | resolved _ => true
  | _ => false

def name : Progress → String
  | unresolved => "unresolved"
  | pending .. => "pending"
  | resolved _ => "resolved"

end Progress

structure Probe where
  progress : Progress := .unresolved
  lastRequest : Option UInt32 := none
  attempts : Nat := 0
  nextAt : Option Nat := none
  resolvedAt : Option Nat := none
  exhausted : Bool := false
deriving DecidableEq, Repr, Inhabited

inductive Turn where
  | rest
  | ask
  /-- Nobody confirmed what was known; it stands. -/
  | keep (nat : Bool)
  | giveUp
deriving DecidableEq, Repr

namespace Probe

def known (probe : Probe) : Option Bool := probe.progress.known

def record (probe : Probe) (request : UInt32) (now : Nat) (pacing : Pacing) : Probe :=
  { probe with
    progress := .pending request probe.known
    lastRequest := some request
    attempts := probe.attempts + 1
    nextAt := some (now + pacing.backoff (probe.attempts + 1))
    exhausted := false }

def resolve (probe : Probe) (nat : Bool) (now : Nat) : Probe :=
  { probe with
    progress := .resolved nat
    attempts := 0
    nextAt := none
    resolvedAt := some now
    exhausted := false }

/-- The probe when an answer has arrived. One that says what is settled changes nothing. -/
def settle (probe : Probe) (nat : Bool) (now : Nat) : Probe :=
  if probe.progress = .resolved nat then probe else probe.resolve nat now

def isNews (probe : Probe) (nat : Bool) : Bool := probe.known ≠ some nat

def exhaust (probe : Probe) : Probe := { probe with exhausted := true, nextAt := none }

def isOverdue (probe : Probe) (now : Nat) : Bool :=
  !probe.exhausted && probe.nextAt.any (· ≤ now)

def isStale (probe : Probe) (pacing : Pacing) (now : Nat) : Bool :=
  match pacing.revalidate, probe.resolvedAt with
  | some interval, some time => interval ≤ now - time
  | _, _ => false

def turn (probe : Probe) (pacing : Pacing) (now : Nat) : Turn :=
  match probe.progress with
  | .unresolved => if probe.attempts = 0 && !probe.exhausted then .ask else .rest
  | .pending _ previous =>
    if !probe.isOverdue now then .rest
    else if probe.attempts < pacing.maxAttempts then .ask
    else
      match previous with
      | some nat => .keep nat
      | none => .giveUp
  | .resolved _ => if probe.isStale pacing now then .ask else .rest

/-! ## What is known -/

@[simp] theorem known_record (probe : Probe) (request : UInt32) (now : Nat) (pacing : Pacing) :
    (probe.record request now pacing).known = probe.known := rfl

@[simp] theorem known_resolve (probe : Probe) (nat : Bool) (now : Nat) :
    (probe.resolve nat now).known = some nat := rfl

@[simp] theorem known_settle (probe : Probe) (nat : Bool) (now : Nat) :
    (probe.settle nat now).known = some nat := by
  unfold settle
  split
  · rename_i settled
    simp [known, settled, Progress.known]
  · rfl

@[simp] theorem progress_settle (probe : Probe) (nat : Bool) (now : Nat) :
    (probe.settle nat now).progress = .resolved nat := by
  unfold settle
  split
  · assumption
  · rfl

@[simp] theorem lastRequest_settle (probe : Probe) (nat : Bool) (now : Nat) :
    (probe.settle nat now).lastRequest = probe.lastRequest := by
  unfold settle
  split <;> rfl

@[simp] theorem known_exhaust (probe : Probe) : probe.exhaust.known = probe.known := rfl

/-! ## When a turn comes -/

section Turn
variable {probe : Probe} {pacing : Pacing} {now : Nat}

theorem isOverdue_iff : probe.isOverdue now = true ↔
    probe.exhausted = false ∧ ∃ time, probe.nextAt = some time ∧ time ≤ now := by
  simp [isOverdue, Option.any_eq_true]

theorem isStale_iff : probe.isStale pacing now = true ↔
    ∃ interval time, pacing.revalidate = some interval ∧ probe.resolvedAt = some time ∧
      interval ≤ now - time := by
  unfold isStale
  cases pacing.revalidate <;> cases probe.resolvedAt <;> simp

theorem turn_eq_ask_iff :
    probe.turn pacing now = .ask ↔
      probe.progress = .unresolved ∧ probe.attempts = 0 ∧ probe.exhausted = false ∨
      (∃ request previous, probe.progress = .pending request previous) ∧
        probe.isOverdue now = true ∧ probe.attempts < pacing.maxAttempts ∨
      (∃ nat, probe.progress = .resolved nat) ∧ probe.isStale pacing now = true := by
  unfold turn
  cases probe.progress with grind

theorem turn_eq_keep_iff {nat : Bool} :
    probe.turn pacing now = .keep nat ↔
      (∃ request, probe.progress = .pending request (some nat)) ∧ probe.isOverdue now = true ∧
        pacing.maxAttempts ≤ probe.attempts := by
  unfold turn
  cases probe.progress with
  | pending request previous => cases previous <;> simp <;> grind
  | _ => grind

theorem turn_eq_giveUp_iff :
    probe.turn pacing now = .giveUp ↔
      (∃ request, probe.progress = .pending request none) ∧ probe.isOverdue now = true ∧
        pacing.maxAttempts ≤ probe.attempts := by
  unfold turn
  cases probe.progress with
  | pending request previous => cases previous <;> simp <;> grind
  | _ => grind

theorem known_of_turn_keep {nat : Bool} (keep : probe.turn pacing now = .keep nat) :
    probe.known = some nat := by
  obtain ⟨⟨request, pending⟩, -⟩ := turn_eq_keep_iff.1 keep
  rw [known, pending]
  rfl

end Turn

end Probe
end NatReach
