import NatReach.Proofs.PeerTable.RouteHistory
import NatReach.Proofs.PeerTable.Turns

namespace NatReach
open PeerTable

def Endpoint.advertised (endpoint : Endpoint) (family : Family) (port : UInt16) :
    List (Role × SocketAddress) :=
  Role.inOrder.filterMap fun role => (endpoint.ip? family role).map fun ip => (role, .ofIp ip port)

theorem Probe.turn_of_pending {probe : Probe} {request : UInt32}
    (pending : probe.progress = .pending request none) (pacing : Pacing) (now : Nat) :
    probe.turn pacing now =
      if probe.isOverdue now then
        if probe.attempts < pacing.maxAttempts then .ask else .giveUp
      else .rest := by
  unfold turn
  rw [pending]
  cases probe.isOverdue now <;> rfl

namespace Remote
variable {remote : Remote} {pacing : Pacing} {now : Nat} {numbers : Role → UInt32}

def isSpent (remote : Remote) : Bool :=
  remote.roles.all fun role => (remote.probe role).exhausted

theorem isSpent_iff :
    remote.isSpent = true ↔
      ∀ role, (remote.ip? role).isSome → (remote.probe role).exhausted = true := by
  have listed (role : Role) : role ∈ Role.inOrder := by cases role <;> decide
  simp only [isSpent, roles, List.all_eq_true, List.mem_filter, listed, true_and]

structure Unheard (remote : Remote) : Prop where
  asked : ∀ role, (remote.ip? role).isSome →
    ∃ request previous, (remote.probe role).progress = .pending request previous
  unknown : ∀ role, (remote.probe role).known = none

namespace Unheard

theorem pending (unheard : remote.Unheard) {role : Role} (address : (remote.ip? role).isSome) :
    ∃ request, (remote.probe role).progress = .pending request none := by
  obtain ⟨request, previous, progress⟩ := unheard.asked role address
  have unknown := unheard.unknown role
  rw [Probe.known, progress] at unknown
  exact ⟨request, progress.trans (congrArg _ unknown)⟩

theorem turn_eq (unheard : remote.Unheard) (pacing : Pacing) (now : Nat) {role : Role}
    (address : (remote.ip? role).isSome) :
    remote.turn pacing now role =
      if (remote.probe role).isOverdue now then
        if (remote.probe role).attempts < pacing.maxAttempts then .ask else .giveUp
      else .rest := by
  obtain ⟨request, pending⟩ := unheard.pending address
  rw [turn, if_pos address, Probe.turn_of_pending pending]

theorem turn_cases (unheard : remote.Unheard) (pacing : Pacing) (now : Nat) (role : Role) :
    remote.turn pacing now role = .rest ∨
      ((remote.ip? role).isSome ∧ (remote.probe role).exhausted = false) ∧
        (remote.turn pacing now role = .ask ∨ remote.turn pacing now role = .giveUp) := by
  by_cases address : (remote.ip? role).isSome
  · rw [unheard.turn_eq pacing now address]
    split
    · rename_i overdue
      refine .inr ⟨⟨address, (Probe.isOverdue_iff.1 overdue).1⟩, ?_⟩
      split
      · exact .inl rfl
      · exact .inr rfl
    · exact .inl rfl
  · exact .inl (if_neg address)

theorem takeTurns (unheard : remote.Unheard) (pacing : Pacing) (now : Nat)
    (numbers : Role → UInt32) :
    (remote.takeTurns pacing now (remote.turn pacing now) numbers).2.Unheard := by
  constructor
  · intro role address
    obtain ⟨request, previous, progress⟩ := unheard.asked role address
    rw [probe_takeTurns]
    rcases unheard.turn_cases pacing now role with rest | ⟨-, ask | giveUp⟩
    · exact ⟨request, previous, by rw [rest]; exact progress⟩
    · exact ⟨_, _, by rw [ask]; rfl⟩
    · exact ⟨request, previous, by rw [giveUp]; exact progress⟩
  · intro role
    have unknown := unheard.unknown role
    rw [probe_takeTurns]
    rcases unheard.turn_cases pacing now role with rest | ⟨-, ask | giveUp⟩
    · rwa [rest]
    · rwa [ask]
    · rwa [giveUp]

theorem isSpent_takeTurns (unheard : remote.Unheard) (pacing : Pacing) (now : Nat)
    (numbers : Role → UInt32) (spent : remote.isSpent = true) :
    (remote.takeTurns pacing now (remote.turn pacing now) numbers).2.isSpent = true := by
  rw [isSpent_iff] at spent ⊢
  intro role address
  rw [probe_takeTurns]
  rcases unheard.turn_cases pacing now role with rest | ⟨⟨-, unspent⟩, -⟩
  · rw [rest]
    exact spent role address
  · cases unspent.symm.trans (spent role address)

theorem isHopeless (unheard : remote.Unheard) :
    remote.isHopeless = (!remote.fallbackGiven && remote.isSpent) := by
  have unknownPublic : remote.viaPublic.known = none := unheard.unknown .viaPublic
  have unknownPrivate : remote.viaPrivate.known = none := unheard.unknown .viaPrivate
  simp [Remote.isHopeless, anyKnown, unknownPublic, unknownPrivate, isSpent]

theorem giveUp_eq (unheard : remote.Unheard) :
    remote.giveUp.1 =
        (if remote.isSpent = true ∧ remote.fallbackGiven = false then remote.fallback? else none) ∧
      remote.giveUp.2.fallbackGiven = (remote.fallbackGiven || remote.isSpent) := by
  have hopeless := unheard.isHopeless
  by_cases due : remote.isHopeless = true
  · rw [giveUp_of_hopeless due]
    rw [hopeless, Bool.and_eq_true, Bool.not_eq_true'] at due
    simp [due.1, due.2]
  · rw [giveUp_of_not_hopeless due]
    rw [hopeless, Bool.and_eq_true, Bool.not_eq_true'] at due
    refine ⟨(if_neg fun both => due ⟨both.2, both.1⟩).symm, ?_⟩
    cases spent : remote.isSpent with
    | false => simp
    | true => simpa [spent] using due

theorem giveUp (unheard : remote.Unheard) : remote.giveUp.2.Unheard := by
  constructor
  · intro role address
    rw [ip?_giveUp] at address
    rw [probe_giveUp]
    exact unheard.asked role address
  · intro role
    rw [probe_giveUp]
    exact unheard.unknown role

end Unheard

theorem isSpent_giveUp (remote : Remote) : remote.giveUp.2.isSpent = remote.isSpent := by
  simp only [isSpent, probe_giveUp]
  rw [giveUp_frame]
  rfl

theorem isSpent_tick :
    (remote.tick pacing now numbers).2.isSpent =
      (remote.takeTurns pacing now (remote.turn pacing now) numbers).2.isSpent :=
  isSpent_giveUp _

structure Waits (remote : Remote) : Prop extends remote.Unheard where
  given : remote.fallbackGiven = remote.isSpent

namespace Waits
variable (waits : remote.Waits) (pacing : Pacing) (now : Nat) (numbers : Role → UInt32)
include waits

theorem isSpent_tick_of_isSpent (spent : remote.isSpent = true) :
    (remote.tick pacing now numbers).2.isSpent = true :=
  isSpent_tick.trans (waits.isSpent_takeTurns pacing now numbers spent)

theorem tick : (remote.tick pacing now numbers).2.Waits := by
  have later := waits.takeTurns pacing now numbers
  refine { later.giveUp with given := ?_ }
  have stays := waits.isSpent_takeTurns pacing now numbers
  have given : (remote.takeTurns pacing now (remote.turn pacing now) numbers).2.fallbackGiven =
    remote.isSpent := waits.given
  refine later.giveUp_eq.2.trans ?_
  rw [isSpent_tick, given]
  cases spent : remote.isSpent with
  | false => rfl
  | true => rw [stays spent]; rfl

theorem fallbacks_tick :
    (remote.tick pacing now numbers).1.fallbacks =
      if (remote.tick pacing now numbers).2.isSpent = true ∧ remote.isSpent = false then
        remote.fallback?.toList
      else [] := by
  have later := waits.takeTurns pacing now numbers
  rw [isSpent_tick, ← waits.given]
  exact (congrArg Option.toList later.giveUp_eq.1).trans (apply_ite Option.toList ..)

end Waits

/-! ## One attempt after the other -/

def Stage (pacing : Pacing) (count last : Nat) (remote : Remote) : Prop :=
  ∀ role, (remote.ip? role).isSome → (remote.probe role).exhausted = false ∧
    (remote.probe role).attempts = count ∧
    (remote.probe role).nextAt = some (last + pacing.backoff count)

theorem orders_takeTurns_of_ask (pacing : Pacing) (now : Nat) {turns : Role → Turn}
    (asks : ∀ role, (remote.ip? role).isSome → turns role = .ask) :
    (remote.takeTurns pacing now turns numbers).1.map (fun order => (order.role, order.destination)) =
      remote.endpoint.advertised remote.family remote.port := by
  simp only [takeTurns, Endpoint.advertised, List.map_filterMap]
  refine List.filterMap_congr fun role _ => ?_
  cases address : remote.ip? role with
  | none =>
      have nowhere : remote.endpoint.ip? remote.family role = none := address
      simp [order?, address, nowhere]
  | some ip =>
      have there : remote.endpoint.ip? remote.family role = some ip := address
      simp [order?, address, there, asks role (by rw [address]; rfl)]

namespace Stage
variable {count last : Nat}

theorem isSpent (stage : Stage pacing count last remote) (address : ∃ role, (remote.ip? role).isSome) :
    remote.isSpent = false := by
  obtain ⟨role, address⟩ := address
  rw [Bool.eq_false_iff]
  intro spent
  cases (stage role address).1.symm.trans (isSpent_iff.1 spent role address)

theorem turn (stage : Stage pacing count last remote) (waits : remote.Waits)
    (late : last + pacing.retryMax ≤ now) {role : Role} (address : (remote.ip? role).isSome) :
    remote.turn pacing now role = if count < pacing.maxAttempts then .ask else .giveUp := by
  obtain ⟨unspent, attempts, next⟩ := stage role address
  have soon := pacing.backoff_le_max count
  have overdue : (remote.probe role).isOverdue now = true :=
    Probe.isOverdue_iff.2 ⟨unspent, _, next, by omega⟩
  rw [waits.turn_eq pacing now address, if_pos overdue, attempts]

theorem ask (stage : Stage pacing count last remote) (waits : remote.Waits)
    (late : last + pacing.retryMax ≤ now) (left : count < pacing.maxAttempts)
    (address : ∃ role, (remote.ip? role).isSome) (numbers : Role → UInt32) :
    Stage pacing (count + 1) now (remote.tick pacing now numbers).2 ∧
      (remote.tick pacing now numbers).1.orders.map (fun order => (order.role, order.destination)) =
        remote.endpoint.advertised remote.family remote.port ∧
      (remote.tick pacing now numbers).1.fallbacks = [] := by
  have asks {role : Role} (address : (remote.ip? role).isSome) :
      remote.turn pacing now role = .ask := (stage.turn waits late address).trans (if_pos left)
  have next : Stage pacing (count + 1) now (remote.tick pacing now numbers).2 := by
    intro role address
    rw [ip?_tick] at address
    rw [probe_tick, asks address]
    have attempts := (stage role address).2.1
    exact ⟨rfl, congrArg (· + 1) attempts, by simp only [Probe.take, Probe.record, attempts]⟩
  refine ⟨next, orders_takeTurns_of_ask pacing now fun role => asks, ?_⟩
  rw [waits.fallbacks_tick, if_neg]
  rintro ⟨spent, -⟩
  have unspent := next.isSpent (by simpa only [ip?_tick] using address)
  cases unspent.symm.trans spent

theorem exhaust (stage : Stage pacing count last remote) (waits : remote.Waits)
    (late : last + pacing.retryMax ≤ now) (used : pacing.maxAttempts ≤ count)
    (address : ∃ role, (remote.ip? role).isSome) (numbers : Role → UInt32) :
    (remote.tick pacing now numbers).2.isSpent = true ∧
      (remote.tick pacing now numbers).1 = ⟨[], remote.fallback?.toList⟩ := by
  have gives {role : Role} (address : (remote.ip? role).isSome) :
      remote.turn pacing now role = .giveUp :=
    (stage.turn waits late address).trans (if_neg (Nat.not_lt.2 used))
  have spent : (remote.tick pacing now numbers).2.isSpent = true := by
    rw [isSpent_iff]
    intro role address
    rw [ip?_tick] at address
    rw [probe_tick, gives address]
    rfl
  have silent : (remote.tick pacing now numbers).1.orders = [] := by
    refine orders_takeTurns_of_rest pacing now fun role => ?_
    by_cases address : (remote.ip? role).isSome
    · rw [gives address]
      decide
    · rw [show remote.turn pacing now role = .rest from if_neg address]
      decide
  refine ⟨spent, ?_⟩
  have given := waits.fallbacks_tick pacing now numbers
  rw [if_pos ⟨spent, stage.isSpent address⟩] at given
  exact congr (congrArg Round.mk silent) given

end Stage
end Remote

/-! ## The ticks of a run -/

namespace PeerTable

/-- A tick of a run: when it came, what it said, and the table before it and after it. -/
structure Beat where
  now : Nat
  before : PeerTable
  round : Round
  after : PeerTable

def isSpent (table : PeerTable) (id : String) : Bool := (table.get? id).any Remote.isSpent

inductive Follows (pacing : Pacing) (id : String) : Remote → List Beat → Prop
  | nil (remote : Remote) : Follows pacing id remote []
  | cons {remote : Remote} {beat : Beat} {later : List Beat} {numbers : Role → UInt32}
      (before : beat.before.get? id = some remote)
      (round : beat.round.about id = (remote.tick pacing beat.now numbers).1)
      (after : beat.after.get? id = some (remote.tick pacing beat.now numbers).2)
      (rest : Follows pacing id (remote.tick pacing beat.now numbers).2 later) :
      Follows pacing id remote (beat :: later)

section
variable {table : PeerTable} {id : String} {remote : Remote} {pacing : Pacing}

end

namespace Follows
variable {pacing : Pacing} {id : String} {remote : Remote} {later : List Beat}

theorem fallbacks (follows : Follows pacing id remote later) (waits : remote.Waits) {i : Nat}
    {beat : Beat} (ticks : later[i]? = some beat) :
    (beat.round.about id).fallbacks =
      if remote.isSpent = false ∧ later.findIdx? (fun tick => tick.after.isSpent id) = some i then
        remote.fallback?.toList
      else [] := by
  induction follows generalizing i with
  | nil => cases ticks
  | @cons remote first later numbers before round after rest ih =>
      have spent : first.after.isSpent id = (remote.tick pacing first.now numbers).2.isSpent := by
        rw [isSpent, after]
        rfl
      cases i with
      | zero =>
          obtain rfl : first = beat := Option.some.inj ticks
          rw [round, waits.fallbacks_tick, List.findIdx?_cons, spent]
          simp [and_comm]
      | succ i =>
          rw [List.getElem?_cons_succ] at ticks
          have sameRoute : (remote.tick pacing first.now numbers).2.fallback? = remote.fallback? := by
            simp only [Remote.fallback?, Remote.endpoint_tick, Remote.family_tick]
          have stays := waits.isSpent_tick_of_isSpent pacing first.now numbers
          rw [ih (waits.tick pacing first.now numbers) ticks, sameRoute]
          refine if_congr ?_ rfl rfl
          rw [List.findIdx?_cons, spent]
          cases unspent : remote.isSpent with
          | false => cases (remote.tick pacing first.now numbers).2.isSpent <;> simp
          | true => simp [stays unspent]

end Follows

/-! ## From the first plan on -/

end PeerTable

namespace PeerTable

end PeerTable
end NatReach
