import NatReach.Proofs.PeerTable.Coherence

namespace NatReach
open PeerTable

structure Pacing.Waits (pacing : Pacing) : Prop where
  base : 0 < pacing.retryBase
  ceiling : 0 < pacing.retryMax
  revalidates : pacing.revalidate ≠ some 0

/-! ## One address -/

namespace Probe
variable {probe : Probe} {pacing : Pacing} {now : Nat} {number : UInt32}

theorem turn_record (waits : pacing.Waits) : (probe.record number now pacing).turn pacing now = .rest := by
  have later := Pacing.backoff_pos waits.base waits.ceiling (probe.attempts + 1)
  -- The next attempt is behind a wait that is not zero, so it is still to come.
  have early : (probe.record number now pacing).isOverdue now = false := by
    rw [Bool.eq_false_iff, ne_eq, isOverdue_iff]
    rintro ⟨-, time, next, due⟩
    cases next
    omega
  have pending : (probe.record number now pacing).progress = .pending number probe.known := rfl
  rw [turn, pending]
  exact if_pos (by rw [early]; rfl)

theorem turn_resolve (waits : pacing.Waits) (nat : Bool) :
    (probe.resolve nat now).turn pacing now = .rest := by
  have fresh : ¬ (probe.resolve nat now).isStale pacing now = true := by
    rw [isStale_iff]
    rintro ⟨interval, time, revalidates, resolved, due⟩
    cases resolved
    rw [Nat.sub_self, Nat.le_zero] at due
    exact waits.revalidates (due ▸ revalidates)
  exact if_neg fresh

theorem turn_exhaust {request : UInt32} {previous : Option Bool}
    (pending : probe.progress = .pending request previous) :
    probe.exhaust.turn pacing now = .rest := by
  have given : probe.exhaust.progress = .pending request previous := pending
  have never : probe.exhaust.isOverdue now = false := rfl
  rw [turn, given]
  exact if_pos (by rw [never]; rfl)

theorem turn_take (waits : pacing.Waits) :
    (probe.take pacing now number (probe.turn pacing now)).turn pacing now = .rest := by
  cases turn : probe.turn pacing now with
  | rest => exact turn
  | ask => exact turn_record waits
  | keep nat => exact turn_resolve waits nat
  | giveUp =>
      obtain ⟨⟨request, pending⟩, -⟩ := turn_eq_giveUp_iff.1 turn
      exact turn_exhaust pending

theorem turn_of_take (same : probe.take pacing now number (probe.turn pacing now) = probe) :
    probe.turn pacing now = .rest := by
  -- Every other turn leaves a trace: one more attempt, another progress, or the mark that it is given up.
  cases turn : probe.turn pacing now with
  | rest => rfl
  | ask =>
      rw [turn] at same
      have more : probe.attempts + 1 = probe.attempts := congrArg attempts same
      omega
  | keep nat =>
      rw [turn] at same
      obtain ⟨⟨request, pending⟩, -⟩ := turn_eq_keep_iff.1 turn
      have resolved : .resolved nat = probe.progress := congrArg progress same
      cases resolved.trans pending
  | giveUp =>
      rw [turn] at same
      obtain ⟨-, overdue, -⟩ := turn_eq_giveUp_iff.1 turn
      have spent : true = probe.exhausted := congrArg exhausted same
      cases spent.trans (isOverdue_iff.1 overdue).1

end Probe

/-! ## One remote -/

namespace Remote
variable {remote : Remote} {pacing : Pacing} {now : Nat} {numbers : Role → UInt32}

structure AtRest (remote : Remote) (pacing : Pacing) (now : Nat) : Prop where
  turns : ∀ role, remote.turn pacing now role = .rest
  hopeful : remote.isHopeless = false

theorem atRest_tick (waits : pacing.Waits) (remote : Remote) (now : Nat) (numbers : Role → UInt32) :
    (remote.tick pacing now numbers).2.AtRest pacing now where
  turns role := by
    rw [turn, ip?_tick, probe_tick]
    split
    · rename_i address
      rw [turn, if_pos address]
      exact Probe.turn_take waits
    · rfl
  hopeful := isHopeless_giveUp _

theorem atRest_of_tick (same : (remote.tick pacing now numbers).2 = remote) :
    remote.AtRest pacing now where
  turns role := by
    have probe := congrArg (Remote.probe · role) same
    simp only [probe_tick] at probe
    unfold turn at probe ⊢
    split
    · rename_i address
      rw [if_pos address] at probe
      exact Probe.turn_of_take probe
    · rfl
  hopeful := by
    rw [← same]
    exact isHopeless_giveUp _

theorem tickRole_of_rest {role : Role} (rests : remote.turn pacing now role = .rest) (number : UInt32) :
    remote.tickRole pacing now number role = (none, remote) := by
  rw [tickRole_eq_takeTurn, rests]
  exact Prod.ext rfl (setProbe_probe ..)

end Remote

/-! ## Tables -/

namespace PeerTable
variable {table : PeerTable} {id : String} {remote : Remote} {now : Nat} {walk : List String}

/-- That nothing is due about any remote. -/
def Settled (table : PeerTable) (now : Nat) : Prop :=
  ∀ id remote, table.get? id = some remote → remote.AtRest table.pacing now

theorem forRoles_of_rest (present : table.get? id = some remote)
    {step : Role → Remote → UInt32 → Option ProbeOrder × Remote}
    (rests : ∀ role number, step role remote number = (none, remote)) (roles : List Role) :
    forRoles id step roles table = ([], table) := by
  induction roles with
  | nil => rfl
  | cons role rest ih =>
      simp only [forRoles, withRemote_of_present present, rests, update_none present, ih]
      rfl

theorem giveUp_of_hopeful (present : table.get? id = some remote)
    (hopeful : remote.isHopeless = false) : table.giveUp id = (none, table) := by
  simp only [PeerTable.giveUp, present, Remote.giveUp_of_not_hopeless (Bool.eq_false_iff.1 hopeful)]
  exact Prod.ext rfl (put_get?_self present)

theorem tickRemote_of_settled (settled : table.Settled now) (id : String) :
    table.tickRemote now id = ({}, table) := by
  cases present : table.get? id with
  | none => exact tickRemote_of_absent present now
  | some remote =>
      have rests := settled id remote present
      have silent : forRoles id (fun role remote number => remote.tickRole table.pacing now number role)
          Role.inOrder table = ([], table) :=
        forRoles_of_rest present (fun role => Remote.tickRole_of_rest (rests.turns role)) _
      simp only [tickRemote_eq_forRoles, silent, giveUp_of_hopeful present rests.hopeful]
      rfl

theorem tickInOrder_of_settled (settled : table.Settled now) (walk : List String) :
    tickInOrder now walk table = ({}, table) := by
  induction walk with
  | nil => rfl
  | cons id rest ih => simp only [tickInOrder, tickRemote_of_settled settled, ih, List.append_nil]

theorem settled_of_tickInOrder (keyed : Keyed table) (all : walk.Perm table.remotes.keys)
    (same : (tickInOrder now walk table).2 = table) : table.Settled now := by
  intro id remote present
  obtain ⟨once, member⟩ := mem_walk all present
  obtain ⟨numbers, -, there⟩ := tickInOrder_of_present keyed present once member now
  rw [same, present] at there
  exact Remote.atRest_of_tick (Option.some.inj there).symm

theorem settled_tickInOrder (keyed : Keyed table) (waits : table.pacing.Waits)
    (all : walk.Perm table.remotes.keys) (now : Nat) : (tickInOrder now walk table).2.Settled now := by
  obtain ⟨_, changes, -⟩ := tickInOrder_changes now walk table
  intro id after there
  obtain ⟨remote, numbers, -, rfl⟩ := exists_remote_before keyed all there
  rw [changes.fixed.1]
  exact Remote.atRest_tick waits remote now numbers

/-- After every run, and at every time, be it before others, a tick that comes to all remotes leaves
nothing to do for a second one at that time: it orders no request, hands out no route and leaves the
table as it is, with the number of the next request, in whatever order both come to the remotes. This
needs waits that are not zero. A tick leaves a table as it is only if nothing is due about any remote. -/
theorem second_tick_idle {pacing : Pacing} {family : Family} {first : UInt32}
    {operations : List Operation} {log : List Event} {table : PeerTable}
    (base : 0 < pacing.retryBase) (ceiling : 0 < pacing.retryMax)
    (revalidates : pacing.revalidate ≠ some 0)
    (ran : run operations (new pacing family first) = (log, table)) {walk : List String}
    (all : walk.Perm table.remotes.keys) (now : Nat) :
    (let after := (tickInOrder now walk table).2
      ∀ again, tickInOrder now again after = ({}, after)) ∧
    ((tickInOrder now walk table).2 = table ↔ table.Settled now) := by
  obtain ⟨events, changes, -⟩ := run_changes operations (new pacing family first)
  rw [ran] at changes
  have keyed : Keyed table := changes.keyed (Agrees.new pacing family first).keyed
  have same : table.pacing = pacing := changes.fixed.1
  have waits : table.pacing.Waits := same ▸ ⟨base, ceiling, revalidates⟩
  refine ⟨tickInOrder_of_settled (settled_tickInOrder keyed waits all now), ?_, fun settled => ?_⟩
  · exact settled_of_tickInOrder keyed all
  · rw [tickInOrder_of_settled settled]

def halfAnswered : List Operation :=
  [.add twoAddresses 0, .plan "gateway" 0, .respond "gateway" 8 (.v4 ⟨198, 51, 100, 7⟩) false 200,
    .add { twoAddresses with cable := "branch" } 500]

theorem second_tick_idle_halfAnswered :
    let pacing : Pacing := { maxAttempts := 1, revalidate := some 500 }
    ∃ log table, run halfAnswered (new pacing .v4 7) = (log, table) ∧
      ["gateway", "branch"].Perm table.remotes.keys ∧
      (tickInOrder 1000 ["gateway", "branch"] table).1.orders.map
          (fun order => (order.id, order.role, order.number)) =
        [("gateway", .viaPublic, 9), ("branch", .viaPrivate, 10), ("branch", .viaPublic, 11)] ∧
      ¬ table.Settled 1000 ∧
      let after := (tickInOrder 1000 ["gateway", "branch"] table).2
      tickInOrder 1000 ["branch", "gateway"] after = ({}, after) := by
  intro pacing
  have keys : (run halfAnswered (new pacing .v4 7)).2.remotes.keys = ["branch", "gateway"] := by
    decide +kernel
  have orders : (tickInOrder 1000 ["gateway", "branch"]
      (run halfAnswered (new pacing .v4 7)).2).1.orders.map
        (fun order => (order.id, order.role, order.number)) =
      [("gateway", .viaPublic, 9), ("branch", .viaPrivate, 10), ("branch", .viaPublic, 11)] := by
    decide +kernel
  generalize ran : run halfAnswered (new pacing .v4 7) = result at keys orders
  obtain ⟨log, table⟩ := result
  have all : ["gateway", "branch"].Perm table.remotes.keys := keys ▸ .swap ..
  obtain ⟨idle, -⟩ := second_tick_idle (by decide) (by decide) (by decide) ran all 1000
  refine ⟨log, table, rfl, all, orders, fun settled => ?_, idle _⟩
  rw [tickInOrder_of_settled settled] at orders
  cases orders

end PeerTable
end NatReach
