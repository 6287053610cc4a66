import NatReach.Proofs.Endpoint.Port
import NatReach.Proofs.PeerTable.GiveUp

namespace NatReach
open PeerTable

/-! ## Probes -/

namespace Probe

/-- That the fields of a probe are in accord. -/
def Coherent (probe : Probe) : Prop :=
  match probe.progress with
  | .unresolved => probe.lastRequest = none ∧ probe.attempts = 0 ∧ probe.nextAt = none ∧
      probe.resolvedAt = none ∧ probe.exhausted = false
  | .pending request previous => probe.lastRequest = some request ∧ 1 ≤ probe.attempts ∧
      (probe.resolvedAt.isSome ↔ previous.isSome) ∧ (probe.exhausted = true ↔ probe.nextAt = none) ∧
      (probe.exhausted = true → previous = none)
  | .resolved _ => probe.lastRequest.isSome ∧ probe.attempts = 0 ∧ probe.nextAt = none ∧
      probe.resolvedAt.isSome ∧ probe.exhausted = false

namespace Coherent
variable {probe : Probe}

theorem new : Coherent {} := ⟨rfl, rfl, rfl, rfl, rfl⟩

theorem asked_iff (coherent : probe.Coherent) :
    probe.lastRequest.isSome ↔ probe.progress ≠ .unresolved := by
  unfold Coherent at coherent
  split at coherent <;> simp_all

theorem resolvedAt_iff (coherent : probe.Coherent) :
    probe.resolvedAt.isSome ↔ probe.known.isSome := by
  unfold Coherent at coherent
  unfold known Progress.known
  split at coherent <;> simp_all

theorem record (coherent : probe.Coherent) (request : UInt32) (now : Nat) (pacing : Pacing) :
    (probe.record request now pacing).Coherent :=
  ⟨rfl, Nat.le_add_left .., coherent.resolvedAt_iff, ⟨nofun, nofun⟩, nofun⟩

theorem resolve (asked : probe.lastRequest.isSome) (nat : Bool) (now : Nat) :
    (probe.resolve nat now).Coherent := ⟨asked, rfl, rfl, rfl, rfl⟩

theorem settle (coherent : probe.Coherent) (asked : probe.lastRequest.isSome) (nat : Bool) (now : Nat) :
    (probe.settle nat now).Coherent := by
  unfold Probe.settle
  split
  · exact coherent
  · exact resolve asked nat now

theorem exhaust (coherent : probe.Coherent) {pacing : Pacing} {now : Nat}
    (turn : probe.turn pacing now = .giveUp) : probe.exhaust.Coherent := by
  obtain ⟨⟨request, pending⟩, -⟩ := turn_eq_giveUp_iff.1 turn
  have given : probe.exhaust.progress = .pending request none := pending
  unfold Coherent at coherent ⊢
  rw [pending] at coherent
  rw [given]
  obtain ⟨last, attempts, resolvedAt, -⟩ := coherent
  exact ⟨last, attempts, resolvedAt, ⟨fun _ => rfl, fun _ => rfl⟩, fun _ => rfl⟩

theorem of_turn_rest (coherent : probe.Coherent) {pacing : Pacing} {now : Nat}
    (turn : probe.turn pacing now = .rest) :
    probe.progress ≠ .unresolved ∧ ∀ time, probe.nextAt = some time → now ≤ time := by
  unfold Coherent at coherent
  unfold Probe.turn at turn
  cases progress : probe.progress with
  | unresolved =>
      rw [progress] at coherent turn
      obtain ⟨-, attempts, -, -, exhausted⟩ := coherent
      simp [attempts, exhausted] at turn
  | resolved nat =>
      rw [progress] at coherent
      obtain ⟨-, -, next, -⟩ := coherent
      rw [next]
      exact ⟨nofun, nofun⟩
  | pending request previous =>
      rw [progress] at coherent turn
      obtain ⟨-, -, -, exhausted, -⟩ := coherent
      refine ⟨nofun, fun time next => ?_⟩
      have going : probe.exhausted = false := by
        rw [Bool.eq_false_iff, ne_eq, exhausted, next]
        nofun
      by_contra late
      have overdue : probe.isOverdue now = true := isOverdue_iff.2 ⟨going, time, next, by omega⟩
      simp only [overdue, Bool.not_true, Bool.false_eq_true, ↓reduceIte] at turn
      split at turn
      · cases turn
      · split at turn <;> cases turn

theorem take_turn (coherent : probe.Coherent) (pacing : Pacing) (now : Nat) (number : UInt32) :
    let after := probe.take pacing now number (probe.turn pacing now)
    after.progress ≠ .unresolved ∧ ∀ time, after.nextAt = some time → now ≤ time := by
  cases turn : probe.turn pacing now with
  | rest => exact coherent.of_turn_rest turn
  | ask =>
      refine ⟨nofun, fun time next => ?_⟩
      cases next
      exact Nat.le_add_right ..
  | keep nat => exact ⟨nofun, nofun⟩
  | giveUp =>
      obtain ⟨⟨request, pending⟩, -⟩ := turn_eq_giveUp_iff.1 turn
      refine ⟨?_, nofun⟩
      change probe.progress ≠ .unresolved
      rw [pending]
      nofun

end Coherent
end Probe

/-! ## Remotes -/

namespace Remote

/-- That the fields of a remote are in accord: it is asked only at addresses that it has, and as long
as nothing is known, a route that was handed out is the one handed out when it was given up. -/
structure Coherent (remote : Remote) : Prop where
  probes : ∀ role, (remote.probe role).Coherent
  address : ∀ role, (remote.probe role).progress ≠ .unresolved → (remote.ip? role).isSome
  guess : remote.anyKnown = false → ∀ route, remote.lastRoute = some route → route.isFallback = true
  given : ∀ route, remote.lastRoute = some route → route.isFallback = true →
    remote.fallbackGiven = true

theorem isFallback_of_route? {remote : Remote} {route : Route} (found : remote.route? = some route) :
    route.isFallback = false := by
  unfold route? at found
  split at found <;> cases found <;> rfl

theorem lastRoute_accept {remote : Remote} {role : Role} {nat : Bool} {now : Nat} {route : Route}
    (last : (remote.accept role nat now).2.lastRoute = some route) :
    remote.lastRoute = some route ∨ route.isFallback = false := by
  unfold accept handOut at last
  dsimp only at last
  split at last
  · split at last
    · exact .inl ((lastRoute_setProbe ..).symm.trans last)
    · rename_i found
      split at last
      · exact .inl ((lastRoute_setProbe ..).symm.trans last)
      · cases last
        exact .inr (isFallback_of_route? found)
  · exact .inl ((lastRoute_setProbe ..).symm.trans last)

theorem isHopeless_giveUp (remote : Remote) : remote.giveUp.2.isHopeless = false := by
  by_cases hopeless : remote.isHopeless = true
  · rw [giveUp_of_hopeless hopeless]
    simp [isHopeless]
  · rw [giveUp_of_not_hopeless hopeless]
    exact Bool.eq_false_iff.2 hopeless

namespace Coherent
variable {remote after : Remote} {role : Role}

theorem new (endpoint : Endpoint) (family : Family) (port : UInt16) (started : Nat) :
    Coherent { endpoint, family, port, started } where
  probes role := by cases role <;> exact .new
  address role asked := by cases role <;> exact absurd rfl asked
  guess _ _ last := by cases last
  given _ last := by cases last

theorem setProbe (coherent : remote.Coherent) {probe : Probe} (here : probe.Coherent)
    (known : probe.known = (remote.probe role).known) (address : (remote.ip? role).isSome) :
    (remote.setProbe role probe).Coherent where
  probes := forall_setProbe here coherent.probes
  address other := by
    rw [ip?_setProbe]
    exact forall_setProbe (P := fun other probe => probe.progress ≠ .unresolved →
      (remote.ip? other).isSome) (fun _ => address) coherent.address other
  guess unknown := by
    rw [lastRoute_setProbe]
    refine coherent.guess ?_
    rw [Bool.eq_false_iff, ne_eq, anyKnown_iff] at unknown ⊢
    rintro ⟨other, some⟩
    exact unknown ⟨other, by rwa [probe_setProbe_congr Probe.known known]⟩
  given := by
    rw [lastRoute_setProbe, fallbackGiven_setProbe]
    exact coherent.given

theorem ask (coherent : remote.Coherent) {pacing : Pacing} {now : Nat} {number : UInt32}
    {order : ProbeOrder} (asks : remote.ask pacing now number role = (some order, after)) :
    after.Coherent := by
  obtain ⟨ip, address, -, rfl⟩ := ask_eq_some_iff.1 asks
  exact coherent.setProbe ((coherent.probes role).record ..) (Probe.known_record ..)
    (by rw [address]; rfl)

theorem giveUp (coherent : remote.Coherent) (hopeless : remote.isHopeless = true) :
    remote.giveUp.2.Coherent where
  probes role := by
    rw [probe_giveUp]
    exact coherent.probes role
  address role := by
    rw [probe_giveUp, ip?_giveUp]
    exact coherent.address role
  guess unknown route last := by
    rw [giveUp_of_hopeless hopeless] at last unknown
    cases fallback : remote.fallback? with
    | none =>
        rw [fallback] at last
        exact coherent.guess unknown route last
    | some given =>
        rw [fallback] at last
        cases last
        simp [Route.isFallback, (selected_fallback? fallback).2]
  given route last _ := by
    rw [giveUp_of_hopeless hopeless]

theorem accept (coherent : remote.Coherent) (asked : (remote.probe role).lastRequest.isSome)
    (nat : Bool) (now : Nat) : (remote.accept role nat now).2.Coherent where
  probes other := by
    rw [probe_accept]
    split
    · exact (coherent.probes role).settle asked nat now
    · exact coherent.probes other
  address other some := by
    rw [probe_accept] at some
    rw [ip?_accept]
    split at some
    · rename_i same
      rw [← same]
      exact coherent.address role ((coherent.probes role).asked_iff.1 asked)
    · exact coherent.address other some
  guess unknown := by
    -- an answer leaves something known
    rw [Bool.eq_false_iff, ne_eq, anyKnown_iff] at unknown
    refine absurd ⟨role, ?_⟩ unknown
    rw [probe_accept, if_pos rfl, Probe.known_settle]
    rfl
  given route last guess := by
    rw [fallbackGiven_accept]
    rcases lastRoute_accept last with before | known
    · exact coherent.given route before guess
    · cases known.symm.trans guess

theorem move (coherent : remote.Coherent) {pacing : Pacing} {id : String} {events : List Event}
    (move : remote.Move pacing id events after) : after.Coherent := by
  cases move with
  | @keep role now nat address turn =>
      have pending : ∃ request, (remote.probe role).progress = .pending request (some nat) :=
        (Probe.turn_eq_keep_iff.1 turn).1
      have asked : (remote.probe role).lastRequest.isSome := by
        obtain ⟨request, pending⟩ := pending
        rw [(coherent.probes role).asked_iff, pending]
        nofun
      refine coherent.setProbe (.resolve asked nat now) ?_ address
      rw [Probe.known_of_turn_keep turn, Probe.known_resolve]
  | exhaust address turn =>
      exact coherent.setProbe ((coherent.probes _).exhaust turn) (Probe.known_exhaust _) address
  | giveUp hopeless => exact coherent.giveUp hopeless
  | accept counts => exact coherent.accept (by rw [counts.lastRequest]; rfl) ..

theorem tick (coherent : remote.Coherent) (pacing : Pacing) (now : Nat) (numbers : Role → UInt32) :
    let after := (remote.tick pacing now numbers).2
    after.isHopeless = false ∧ ∀ role, (after.ip? role).isSome →
      (after.probe role).progress ≠ .unresolved ∧
        ∀ time, (after.probe role).nextAt = some time → now ≤ time := by
  refine ⟨isHopeless_giveUp _, fun role address => ?_⟩
  rw [ip?_tick] at address
  rw [probe_tick, turn, if_pos address]
  exact (coherent.probes role).take_turn ..

end Coherent

theorem Move.attempts {pacing : Pacing} {id : String} {remote after : Remote} {events : List Event}
    (move : remote.Move pacing id events after) (role : Role) :
    (after.probe role).attempts ≤ (remote.probe role).attempts := by
  cases move with
  | keep address turn =>
      exact forall_setProbe (P := fun role probe => probe.attempts ≤ (remote.probe role).attempts)
        (Nat.zero_le _) (fun _ => Nat.le_refl _) role
  | @exhaust other now address turn =>
      have same : (remote.probe other).exhaust.attempts = (remote.probe other).attempts := rfl
      exact Nat.le_of_eq (probe_setProbe_congr Probe.attempts same role)
  | giveUp hopeless => exact Nat.le_of_eq (congrArg _ (probe_giveUp ..))
  | accept counts =>
      rw [probe_accept]
      split
      · rename_i same
        rw [← same, Probe.settle]
        split
        · exact Nat.le_refl _
        · exact Nat.zero_le _
      · exact Nat.le_refl _

end Remote

/-! ## Tables -/

namespace PeerTable

structure Sorted (id : String) (family : Family) (story : Chronicle) (remote : Remote) : Prop where
  cable : remote.endpoint.cable = id
  sameFamily : remote.family = family
  port : remote.endpoint.discoveryPort = .ok (some remote.port)
  coherent : remote.Coherent
  attempts : ∀ role, (remote.probe role).attempts ≤ story.orders.length

namespace Sorted
variable {id : String} {family : Family} {story : Chronicle} {remote after : Remote}

theorem new {endpoint : Endpoint} {port : UInt16} (family : Family) (now : Nat)
    (answers : endpoint.discoveryPort = .ok (some port)) :
    Sorted endpoint.cable family { endpoint } { endpoint, family, port, started := now } where
  cable := rfl
  sameFamily := rfl
  port := answers
  coherent := .new ..
  attempts role := by cases role <;> exact Nat.le_refl _

theorem ask (sorted : Sorted id family story remote) {pacing : Pacing} {now : Nat} {number : UInt32}
    {role : Role} {order : ProbeOrder}
    (asks : remote.ask pacing now number role = (some order, after)) :
    Sorted id family (story.ask order) after := by
  have coherent := sorted.coherent.ask asks
  obtain ⟨ip, -, -, rfl⟩ := Remote.ask_eq_some_iff.1 asks
  refine ⟨?_, ?_, ?_, coherent, ?_⟩
  · rw [Remote.endpoint_setProbe, sorted.cable]
  · rw [Remote.family_setProbe, sorted.sameFamily]
  · rw [Remote.endpoint_setProbe, Remote.port_setProbe, sorted.port]
  · have more (other : Role) := Nat.le_succ_of_le (sorted.attempts other)
    exact Remote.forall_setProbe (P := fun _ probe => probe.attempts ≤ (story.ask order).orders.length)
      (Nat.succ_le_succ (sorted.attempts role)) more

theorem move (sorted : Sorted id family story remote) {pacing : Pacing} {events : List Event}
    (move : remote.Move pacing id events after) :
    ∃ later, events.foldl (Chronicle.note id) (some story) = some later ∧
      Sorted id family later after := by
  have after' (later : Chronicle) (orders : later.orders = story.orders) :
      Sorted id family later after := by
    obtain ⟨endpoint, sameFamily, port, -⟩ := move.sameDiscovery
    refine ⟨?_, ?_, ?_, sorted.coherent.move move, fun role => ?_⟩
    · rw [endpoint, sorted.cable]
    · rw [sameFamily, sorted.sameFamily]
    · rw [endpoint, port, sorted.port]
    · rw [orders]
      exact Nat.le_trans (move.attempts role) (sorted.attempts role)
  cases move with
  | keep => exact ⟨story, rfl, after' story rfl⟩
  | exhaust => exact ⟨story, rfl, after' story rfl⟩
  | giveUp hopeless => exact ⟨_, note_giveUp sorted.cable hopeless, after' _ rfl⟩
  | @accept role number source nat now counts =>
      let later := (story.hear number nat).handOut (remote.accept role nat now).1
      exact ⟨later, by simp [Chronicle.note, later], after' later rfl⟩

end Sorted

theorem Change.sorted {log : List Event} {table after : PeerTable} {events : List Event}
    (change : Change table events after)
    (sorted : ∀ id, Option.Rel (Sorted id table.family) (chronicle id log) (table.get? id)) (id : String) :
    Option.Rel (Sorted id table.family) (chronicle id (log ++ events)) (after.get? id) :=
  change.related sorted (fun sorted => sorted.cable) (fun now answers => .new _ now answers)
    (fun sorted asks => sorted.ask asks) (fun _ sorted => sorted.move) id

theorem Changes.sorted {pacing : Pacing} {family : Family} {first : UInt32} {table : PeerTable}
    {log : List Event} (changes : Changes (new pacing family first) log table) (id : String) :
    Option.Rel (Sorted id family) (chronicle id log) (table.get? id) := by
  induction changes generalizing id with
  | refl => exact .none
  | more changes change ih =>
      have same : _ = family := changes.fixed.2
      rw [← same] at ih ⊢
      exact change.sorted ih id

theorem run_sorted {pacing : Pacing} {family : Family} {first : UInt32}
    {operations : List Operation} {log : List Event} {table : PeerTable}
    (ran : run operations (new pacing family first) = (log, table)) {id : String} {remote : Remote}
    (present : table.get? id = some remote) :
    table.family = family ∧ ∃ story, Sorted id family story remote ∧
      story.orders.length ≤ (issued log).length := by
  obtain ⟨events, changes, same⟩ := run_changes operations (new pacing family first)
  rw [ran] at changes same
  have rel := changes.sorted id
  rw [present] at rel
  obtain ⟨story, tells, sorted⟩ := exists_left_of_rel rel
  have part := (chronicle_orders tells).length_le
  rw [List.length_reverse, same.issued] at part
  exact ⟨changes.fixed.2, story, sorted, part⟩

theorem exists_remote_before {table : PeerTable} (keyed : Keyed table) {walk : List String}
    (all : walk.Perm table.remotes.keys) {now : Nat} {id : String} {after : Remote}
    (present : (tickInOrder now walk table).2.get? id = some after) :
    ∃ remote numbers, table.get? id = some remote ∧
      after = (remote.tick table.pacing now numbers).2 := by
  cases before : table.get? id with
  | none =>
      obtain ⟨-, absent⟩ := tickInOrder_of_idle keyed (fun _ => before) now
      rw [absent, before] at present
      cases present
  | some remote =>
      obtain ⟨once, member⟩ := mem_walk all before
      obtain ⟨numbers, -, there⟩ := tickInOrder_of_present keyed before once member now
      rw [there] at present
      exact ⟨remote, numbers, rfl, (Option.some.inj present).symm⟩

/-- After every run, every remote is under the name of its endpoint, in the family of the table, with the
port that its endpoint names, and its fields are in accord. No address was attempted more often than
requests were ordered. And after a tick that comes to all remotes, in any order, all addresses have
been asked, no deadline has passed, and every remote with nothing known and nothing left to try has
been given up. -/
theorem remotes_coherent {pacing : Pacing} {family : Family} {first : UInt32}
    {operations : List Operation} {log : List Event} {table : PeerTable}
    (ran : run operations (new pacing family first) = (log, table)) :
    (∀ id remote, table.get? id = some remote →
      remote.endpoint.cable = id ∧ remote.family = table.family ∧
        remote.endpoint.discoveryPort = .ok (some remote.port) ∧ 1 ≤ remote.port ∧
        remote.Coherent ∧ ∀ role, (remote.probe role).attempts ≤ (issued log).length) ∧
    ∀ walk now id remote, walk.Perm table.remotes.keys →
      (tickInOrder now walk table).2.get? id = some remote →
      (remote.anyKnown = false →
        (∀ role, (remote.ip? role).isSome → (remote.probe role).exhausted = true) →
        remote.fallbackGiven = true) ∧
      ∀ role, (remote.ip? role).isSome → (remote.probe role).progress ≠ .unresolved ∧
        ∀ time, (remote.probe role).nextAt = some time → now ≤ time := by
  constructor
  · intro id remote present
    obtain ⟨same, story, sorted, few⟩ := run_sorted ran present
    exact ⟨sorted.cable, sorted.sameFamily.trans same.symm, sorted.port,
      Endpoint.discoveryPort_pos sorted.port, sorted.coherent,
      fun role => Nat.le_trans (sorted.attempts role) few⟩
  · intro walk now id after all there
    have keyed : Keyed table := fun id remote present => by
      obtain ⟨-, story, sorted, -⟩ := run_sorted ran present
      exact sorted.cable
    obtain ⟨remote, numbers, present, rfl⟩ := exists_remote_before keyed all there
    obtain ⟨-, story, sorted, -⟩ := run_sorted ran present
    obtain ⟨hopeful, asked⟩ := sorted.coherent.tick table.pacing now numbers
    refine ⟨fun unknown spent => ?_, asked⟩
    rw [← Remote.isSpent_iff] at spent
    by_contra notGiven
    rw [Bool.not_eq_true] at notGiven
    have hopeless : (remote.tick table.pacing now numbers).2.isHopeless = true := by
      rw [Remote.isHopeless, notGiven, unknown]
      exact spent
    cases hopeful.symm.trans hopeless

theorem remotes_coherent_givenUp :
    ∃ log table before after,
      run [.add twoAddresses 0, .plan "gateway" 0] (new { maxAttempts := 1 } .v4 7) = (log, table) ∧
      table.get? "gateway" = some before ∧ before.Coherent ∧ before.fallbackGiven = false ∧
      ["gateway"].Perm table.remotes.keys ∧
      (tickInOrder 1000 ["gateway"] table).2.get? "gateway" = some after ∧
      (∀ role, (after.probe role).exhausted = true) ∧ after.fallbackGiven = true := by
  generalize ran : run [.add twoAddresses 0, .plan "gateway" 0] (new { maxAttempts := 1 } .v4 7) = result
  have asked : (result.2.get? "gateway").map (·.fallbackGiven) = some false := by
    rw [← ran]
    decide +kernel
  have walk : ["gateway"] = result.2.remotes.keys := by
    rw [← ran]
    decide +kernel
  have spent : ((tickInOrder 1000 ["gateway"] result.2).2.get? "gateway").map (fun remote =>
      (remote.anyKnown, remote.viaPublic.exhausted, remote.viaPrivate.exhausted)) =
        some (false, true, true) := by
    rw [← ran]
    decide +kernel
  obtain ⟨log, table⟩ := result
  obtain ⟨before, present, notGiven⟩ := Option.map_eq_some_iff.1 asked
  obtain ⟨after, there, ends⟩ := Option.map_eq_some_iff.1 spent
  simp only [Prod.mk.injEq] at ends
  obtain ⟨remotes, ticks⟩ := remotes_coherent ran
  obtain ⟨-, -, -, -, coherent, -⟩ := remotes "gateway" before present
  have exhausted (role : Role) : (after.probe role).exhausted = true := by
    cases role
    · exact ends.2.1
    · exact ends.2.2
  obtain ⟨given, -⟩ := ticks ["gateway"] 1000 "gateway" after (.of_eq walk) there
  exact ⟨log, table, before, after, rfl, present, coherent, notGiven, .of_eq walk, there, exhausted,
    given ends.1 fun role _ => exhausted role⟩

end PeerTable
end NatReach
