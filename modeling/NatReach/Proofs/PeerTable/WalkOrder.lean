import Mathlib.GroupTheory.Perm.Basic
import NatReach.Proofs.PeerTable.FreeNumbers
import NatReach.Proofs.PeerTable.Kinship

namespace NatReach
open PeerTable

/-! ## Other numbers -/

/-- What a request says, apart from its number. -/
def ProbeOrder.content (order : ProbeOrder) : String × Identity × Role × SocketAddress :=
  (order.id, order.receiver, order.role, order.destination)

def ProbeOrder.renumber (rename : UInt32 → UInt32) (order : ProbeOrder) : ProbeOrder :=
  { order with number := rename order.number }

def Probe.AwaitsLast (probe : Probe) : Prop :=
  ∀ request previous, probe.progress = .pending request previous → probe.lastRequest = some request

namespace Probe
variable {same : UInt32 → UInt32 → Prop} {probe : Probe}

theorem Alike.of_kept (last : ∀ number, probe.lastRequest = some number → same number number)
    (pending : ∀ number previous, probe.progress = .pending number previous → same number number) :
    Alike same probe probe where
  progress := by
    cases progress : probe.progress with
    | unresolved => exact .unresolved
    | pending request previous => exact .pending (pending request previous progress) previous
    | resolved nat => exact .resolved nat
  lastRequest := by
    cases request : probe.lastRequest with
    | none => exact .none
    | some number => exact .some (last number request)
  attempts := rfl
  nextAt := rfl
  resolvedAt := rfl
  exhausted := rfl

theorem AwaitsLast.alike (awaits : probe.AwaitsLast)
    (kept : ∀ number, probe.lastRequest = some number → same number number) :
    Alike same probe probe :=
  .of_kept kept fun number previous pending => kept number (awaits number previous pending)

theorem record_alike {number number' : UInt32} (requests : same number number') (now : Nat)
    (pacing : Pacing) :
    Alike same (probe.record number now pacing) (probe.record number' now pacing) :=
  ⟨.pending requests _, .some requests, rfl, rfl, rfl, rfl⟩

end Probe

namespace Remote

structure Alike (same : UInt32 → UInt32 → Prop) (first second : Remote) : Prop where
  endpoint : first.endpoint = second.endpoint
  family : first.family = second.family
  port : first.port = second.port
  started : first.started = second.started
  fallbackGiven : first.fallbackGiven = second.fallbackGiven
  lastRoute : first.lastRoute = second.lastRoute
  probe : ∀ role, Probe.Alike same (first.probe role) (second.probe role)

section
variable {same : UInt32 → UInt32 → Prop} {first second : Remote}

theorem Alike.isHopeless (alike : Alike same first second) : first.isHopeless = second.isHopeless := by
  have viaPublic := (alike.probe .viaPublic).known
  have viaPrivate := (alike.probe .viaPrivate).known
  have addresses (role : Role) : first.ip? role = second.ip? role := by
    rw [ip?, ip?, alike.endpoint, alike.family]
  have spent (role : Role) : (first.probe role).exhausted = (second.probe role).exhausted :=
    (alike.probe role).exhausted
  simp only [Remote.probe] at viaPublic viaPrivate
  simp only [Remote.isHopeless, anyKnown, roles, alike.fallbackGiven, viaPublic, viaPrivate,
    addresses, spent]

theorem Alike.giveUp (alike : Alike same first second) :
    first.giveUp.1 = second.giveUp.1 ∧ Alike same first.giveUp.2 second.giveUp.2 := by
  have fallback : first.fallback? = second.fallback? := by
    rw [fallback?, fallback?, alike.endpoint, alike.family]
  by_cases hopeless : first.isHopeless = true
  · rw [giveUp_of_hopeless hopeless, giveUp_of_hopeless (alike.isHopeless ▸ hopeless), fallback]
    refine ⟨rfl, alike.endpoint, alike.family, alike.port, alike.started, rfl, ?_, fun role => ?_⟩
    · exact congrArg second.fallback?.or alike.lastRoute
    · rw [probe_given, probe_given]
      exact alike.probe role
  · rw [giveUp_of_not_hopeless hopeless, giveUp_of_not_hopeless (alike.isHopeless ▸ hopeless)]
    exact ⟨rfl, alike⟩

end

section
variable {remote : Remote} {pacing : Pacing} {now : Nat} {numbers numbers' : Role → UInt32}

theorem takeTurns_alike {same : UInt32 → UInt32 → Prop}
    (asked : ∀ role, remote.turn pacing now role = .ask → same (numbers role) (numbers' role))
    (others : ∀ role, remote.turn pacing now role ≠ .ask →
      Probe.Alike same (remote.probe role) (remote.probe role)) :
    Alike same (remote.takeTurns pacing now (remote.turn pacing now) numbers).2
      (remote.takeTurns pacing now (remote.turn pacing now) numbers').2 := by
  refine ⟨rfl, rfl, rfl, rfl, rfl, rfl, fun role => ?_⟩
  rw [probe_takeTurns, probe_takeTurns]
  cases turn : remote.turn pacing now role with
  | rest => exact others role (by rw [turn]; nofun)
  | ask => exact Probe.record_alike (asked role turn) now pacing
  | keep nat => exact (others role (by rw [turn]; nofun)).resolve nat now
  | giveUp => exact (others role (by rw [turn]; nofun)).exhaust

theorem tick_alike {same : UInt32 → UInt32 → Prop}
    (asked : ∀ role, remote.turn pacing now role = .ask → same (numbers role) (numbers' role))
    (others : ∀ role, remote.turn pacing now role ≠ .ask →
      Probe.Alike same (remote.probe role) (remote.probe role)) :
    Alike same (remote.tick pacing now numbers).2 (remote.tick pacing now numbers').2 :=
  (takeTurns_alike asked others).giveUp.2

theorem fallbacks_tick (remote : Remote) (pacing : Pacing) (now : Nat) (numbers numbers' : Role → UInt32) :
    (remote.tick pacing now numbers).1.fallbacks = (remote.tick pacing now numbers').1.fallbacks := by
  -- whether a remote is given up depends on no number
  have taken : Alike (fun _ _ => True) (remote.takeTurns pacing now (remote.turn pacing now) numbers).2
      (remote.takeTurns pacing now (remote.turn pacing now) numbers').2 :=
    takeTurns_alike (fun _ _ => trivial) fun _ _ => .of_kept (fun _ _ => trivial) fun _ _ _ => trivial
  exact congrArg Option.toList taken.giveUp.1

theorem mem_orders_tick {order : ProbeOrder}
    (member : order ∈ (remote.tick pacing now numbers).1.orders) :
    remote.turn pacing now order.role = .ask ∧ order.id = remote.endpoint.cable ∧
      order.number = numbers order.role := by
  obtain ⟨role, -, asked⟩ := List.mem_filterMap.1 member
  split at asked
  · rename_i turn
    obtain ⟨ip, -, rfl⟩ := order?_eq_some_iff.1 asked
    exact ⟨turn, rfl, rfl⟩
  · cases asked

theorem map_orders_tick {α : Type} {view view' : ProbeOrder → α}
    (same : ∀ order : ProbeOrder, remote.turn pacing now order.role = .ask →
      order.id = remote.endpoint.cable →
      view { order with number := numbers order.role } =
        view' { order with number := numbers' order.role }) :
    (remote.tick pacing now numbers).1.orders.map view =
      (remote.tick pacing now numbers').1.orders.map view' := by
  simp only [tick, takeTurns, List.map_filterMap]
  refine List.filterMap_congr fun role _ => ?_
  split
  · rename_i turn
    rw [order?, order?, Option.map_map, Option.map_map]
    cases remote.ip? role with
    | none => rfl
    | some ip =>
        let order : ProbeOrder := ⟨remote.endpoint.cable, remote.endpoint.identity, role, numbers role,
          .ofIp ip remote.port⟩
        exact congrArg some (same order turn rfl)
  · rfl

theorem exists_order_tick (numbers : Role → UInt32) {role : Role} (turn : remote.turn pacing now role = .ask) :
    ∃ order ∈ (remote.tick pacing now numbers).1.orders, order.role = role := by
  refine (exists_order_takeTurns remote pacing now _ numbers role).2 ⟨turn, ?_⟩
  unfold Remote.turn at turn
  split at turn
  · assumption
  · cases turn

theorem samePlace_tick {role : Role} (turn : remote.turn pacing now role = .ask) :
    SamePlace ((remote.tick pacing now numbers).1.orders.map (·.number))
      ((remote.tick pacing now numbers').1.orders.map (·.number)) (numbers role) (numbers' role) := by
  obtain ⟨order, member, ofRole⟩ := exists_order_tick numbers turn
  obtain ⟨place, here⟩ := List.mem_iff_getElem?.1 member
  have roles : (remote.tick pacing now numbers).1.orders.map (·.role) =
      (remote.tick pacing now numbers').1.orders.map (·.role) := map_orders_tick fun _ _ _ => rfl
  have there := congrArg (·[place]?) roles
  simp only [List.getElem?_map, here, Option.map_some, ofRole] at there
  obtain ⟨order', here', ofRole'⟩ := Option.map_eq_some_iff.1 there.symm
  refine ⟨place, ?_, ?_⟩
  · rw [List.getElem?_map, here, Option.map_some, (mem_orders_tick member).2.2, ofRole]
  · rw [List.getElem?_map, here', Option.map_some,
      (mem_orders_tick (List.mem_of_getElem? here')).2.2, ofRole']

end
end Remote

/-! ## A round and its parts -/

namespace PeerTable
variable {table : PeerTable}

theorem tickInOrder_fallbacks (now : Nat) (id : String) (rest : List String) (table : PeerTable) :
    (tickInOrder now (id :: rest) table).1.fallbacks = (table.tickRemote now id).1.fallbacks ++
      (tickInOrder now rest (table.tickRemote now id).2).1.fallbacks := rfl

theorem tickInOrder_parts (keyed : Keyed table) (now : Nat) {walk : List String} (once : walk.Nodup) :
    let round := (tickInOrder now walk table).1
    round.orders = walk.flatMap (fun id => (round.about id).orders) ∧
      round.fallbacks = walk.flatMap fun id => (round.about id).fallbacks := by
  induction walk generalizing table with
  | nil => exact ⟨rfl, rfl⟩
  | cons id rest ih =>
      rw [List.nodup_cons] at once
      have keyedAfter := (tickRemote_changes table now id).keyed keyed
      have here : (tickInOrder now (id :: rest) table).1.about id = (table.tickRemote now id).1 := by
        obtain ⟨silent, -⟩ := tickInOrder_of_idle keyedAfter (fun inRest => absurd inRest once.1) now
        rw [about_tickInOrder_cons, about_tickRemote keyed, if_pos rfl, silent]
        simp
      have there (other : String) (inRest : other ∈ rest) :
          (tickInOrder now (id :: rest) table).1.about other =
            (tickInOrder now rest (table.tickRemote now id).2).1.about other := by
        have different : id ≠ other := fun same => once.1 (same ▸ inRest)
        rw [about_tickInOrder_cons, about_tickRemote keyed, if_neg different]
        simp
      obtain ⟨orders, fallbacks⟩ := ih keyedAfter once.2
      have ordersThere := List.flatMap_congr fun other inRest =>
        congrArg Round.orders (there other inRest)
      have fallbacksThere := List.flatMap_congr fun other inRest =>
        congrArg Round.fallbacks (there other inRest)
      constructor
      · rw [tickInOrder_orders, List.flatMap_cons, here, ordersThere, orders]
      · rw [tickInOrder_fallbacks, List.flatMap_cons, here, fallbacksThere, fallbacks]

/-- That a tick did to every remote what it does with some numbers, and said so. -/
def Took (now : Nat) (table : PeerTable) (result : Round × PeerTable)
    (numbers : String → Role → UInt32) : Prop :=
  ∀ id remote, table.get? id = some remote →
    result.1.about id = (remote.tick table.pacing now (numbers id)).1 ∧
      result.2.get? id = some (remote.tick table.pacing now (numbers id)).2

theorem exists_took (keyed : Keyed table) (now : Nat) {walk : List String}
    (all : walk.Perm table.remotes.keys) :
    ∃ numbers, Took now table (tickInOrder now walk table) numbers := by
  have each (id : String) : ∃ numbers, ∀ remote, table.get? id = some remote →
      (tickInOrder now walk table).1.about id = (remote.tick table.pacing now numbers).1 ∧
        (tickInOrder now walk table).2.get? id = some (remote.tick table.pacing now numbers).2 := by
    by_cases present : ∃ remote, table.get? id = some remote
    · obtain ⟨remote, present⟩ := present
      obtain ⟨once, member⟩ := mem_walk all present
      obtain ⟨numbers, took⟩ := tickInOrder_of_present keyed present once member now
      refine ⟨numbers, fun other presentToo => ?_⟩
      rw [← Option.some.inj (present.symm.trans presentToo)]
      exact took
    · exact ⟨fun _ => 0, fun remote here => absurd ⟨remote, here⟩ present⟩
  exact ⟨fun id => (each id).choose, fun id remote present => (each id).choose_spec remote present⟩

end PeerTable

/-! ## One permutation -/

/-- Numbers that correspond, with none twice on either side, are exchanged by a permutation that leaves
all others alone. -/
theorem exists_renumbering {κ : Type} {keys : List κ} {before after : κ → UInt32}
    (once : (keys.map before).Nodup) (onceToo : (keys.map after).Nodup) :
    ∃ σ : Equiv.Perm UInt32, (∀ key ∈ keys, σ (before key) = after key) ∧
      ∀ number, number ∉ keys.map before → number ∉ keys.map after → σ number = number := by
  induction keys with
  | nil => exact ⟨1, nofun, fun _ _ _ => rfl⟩
  | cons key rest ih =>
      rw [List.map_cons, List.nodup_cons] at once onceToo
      obtain ⟨σ, maps, fixes⟩ := ih once.2 onceToo.2
      refine ⟨Equiv.swap (σ (before key)) (after key) * σ, ?_, ?_⟩
      · intro other member
        rw [Equiv.Perm.mul_apply]
        rcases List.mem_cons.1 member with rfl | inRest
        · exact Equiv.swap_apply_left ..
        · rw [maps other inRest]
          refine Equiv.swap_apply_of_ne_of_ne ?_ ?_
          · intro same
            rw [← maps other inRest] at same
            exact once.1 (List.mem_map.2 ⟨other, inRest, σ.injective same⟩)
          · exact fun same => onceToo.1 (List.mem_map.2 ⟨other, inRest, same⟩)
      · intro number notBefore notAfter
        rw [List.map_cons, List.mem_cons, not_or] at notBefore notAfter
        have fixed := fixes number notBefore.2 notAfter.2
        rw [Equiv.Perm.mul_apply, fixed]
        refine Equiv.swap_apply_of_ne_of_ne ?_ notAfter.1
        intro same
        rw [← fixed] at same
        exact notBefore.1 (σ.injective same)

/-! ## Ticks -/

namespace PeerTable

def Awaiting (table : PeerTable) : Prop :=
  ∀ id remote, table.get? id = some remote → ∀ role, (remote.probe role).AwaitsLast

section
variable {table after : PeerTable} {log events : List Event}

theorem Awaiting.put (awaiting : Awaiting table) {id : String} {remote : Remote}
    (here : ∀ role, (remote.probe role).AwaitsLast) : Awaiting (table.put id remote) := by
  intro other remote' present
  rw [get?_put] at present
  split at present
  · cases present
    exact here
  · exact awaiting other remote' present

theorem Change.awaiting (change : Change table events after) (awaiting : Awaiting table) :
    Awaiting after := by
  -- Only a request makes an address wait, and it waits for that very request.
  cases change with
  | track =>
      refine awaiting.put fun role request previous pending => ?_
      cases role <;> cases pending
  | drop id =>
      intro other remote present
      rw [get?_forget] at present
      split at present
      · cases present
      · exact awaiting other remote present
  | ask present asks =>
      obtain ⟨ip, -, -, rfl⟩ := Remote.ask_eq_some_iff.1 asks
      refine awaiting.put (Remote.forall_setProbe (P := fun _ probe => probe.AwaitsLast) ?_
        (awaiting _ _ present))
      rintro _ _ ⟨⟩
      rfl
  | move present move =>
      refine awaiting.put ?_
      have before := awaiting _ _ present
      cases move with
      | keep =>
          refine Remote.forall_setProbe (P := fun _ probe => probe.AwaitsLast) ?_ before
          rintro _ _ ⟨⟩
      | @exhaust role =>
          exact Remote.forall_setProbe (P := fun _ probe => probe.AwaitsLast) (before role) before
      | giveUp =>
          intro role
          rw [Remote.probe_giveUp]
          exact before role
      | accept =>
          intro role request previous
          rw [Remote.probe_accept]
          split
          · rw [Probe.progress_settle]
            nofun
          · exact before role request previous

theorem Changes.awaiting {start : PeerTable} (changes : Changes start log table)
    (awaiting : Awaiting start) : Awaiting table := by
  induction changes with
  | refl => exact awaiting
  | more _ change ih => exact change.awaiting ih

end

/-- That two tables differ only in the numbers of requests, which correspond. -/
structure Alike (same : UInt32 → UInt32 → Prop) (first second : PeerTable) : Prop where
  pacing : first.pacing = second.pacing
  family : first.family = second.family
  next : first.nextNumber = second.nextNumber
  remotes : ∀ id, Option.Rel (Remote.Alike same) (first.get? id) (second.get? id)

/-- That two ticks differ only in which request bears which number: one permutation of the numbers
that were handed out leads from the one to the other. -/
structure SameButNumbers (first second : Round × PeerTable) : Prop where
  contents : (first.1.orders.map ProbeOrder.content).Perm (second.1.orders.map ProbeOrder.content)
  fallbacks : first.1.fallbacks.Perm second.1.fallbacks
  numbers : first.1.orders.map (·.number) = second.1.orders.map (·.number)
  renumbered : ∃ σ : Equiv.Perm UInt32,
    (∀ number, number ∉ first.1.orders.map (·.number) → σ number = number) ∧
      (first.1.orders.map (ProbeOrder.renumber σ)).Perm second.1.orders ∧
      Alike (fun number number' => σ number = number') first.2 second.2

section
variable {table : PeerTable} {now : Nat} {walk walk' : List String}
  {numbers numbers' : String → Role → UInt32}

theorem Took.asked_iff (took : Took now table (tickInOrder now walk table) numbers)
    {id : String} {remote : Remote} (present : table.get? id = some remote) (role : Role) :
    (id, role) ∈ (tickInOrder now walk table).1.orders.map target ↔
      remote.turn table.pacing now role = .ask := by
  have about := (took id remote present).1
  have listed (order : ProbeOrder) : order ∈ (remote.tick table.pacing now (numbers id)).1.orders ↔
      order ∈ (tickInOrder now walk table).1.orders ∧ order.id = id := by
    rw [← about, Round.about, List.mem_filter, decide_eq_true_iff]
  rw [List.mem_map]
  constructor
  · rintro ⟨order, member, same⟩
    obtain ⟨rfl, rfl⟩ := Prod.mk.inj same
    exact (Remote.mem_orders_tick ((listed order).2 ⟨member, rfl⟩)).1
  · intro turn
    obtain ⟨order, member, ofRole⟩ := Remote.exists_order_tick (numbers id) turn
    obtain ⟨asked, ours⟩ := (listed order).1 member
    exact ⟨order, asked, Prod.ext ours ofRole⟩

theorem Took.numbers_eq (took : Took now table (tickInOrder now walk table) numbers) (keyed : Keyed table)
    (all : walk.Perm table.remotes.keys) :
    (tickInOrder now walk table).1.orders.map (·.number) =
      ((tickInOrder now walk table).1.orders.map target).map fun key => numbers key.1 key.2 := by
  rw [List.map_map]
  refine List.map_congr_left fun order member => ?_
  have inWalk := tickInOrder_ids keyed now walk order member
  obtain ⟨remote, present⟩ := OrderedMap.mem_keys_iff.1 (all.mem_iff.1 inWalk)
  have about : order ∈ ((tickInOrder now walk table).1.about order.id).orders :=
    List.mem_filter.2 ⟨member, decide_eq_true rfl⟩
  rw [(took order.id remote present).1] at about
  exact (Remote.mem_orders_tick about).2.2

theorem Took.map_orders {α : Type} (view view' : ProbeOrder → α)
    (took : Took now table (tickInOrder now walk table) numbers)
    (took' : Took now table (tickInOrder now walk' table) numbers') (keyed : Keyed table)
    (all : walk.Perm table.remotes.keys) (all' : walk'.Perm table.remotes.keys)
    (same : ∀ id remote, table.get? id = some remote → ∀ order : ProbeOrder, order.id = id →
      remote.turn table.pacing now order.role = .ask →
      view { order with number := numbers id order.role } =
        view' { order with number := numbers' id order.role }) :
    ((tickInOrder now walk table).1.orders.map view).Perm
      ((tickInOrder now walk' table).1.orders.map view') := by
  have once := nodup_walk all
  have once' := nodup_walk all'
  rw [(tickInOrder_parts keyed now once).1, (tickInOrder_parts keyed now once').1, List.map_flatMap,
    List.map_flatMap]
  refine ((all.trans all'.symm).flatMap_right _).trans (.of_eq (List.flatMap_congr fun id inWalk => ?_))
  obtain ⟨remote, present⟩ := OrderedMap.mem_keys_iff.1 (all'.mem_iff.1 inWalk)
  rw [(took id remote present).1, (took' id remote present).1]
  refine Remote.map_orders_tick fun order turn ours => ?_
  exact same id remote present order (ours.trans (keyed id remote present)) turn

theorem Took.fallbacks (took : Took now table (tickInOrder now walk table) numbers)
    (took' : Took now table (tickInOrder now walk' table) numbers') (keyed : Keyed table)
    (all : walk.Perm table.remotes.keys) (all' : walk'.Perm table.remotes.keys) :
    (tickInOrder now walk table).1.fallbacks.Perm (tickInOrder now walk' table).1.fallbacks := by
  have once := nodup_walk all
  have once' := nodup_walk all'
  rw [(tickInOrder_parts keyed now once).2, (tickInOrder_parts keyed now once').2]
  refine ((all.trans all'.symm).flatMap_right _).trans (.of_eq (List.flatMap_congr fun id inWalk => ?_))
  obtain ⟨remote, present⟩ := OrderedMap.mem_keys_iff.1 (all'.mem_iff.1 inWalk)
  rw [(took id remote present).1, (took' id remote present).1]
  exact Remote.fallbacks_tick ..

theorem Took.exists_renaming (took : Took now table (tickInOrder now walk table) numbers)
    (took' : Took now table (tickInOrder now walk' table) numbers') (keyed : Keyed table)
    (all : walk.Perm table.remotes.keys) (all' : walk'.Perm table.remotes.keys)
    (different : ((tickInOrder now walk table).1.orders.map (·.number)).Nodup)
    (same : (tickInOrder now walk table).1.orders.map (·.number) =
      (tickInOrder now walk' table).1.orders.map (·.number)) :
    ∃ σ : Equiv.Perm UInt32,
      (∀ number, number ∉ (tickInOrder now walk table).1.orders.map (·.number) → σ number = number) ∧
      ∀ id remote, table.get? id = some remote → ∀ role, remote.turn table.pacing now role = .ask →
        σ (numbers id role) = numbers' id role := by
  have targets := took.map_orders target target took' keyed all all' fun _ _ _ _ _ _ => rfl
  have bears := took.numbers_eq keyed all
  have bears' := took'.numbers_eq keyed all'
  obtain ⟨σ, maps, fixes⟩ := exists_renumbering (bears ▸ different)
    ((targets.map _).nodup_iff.2 (bears' ▸ same ▸ different))
  refine ⟨σ, fun number free => ?_, fun id remote present role turn => ?_⟩
  · refine fixes number (bears ▸ free) fun member => free ?_
    rw [same, bears']
    exact (targets.map _).mem_iff.1 member
  · exact maps (id, role) ((took.asked_iff present role).2 turn)

theorem Took.number_kept (took : Took now table (tickInOrder now walk table) numbers) (keyed : Keyed table)
    (all : walk.Perm table.remotes.keys) (unhindered : Unhindered now walk table) {id : String}
    {remote : Remote} (present : table.get? id = some remote) {role : Role}
    (rests : remote.turn table.pacing now role ≠ .ask) {number : UInt32}
    (last : (remote.probe role).lastRequest = some number) :
    number ∉ (tickInOrder now walk table).1.orders.map (·.number) := by
  obtain ⟨-, -, -, fresh⟩ := tickInOrder_numbers keyed (nodup_walk all) unhindered
  let order : ProbeOrder := ⟨id, remote.endpoint.identity, role, number,
    .ofIp (.v4 ⟨0, 0, 0, 0⟩) remote.port⟩
  refine fresh order ⟨remote, present, last⟩ fun other member same => rests ?_
  exact (took.asked_iff present role).1 (List.mem_map.2 ⟨other, member, same⟩)

theorem tickInOrder_sameButNumbers (keyed : Keyed table) (awaiting : Awaiting table)
    (all : walk.Perm table.remotes.keys) (all' : walk'.Perm table.remotes.keys)
    (unhindered : Unhindered now walk table) (unhindered' : Unhindered now walk' table) :
    SameButNumbers (tickInOrder now walk table) (tickInOrder now walk' table) := by
  obtain ⟨numbers, took⟩ := exists_took keyed now all
  obtain ⟨numbers', took'⟩ := exists_took keyed now all'
  have contents := took.map_orders ProbeOrder.content ProbeOrder.content took' keyed all all'
    fun _ _ _ _ _ _ => rfl
  have long := contents.length_eq
  rw [List.length_map, List.length_map] at long
  obtain ⟨inOrder, next, different, -⟩ := tickInOrder_numbers keyed (nodup_walk all) unhindered
  obtain ⟨inOrder', next', -⟩ := tickInOrder_numbers keyed (nodup_walk all') unhindered'
  -- Both draw as many numbers, from the same one on, so a permutation leads from one to the other.
  have same : (tickInOrder now walk table).1.orders.map (·.number) =
      (tickInOrder now walk' table).1.orders.map (·.number) := by rw [inOrder, inOrder', long]
  obtain ⟨σ, others, asked⟩ := took.exists_renaming took' keyed all all' different same
  refine ⟨contents, took.fallbacks took' keyed all all', same, σ, others, ?_, ?_⟩
  · rw [← List.map_id (tickInOrder now walk' table).1.orders]
    refine took.map_orders _ id took' keyed all all' fun id remote present order ours turn => ?_
    exact congrArg (fun number => { order with number }) (asked id remote present order.role turn)
  · obtain ⟨_, changes, -⟩ := tickInOrder_changes now walk table
    obtain ⟨_, changes', -⟩ := tickInOrder_changes now walk' table
    have fixed := changes.fixed
    have fixed' := changes'.fixed
    refine ⟨fixed.1.trans fixed'.1.symm, fixed.2.trans fixed'.2.symm, by rw [next, next', long], ?_⟩
    intro id
    cases present : table.get? id with
    | none =>
        have idle := (@tickInOrder_of_idle _ id keyed walk (fun _ => present) now).2
        have idle' := (@tickInOrder_of_idle _ id keyed walk' (fun _ => present) now).2
        rw [idle, idle', present]
        exact .none
    | some remote =>
        rw [(took id remote present).2, (took' id remote present).2]
        refine .some (Remote.tick_alike (asked id remote present) fun role rests => ?_)
        refine (awaiting id remote present role).alike fun number last => others number ?_
        exact took.number_kept keyed all unhindered present rests last

end

/-! ## One remote alone -/

def only (table : PeerTable) (id : String) (remote : Remote) : PeerTable :=
  { table with remotes := OrderedMap.empty.insert id remote }

/-- That what a tick says about an endpoint, and its remote after the tick, are as in another tick, with
numbers that correspond by their place. -/
structure SameAbout (id : String) (first second : Round × PeerTable) : Prop where
  contents : (first.1.about id).orders.map ProbeOrder.content =
    (second.1.about id).orders.map ProbeOrder.content
  fallbacks : (first.1.about id).fallbacks = (second.1.about id).fallbacks
  remote : Option.Rel (Remote.Alike fun number number' => number = number' ∨
      SamePlace ((first.1.about id).orders.map (·.number)) ((second.1.about id).orders.map (·.number))
        number number')
    (first.2.get? id) (second.2.get? id)

section
variable {table : PeerTable} {now : Nat} {walk : List String} {id : String} {remote : Remote}

theorem keyed_only (table : PeerTable) (cable : remote.endpoint.cable = id) :
    Keyed (table.only id remote) := by
  intro other remote' present
  have there : (table.only id remote).get? other = if id = other then some remote else none :=
    OrderedMap.get?_insert ..
  rw [there] at present
  split at present
  · rename_i same
    cases present
    exact cable.trans same
  · cases present

theorem tick_only (keyed : Keyed table) (awaiting : Awaiting table)
    (present : table.get? id = some remote) (all : walk.Perm table.remotes.keys) :
    SameAbout id (tickInOrder now walk table) ((table.only id remote).tick now) := by
  have keyedAlone := keyed_only table (keyed id remote present)
  obtain ⟨numbers, took⟩ := exists_took keyed now all
  obtain ⟨numbers', took'⟩ := exists_took keyedAlone now (.refl _)
  obtain ⟨round, after⟩ := took id remote present
  obtain ⟨round', after'⟩ := took' id remote (OrderedMap.get?_insert_self ..)
  rw [PeerTable.tick]
  constructor
  · rw [round, round']
    exact Remote.map_orders_tick fun _ _ _ => rfl
  · rw [round, round']
    exact Remote.fallbacks_tick ..
  · rw [round, round', after, after']
    refine .some (Remote.tick_alike (fun role turn => .inr (Remote.samePlace_tick turn)) ?_)
    exact fun role _ => (awaiting id remote present role).alike fun _ _ => .inl rfl

theorem about_tick_only (table : PeerTable) (cable : remote.endpoint.cable = id) (now : Nat) :
    ((table.only id remote).tick now).1.about id = ((table.only id remote).tick now).1 := by
  obtain ⟨orders, fallbacks⟩ := tickInOrder_parts (keyed_only table cable) now (List.nodup_singleton id)
  rw [List.flatMap_singleton] at orders fallbacks
  rw [show (table.only id remote).tick now = tickInOrder now [id] (table.only id remote) from rfl]
  generalize (tickInOrder now [id] (table.only id remote)).1 = round at orders fallbacks
  cases round
  simp only [Round.about] at orders fallbacks ⊢
  rw [← orders, ← fallbacks]

end

/-- After every run, and with no number in use where the counter comes, two ticks that come to the
remotes in different orders differ only in which request bears which number. What a tick says about an
endpoint and does to its remote is, but for the numbers, what it says and does if that remote is alone.
Every operation on other endpoints leaves a remote as it is. -/
theorem tick_pointwise {pacing : Pacing} {family : Family} {first : UInt32}
    {operations : List Operation} {log : List Event} {table : PeerTable}
    (ran : run operations (new pacing family first) = (log, table)) :
    (∀ now walk walk', walk.Perm table.remotes.keys → walk'.Perm table.remotes.keys →
      Unhindered now walk table → Unhindered now walk' table →
      SameButNumbers (tickInOrder now walk table) (tickInOrder now walk' table)) ∧
    (∀ now walk id remote, walk.Perm table.remotes.keys → table.get? id = some remote →
      SameAbout id (tickInOrder now walk table) ((table.only id remote).tick now) ∧
        ((table.only id remote).tick now).1.about id = ((table.only id remote).tick now).1) ∧
    ∀ id operation, operation.Foreign id → (table.perform operation).2.get? id = table.get? id := by
  obtain ⟨events, changes, -⟩ := run_changes operations (new pacing family first)
  rw [ran] at changes
  have keyed : Keyed table := changes.keyed (Agrees.new pacing family first).keyed
  have awaiting : Awaiting table := changes.awaiting fun id remote present => by
    simp [new, PeerTable.get?] at present
  refine ⟨?_, ?_, ?_⟩
  · intro now walk walk' all all' unhindered unhindered'
    exact tickInOrder_sameButNumbers keyed awaiting all all' unhindered unhindered'
  · intro now walk id remote all present
    exact ⟨tick_only keyed awaiting present all, about_tick_only table (keyed id remote present) now⟩
  · exact fun id operation foreign => (perform_foreign keyed foreign).2

def twoGateways : List Operation :=
  [.add twoAddresses 0, .plan "gateway" 0, .add { twoAddresses with cable := "branch" } 500]

theorem tick_pointwise_twoGateways :
    ∃ log table, run twoGateways (new {} .v4 4294967294) = (log, table) ∧
      Unhindered 1000 ["branch", "gateway"] table ∧ Unhindered 1000 ["gateway", "branch"] table ∧
      (tickInOrder 1000 ["branch", "gateway"] table).1.orders.map (fun order => (order.id, order.number)) =
        [("branch", 0), ("branch", 1), ("gateway", 2), ("gateway", 3)] ∧
      SameButNumbers (tickInOrder 1000 ["branch", "gateway"] table)
        (tickInOrder 1000 ["gateway", "branch"] table) ∧
      (∀ remote, table.get? "gateway" = some remote →
        SameAbout "gateway" (tickInOrder 1000 ["branch", "gateway"] table)
          ((table.only "gateway" remote).tick 1000)) ∧
      (table.perform (.plan "branch" 1000)).2.get? "gateway" = table.get? "gateway" := by
  have keys : (run twoGateways (new {} .v4 4294967294)).2.remotes.keys = ["branch", "gateway"] := by
    decide +kernel
  have unhindered : Unhindered 1000 ["branch", "gateway"]
      (run twoGateways (new {} .v4 4294967294)).2 := by decide +kernel
  have unhindered' : Unhindered 1000 ["gateway", "branch"]
      (run twoGateways (new {} .v4 4294967294)).2 := by decide +kernel
  have numbers : (tickInOrder 1000 ["branch", "gateway"]
      (run twoGateways (new {} .v4 4294967294)).2).1.orders.map (fun order => (order.id, order.number)) =
        [("branch", 0), ("branch", 1), ("gateway", 2), ("gateway", 3)] := by decide +kernel
  generalize ran : run twoGateways (new {} .v4 4294967294) = result
    at keys unhindered unhindered' numbers
  obtain ⟨log, table⟩ := result
  have all : ["branch", "gateway"].Perm table.remotes.keys := keys ▸ .refl _
  have all' : ["gateway", "branch"].Perm table.remotes.keys := keys ▸ .swap ..
  obtain ⟨orders, alone, others⟩ := tick_pointwise ran
  refine ⟨log, table, rfl, unhindered, unhindered', numbers, ?_, ?_, ?_⟩
  · exact orders 1000 _ _ all all' unhindered unhindered'
  · exact fun remote present => (alone 1000 _ "gateway" remote all present).1
  · have different : "branch" ≠ "gateway" := by decide
    exact others "gateway" (.plan "branch" 1000) different

end PeerTable
end NatReach
