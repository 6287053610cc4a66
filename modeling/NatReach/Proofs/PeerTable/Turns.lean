import NatReach.Proofs.PeerTable.Told

namespace NatReach
open PeerTable

namespace PeerTable

/-! ## Remotes under their own names -/

def Keyed (table : PeerTable) : Prop :=
  ∀ id remote, table.get? id = some remote → remote.endpoint.cable = id

theorem Agrees.keyed {log : List Event} {table : PeerTable} (agrees : Agrees log table) :
    Keyed table := by
  intro id remote present
  obtain ⟨story, -, told⟩ := agrees.exists_story present
  rw [told.endpoint, told.cable]

end PeerTable

namespace Remote

structure SameDiscovery (before after : Remote) : Prop where
  endpoint : after.endpoint = before.endpoint
  family : after.family = before.family
  port : after.port = before.port
  started : after.started = before.started

namespace SameDiscovery
variable {remote middle after : Remote}

theorem refl (remote : Remote) : SameDiscovery remote remote := ⟨rfl, rfl, rfl, rfl⟩

theorem trans (first : SameDiscovery remote middle) (second : SameDiscovery middle after) :
    SameDiscovery remote after where
  endpoint := second.endpoint.trans first.endpoint
  family := second.family.trans first.family
  port := second.port.trans first.port
  started := second.started.trans first.started

theorem setProbe (remote : Remote) (role : Role) (probe : Probe) :
    SameDiscovery remote (remote.setProbe role probe) := by
  cases role <;> exact ⟨rfl, rfl, rfl, rfl⟩

end SameDiscovery

theorem Move.sameDiscovery {pacing : Pacing} {id : String} {remote after : Remote}
    {events : List Event} (move : remote.Move pacing id events after) :
    SameDiscovery remote after := by
  cases move with
  | keep => exact .setProbe ..
  | exhaust => exact .setProbe ..
  | giveUp =>
      rw [giveUp_frame]
      exact ⟨rfl, rfl, rfl, rfl⟩
  | @accept role number source nat now counts =>
      rw [accept_frame]
      exact (SameDiscovery.setProbe remote role ((remote.probe role).settle nat now)).trans
        ⟨rfl, rfl, rfl, rfl⟩

end Remote

namespace PeerTable

theorem Keyed.put {table : PeerTable} (keyed : Keyed table) {id : String} {remote : Remote}
    (cable : remote.endpoint.cable = id) : Keyed (table.put id remote) := by
  intro other remote' present
  rw [get?_put] at present
  split at present
  · rename_i same
    cases present
    exact cable.trans same
  · exact keyed other remote' present

theorem Change.keyed {table after : PeerTable} {events : List Event}
    (change : Change table events after) (keyed : Keyed table) : Keyed after := by
  cases change with
  | track => exact keyed.put rfl
  | drop dropped =>
      intro other remote present
      rw [get?_forget] at present
      split at present
      · cases present
      · exact keyed other remote present
  | @ask id remote role now order after present asks =>
      obtain ⟨ip, -, -, rfl⟩ := Remote.ask_eq_some_iff.1 asks
      have cable := keyed id remote present
      rw [← Remote.endpoint_setProbe remote role] at cable
      exact keyed.put cable
  | move present move =>
      exact keyed.put ((congrArg Endpoint.cable move.sameDiscovery.endpoint).trans (keyed _ _ present))

theorem Changes.keyed {start table : PeerTable} {log : List Event}
    (changes : Changes start log table) (keyed : Keyed start) : Keyed table := by
  induction changes with
  | refl => exact keyed
  | more _ change ih => exact change.keyed ih

/-! ## One role after the other -/

section Roles
variable {table : PeerTable} {id other : String} {remote : Remote}

theorem get?_update (table : PeerTable) (id other : String) (result : Option ProbeOrder × Remote) :
    (table.update id result).2.get? other = if id = other then some result.2 else table.get? other :=
  OrderedMap.get?_insert ..

theorem get?_withRemote_of_ne (different : other ≠ id)
    (step : Remote → UInt32 → Option ProbeOrder × Remote) :
    (table.withRemote other step).2.get? id = table.get? id := by
  cases present : table.get? other with
  | none => rw [withRemote_of_absent present]
  | some remote => rw [withRemote_of_present present, get?_update, if_neg different]

theorem get?_forRoles_of_ne (different : other ≠ id)
    (step : Role → Remote → UInt32 → Option ProbeOrder × Remote) (roles : List Role)
    (table : PeerTable) : (forRoles other step roles table).2.get? id = table.get? id := by
  induction roles generalizing table with
  | nil => rfl
  | cons role rest ih => exact (ih _).trans (get?_withRemote_of_ne different (step role))

theorem forRoles_of_absent (absent : table.get? id = none)
    (step : Role → Remote → UInt32 → Option ProbeOrder × Remote) (roles : List Role) :
    forRoles id step roles table = ([], table) := by
  induction roles with
  | nil => rfl
  | cons role rest ih => simp [forRoles, withRemote_of_absent absent, ih]

theorem forRoles_of_present (present : table.get? id = some remote)
    (step : Role → Remote → UInt32 → Option ProbeOrder × Remote) :
    ∃ number number', let first := step .viaPrivate remote number
      let second := step .viaPublic first.2 number'
      (forRoles id step Role.inOrder table).1 = first.1.toList ++ second.1.toList ∧
        (forRoles id step Role.inOrder table).2.get? id = some second.2 := by
  generalize asked : step .viaPrivate remote table.freshNumber = first
  have here : (table.update id first).2.get? id = some first.2 := by
    rw [get?_update, if_pos rfl]
  refine ⟨table.freshNumber, (table.update id first).2.freshNumber, ?_⟩
  rw [asked]
  constructor
  · simp only [forRoles, Role.inOrder, withRemote_of_present present, asked,
      withRemote_of_present here, List.append_nil]
    rfl
  · simp only [forRoles, Role.inOrder, withRemote_of_present present, asked,
      withRemote_of_present here]
    rw [get?_update, if_pos rfl]

end Roles

end PeerTable

/-! ## Turns -/

def Probe.take (probe : Probe) (pacing : Pacing) (now : Nat) (number : UInt32) : Turn → Probe
  | .rest => probe
  | .ask => probe.record number now pacing
  | .keep nat => probe.resolve nat now
  | .giveUp => probe.exhaust

def Round.about (round : Round) (id : String) : Round where
  orders := round.orders.filter fun order => order.id = id
  fallbacks := round.fallbacks.filter fun route => route.endpoint.cable = id

namespace Remote
variable {remote : Remote} {pacing : Pacing} {now : Nat} {number : UInt32} {role other : Role}

def planned (remote : Remote) (role : Role) : Turn :=
  if (remote.ip? role).isSome then .ask else .rest

def order? (remote : Remote) (number : UInt32) (role : Role) : Option ProbeOrder :=
  (remote.ip? role).map fun ip =>
    ⟨remote.endpoint.cable, remote.endpoint.identity, role, number, .ofIp ip remote.port⟩

def takeTurn (remote : Remote) (pacing : Pacing) (now : Nat) (number : UInt32) (role : Role)
    (turn : Turn) : Option ProbeOrder × Remote :=
  (if turn = .ask then remote.order? number role else none,
    remote.setProbe role ((remote.probe role).take pacing now number turn))

def takeTurns (remote : Remote) (pacing : Pacing) (now : Nat) (turns : Role → Turn)
    (numbers : Role → UInt32) : List ProbeOrder × Remote :=
  (Role.inOrder.filterMap fun role =>
      if turns role = .ask then remote.order? (numbers role) role else none,
    { remote with
      viaPublic := remote.viaPublic.take pacing now (numbers .viaPublic) (turns .viaPublic)
      viaPrivate := remote.viaPrivate.take pacing now (numbers .viaPrivate) (turns .viaPrivate) })

def tick (remote : Remote) (pacing : Pacing) (now : Nat) (numbers : Role → UInt32) :
    Round × Remote :=
  let result := remote.takeTurns pacing now (remote.turn pacing now) numbers
  (⟨result.1, result.2.giveUp.1.toList⟩, result.2.giveUp.2)

theorem ask_eq_takeTurn :
    remote.ask pacing now number role =
      remote.takeTurn pacing now number role (remote.planned role) := by
  unfold ask takeTurn planned order?
  cases remote.ip? role with
  | none => simp [Probe.take, setProbe_probe]
  | some ip => simp [Probe.take]

theorem tickRole_eq_takeTurn :
    remote.tickRole pacing now number role =
      remote.takeTurn pacing now number role (remote.turn pacing now role) := by
  unfold tickRole turn
  cases address : remote.ip? role with
  | none => simp [takeTurn, Probe.take, setProbe_probe]
  | some ip =>
      simp only [Option.isNone_some, Option.isSome_some, Bool.false_eq_true, ↓reduceIte]
      cases (remote.probe role).turn pacing now with
      | rest => simp [takeTurn, Probe.take, setProbe_probe]
      | ask => rw [ask_eq_takeTurn, planned, address]; rfl
      | keep nat => simp [takeTurn, Probe.take]
      | giveUp => simp [takeTurn, Probe.take]

theorem turn_setProbe_of_ne {probe : Probe} (different : role ≠ other) :
    (remote.setProbe role probe).turn pacing now other = remote.turn pacing now other := by
  rw [turn, turn, ip?_setProbe, probe_setProbe_of_ne _ _ different]

theorem planned_setProbe {probe : Probe} :
    (remote.setProbe role probe).planned other = remote.planned other := by
  rw [planned, planned, ip?_setProbe]

section TakeTurns
variable {turns : Role → Turn} {numbers : Role → UInt32}

theorem order?_eq_some_iff {order : ProbeOrder} :
    remote.order? number role = some order ↔
      ∃ ip, remote.ip? role = some ip ∧ order =
        ⟨remote.endpoint.cable, remote.endpoint.identity, role, number, .ofIp ip remote.port⟩ := by
  rw [order?, Option.map_eq_some_iff]
  exact exists_congr fun ip => and_congr_right fun _ => eq_comm

theorem order_of_takeTurn {turn : Turn} {order : ProbeOrder}
    (asked : (remote.takeTurn pacing now number role turn).1 = some order) :
    order.id = remote.endpoint.cable ∧ order.role = role := by
  unfold takeTurn at asked
  split at asked
  · obtain ⟨ip, -, rfl⟩ := order?_eq_some_iff.1 asked
    exact ⟨rfl, rfl⟩
  · cases asked

theorem orders_takeTurns (remote : Remote) (pacing : Pacing) (now : Nat) (turns : Role → Turn)
    (numbers : Role → UInt32) :
    (remote.takeTurns pacing now turns numbers).1 =
      (remote.takeTurn pacing now (numbers .viaPrivate) .viaPrivate (turns .viaPrivate)).1.toList ++
        (remote.takeTurn pacing now (numbers .viaPublic) .viaPublic (turns .viaPublic)).1.toList := by
  simp only [takeTurns, takeTurn, Role.inOrder, List.filterMap_cons, List.filterMap_nil]
  generalize (if turns .viaPrivate = .ask then _ else _) = first,
    (if turns .viaPublic = .ask then _ else _) = second
  cases first <;> cases second <;> rfl

theorem takeTurn_takeTurn (remote : Remote) (pacing : Pacing) (now : Nat) (turns : Role → Turn)
    (number number' : UInt32) :
    let first := remote.takeTurn pacing now number .viaPrivate (turns .viaPrivate)
    let second := first.2.takeTurn pacing now number' .viaPublic (turns .viaPublic)
    ∃ numbers, (first.1.toList ++ second.1.toList, second.2) =
      remote.takeTurns pacing now turns numbers := by
  let numbers : Role → UInt32
    | .viaPrivate => number
    | .viaPublic => number'
  exact ⟨numbers, Prod.ext (remote.orders_takeTurns pacing now turns numbers).symm rfl⟩

@[simp] theorem probe_takeTurns :
    (remote.takeTurns pacing now turns numbers).2.probe role =
      (remote.probe role).take pacing now (numbers role) (turns role) := by
  cases role <;> rfl

theorem orders_takeTurns_of_rest (pacing : Pacing) (now : Nat) (rest : ∀ role, turns role ≠ .ask) :
    (remote.takeTurns pacing now turns numbers).1 = [] := by
  simp [takeTurns, rest]

theorem id_of_mem_takeTurns {order : ProbeOrder}
    (member : order ∈ (remote.takeTurns pacing now turns numbers).1) :
    order.id = remote.endpoint.cable := by
  rw [orders_takeTurns, List.mem_append, Option.mem_toList, Option.mem_toList] at member
  rcases member with first | second
  · exact (order_of_takeTurn first).1
  · exact (order_of_takeTurn second).1

theorem roles_takeTurns (remote : Remote) (pacing : Pacing) (now : Nat) (turns : Role → Turn)
    (numbers : Role → UInt32) :
    (remote.takeTurns pacing now turns numbers).1.map (·.role) =
      Role.inOrder.filter fun role => turns role = .ask ∧ (remote.ip? role).isSome := by
  rw [takeTurns, List.map_filterMap, ← List.filterMap_eq_filter]
  refine List.filterMap_congr fun role _ => ?_
  by_cases ask : turns role = .ask
  · cases address : remote.ip? role <;> simp [ask, order?, address, Option.guard]
  · simp [ask, Option.guard]

theorem exists_order_takeTurns (remote : Remote) (pacing : Pacing) (now : Nat) (turns : Role → Turn)
    (numbers : Role → UInt32) (role : Role) :
    (∃ order ∈ (remote.takeTurns pacing now turns numbers).1, order.role = role) ↔
      turns role = .ask ∧ (remote.ip? role).isSome := by
  have listed : role ∈ Role.inOrder := by cases role <;> decide
  rw [← List.mem_map, roles_takeTurns, List.mem_filter, decide_eq_true_iff]
  exact and_iff_right listed

end TakeTurns

section Tick
variable (remote : Remote) (pacing : Pacing) (now : Nat) (numbers : Role → UInt32)

@[simp] theorem endpoint_tick : (remote.tick pacing now numbers).2.endpoint = remote.endpoint :=
  endpoint_giveUp _

@[simp] theorem family_tick : (remote.tick pacing now numbers).2.family = remote.family :=
  family_giveUp _

@[simp] theorem ip?_tick (role : Role) :
    (remote.tick pacing now numbers).2.ip? role = remote.ip? role := by
  simp only [ip?, endpoint_tick, family_tick]

@[simp] theorem probe_tick (role : Role) :
    (remote.tick pacing now numbers).2.probe role =
      (remote.probe role).take pacing now (numbers role) (remote.turn pacing now role) :=
  (probe_giveUp ..).trans probe_takeTurns

end Tick

theorem endpoint_of_giveUp {route : Route} (given : remote.giveUp.1 = some route) :
    route.endpoint = remote.endpoint := by
  by_cases hopeless : remote.isHopeless = true
  · rw [giveUp_of_hopeless hopeless] at given
    exact (selected_fallback? given).1
  · rw [giveUp_of_not_hopeless hopeless] at given
    cases given

end Remote

namespace PeerTable

section
variable {table : PeerTable} {id other : String} {remote : Remote} {walk : List String}

theorem forRoles_takeTurns (present : table.get? id = some remote) {pacing : Pacing} {now : Nat}
    {step : Role → Remote → UInt32 → Option ProbeOrder × Remote} (choose : Remote → Role → Turn)
    (takes : ∀ role remote number,
      step role remote number = remote.takeTurn pacing now number role (choose remote role))
    (apart : ∀ probe, choose (remote.setProbe .viaPrivate probe) .viaPublic = choose remote .viaPublic) :
    ∃ numbers, let result := remote.takeTurns pacing now (choose remote) numbers
      (forRoles id step Role.inOrder table).1 = result.1 ∧
        (forRoles id step Role.inOrder table).2.get? id = some result.2 := by
  obtain ⟨number, number', orders, there⟩ := forRoles_of_present present step
  obtain ⟨numbers, both⟩ := remote.takeTurn_takeTurn pacing now (choose remote) number number'
  have second : choose (remote.takeTurn pacing now number .viaPrivate
      (choose remote .viaPrivate)).2 .viaPublic = choose remote .viaPublic := apart _
  rw [takes, takes, second] at orders there
  refine ⟨numbers, ?_⟩
  rw [← both]
  exact ⟨orders, there⟩

theorem plan_of_absent (absent : table.get? id = none) (now : Nat) :
    table.plan id now = ([], table) := by
  simp only [plan, absent]

theorem perform_plan_of_absent (absent : table.get? id = none) (now : Nat) :
    table.perform (.plan id now) = ([], table) := by
  simp only [perform, plan_of_absent absent, List.map_nil]

theorem plan_of_present (present : table.get? id = some remote) (now : Nat) :
    ∃ numbers, let result := remote.takeTurns table.pacing now remote.planned numbers
      (table.plan id now).1 = result.1 ∧ (table.plan id now).2.get? id = some result.2 := by
  rw [plan_eq_forRoles]
  exact forRoles_takeTurns present Remote.planned (fun _ _ _ => Remote.ask_eq_takeTurn)
    fun _ => Remote.planned_setProbe

theorem get?_giveUp (table : PeerTable) (id other : String) :
    (table.giveUp other).2.get? id =
      if other = id then (table.get? id).map fun remote => remote.giveUp.2 else table.get? id := by
  unfold PeerTable.giveUp
  split
  · rename_i absent
    split
    · rename_i same
      rw [← same, absent]
      rfl
    · rfl
  · rename_i remote present
    dsimp only
    rw [get?_put]
    split
    · rename_i same
      rw [← same, present]
      rfl
    · rfl

theorem tickRemote_table (table : PeerTable) (now : Nat) (id : String) :
    (table.tickRemote now id).2 =
      ((forRoles id (fun role remote number => remote.tickRole table.pacing now number role)
        Role.inOrder table).2.giveUp id).2 := by
  rw [tickRemote_eq_forRoles]

theorem tickRemote_of_present (present : table.get? id = some remote) (now : Nat) :
    ∃ numbers, (table.tickRemote now id).1 = (remote.tick table.pacing now numbers).1 ∧
      (table.tickRemote now id).2.get? id = some (remote.tick table.pacing now numbers).2 := by
  obtain ⟨numbers, orders, there⟩ := forRoles_takeTurns present
    (fun remote => remote.turn table.pacing now) (fun _ _ _ => Remote.tickRole_eq_takeTurn)
    fun _ => Remote.turn_setProbe_of_ne (by decide)
  refine ⟨numbers, ?_, ?_⟩
  · simp only [tickRemote_eq_forRoles, Remote.tick, orders, PeerTable.giveUp, there]
  · rw [tickRemote_table, get?_giveUp, if_pos rfl, there]
    rfl

theorem tickRemote_of_absent (absent : table.get? id = none) (now : Nat) :
    table.tickRemote now id = ({}, table) := by
  simp [tickRemote_eq_forRoles, forRoles_of_absent absent, PeerTable.giveUp, absent]

/-! ## Among other remotes -/

theorem plan_ids (keyed : Keyed table) (id : String) (now : Nat) :
    ∀ order ∈ (table.plan id now).1, order.id = id := by
  intro order member
  cases present : table.get? id with
  | none => simp [plan_of_absent present] at member
  | some remote =>
      obtain ⟨numbers, orders, -⟩ := plan_of_present present now
      rw [orders] at member
      exact (Remote.id_of_mem_takeTurns member).trans (keyed id remote present)

theorem get?_plan_of_ne (different : other ≠ id) (now : Nat) :
    (table.plan other now).2.get? id = table.get? id := by
  rw [plan_eq_forRoles]
  exact get?_forRoles_of_ne different _ _ _

theorem tickRemote_ids (keyed : Keyed table) (now : Nat) (id : String) :
    ∀ order ∈ (table.tickRemote now id).1.orders, order.id = id := by
  intro order member
  cases present : table.get? id with
  | none => simp [tickRemote_of_absent present] at member
  | some remote =>
      obtain ⟨numbers, round, -⟩ := tickRemote_of_present present now
      rw [round] at member
      have member : order ∈ (remote.takeTurns table.pacing now _ numbers).1 := member
      exact (Remote.id_of_mem_takeTurns member).trans (keyed id remote present)

theorem get?_tickRemote_of_ne (table : PeerTable) (different : other ≠ id) (now : Nat) :
    (table.tickRemote now other).2.get? id = table.get? id := by
  rw [tickRemote_table, get?_giveUp, if_neg different]
  exact get?_forRoles_of_ne different _ _ _

theorem fallbacks_tickRemote (keyed : Keyed table) (now : Nat) (other : String) :
    ∀ route ∈ (table.tickRemote now other).1.fallbacks, route.endpoint.cable = other := by
  intro route member
  cases present : table.get? other with
  | none => simp [tickRemote_of_absent present] at member
  | some remote =>
      obtain ⟨numbers, round, -⟩ := tickRemote_of_present present now
      rw [round] at member
      rw [Remote.endpoint_of_giveUp (Option.mem_toList.1 member)]
      exact keyed other remote present

theorem about_tickRemote (keyed : Keyed table) (now : Nat) :
    (table.tickRemote now other).1.about id =
      if other = id then (table.tickRemote now other).1 else {} := by
  have orders := tickRemote_ids keyed now other
  have fallbacks := fallbacks_tickRemote keyed now other
  generalize (table.tickRemote now other).1 = round at orders fallbacks
  split
  · rename_i same
    subst same
    simp only [Round.about]
    rw [List.filter_eq_self.2 (by simpa using orders), List.filter_eq_self.2 (by simpa using fallbacks)]
  · rename_i different
    simp only [Round.about]
    rw [List.filter_eq_nil_iff.2, List.filter_eq_nil_iff.2]
    · intro route member
      simp [fallbacks route member, different]
    · intro order member
      simp [orders order member, different]

theorem about_tickInOrder_cons (now : Nat) (table : PeerTable) (other : String)
    (rest : List String) :
    (tickInOrder now (other :: rest) table).1.about id =
      let first := (table.tickRemote now other).1.about id
      let others := (tickInOrder now rest (table.tickRemote now other).2).1.about id
      ⟨first.orders ++ others.orders, first.fallbacks ++ others.fallbacks⟩ := by
  simp only [Round.about, tickInOrder, List.filter_append]

theorem tickInOrder_of_idle (keyed : Keyed table) {walk : List String}
    (idle : id ∈ walk → table.get? id = none) (now : Nat) :
    (tickInOrder now walk table).1.about id = {} ∧
      (tickInOrder now walk table).2.get? id = table.get? id := by
  induction walk generalizing table with
  | nil => exact ⟨rfl, rfl⟩
  | cons other rest ih =>
      have later (inRest : id ∈ rest) := idle (List.mem_cons_of_mem _ inRest)
      rw [about_tickInOrder_cons, about_tickRemote keyed]
      by_cases same : other = id
      · have absent := idle (List.mem_cons.2 (.inl same.symm))
        obtain ⟨silent, there⟩ := ih keyed later
        simp only [tickInOrder, same, tickRemote_of_absent absent, silent, there]
        simp
      · have here := get?_tickRemote_of_ne table same now
        obtain ⟨silent, there⟩ :=
          ih ((tickRemote_changes table now other).keyed keyed) fun inRest => here.trans (later inRest)
        rw [if_neg same, silent]
        exact ⟨rfl, there.trans here⟩

theorem tickInOrder_of_present (keyed : Keyed table) (present : table.get? id = some remote)
    (once : walk.Nodup) (member : id ∈ walk) (now : Nat) :
    ∃ numbers, (tickInOrder now walk table).1.about id = (remote.tick table.pacing now numbers).1 ∧
      (tickInOrder now walk table).2.get? id = some (remote.tick table.pacing now numbers).2 := by
  induction walk generalizing table with
  | nil => cases member
  | cons other rest ih =>
      rw [List.nodup_cons] at once
      have changes := tickRemote_changes table now other
      rw [about_tickInOrder_cons, about_tickRemote keyed]
      by_cases same : other = id
      · subst same
        obtain ⟨numbers, round, here⟩ := tickRemote_of_present present now
        obtain ⟨silent, there⟩ := tickInOrder_of_idle (changes.keyed keyed)
          (fun inRest => absurd inRest once.1) now
        refine ⟨numbers, ?_, there.trans here⟩
        rw [if_pos rfl, round, silent]
        simp
      · have inRest : id ∈ rest := by
          rcases List.mem_cons.1 member with rfl | inRest
          · exact absurd rfl same
          · exact inRest
        have here := get?_tickRemote_of_ne table same now
        obtain ⟨numbers, round, there⟩ :=
          ih (changes.keyed keyed) (here.trans present) once.2 inRest
        rw [changes.fixed.1] at round there
        refine ⟨numbers, ?_, there⟩
        rw [if_neg same, round]
        rfl

theorem nodup_walk {walk : List String} (all : walk.Perm table.remotes.keys) : walk.Nodup := by
  refine all.nodup_iff.2 (List.Pairwise.map _ (fun a b smaller same => ?_) table.remotes.ascending)
  exact String.lt_irrefl _ (same ▸ smaller)

theorem mem_walk {walk : List String} (all : walk.Perm table.remotes.keys)
    (present : table.get? id = some remote) : walk.Nodup ∧ id ∈ walk :=
  ⟨nodup_walk all, all.mem_iff.2 (OrderedMap.mem_keys_iff.2 ⟨remote, present⟩)⟩

theorem not_mem_walk {walk : List String} (all : walk.Perm table.remotes.keys)
    (absent : table.get? id = none) : id ∉ walk := by
  intro member
  obtain ⟨remote, present⟩ := OrderedMap.mem_keys_iff.1 (all.mem_iff.1 member)
  cases absent.symm.trans present

/-! ## Operations on other endpoints -/

/-- That an operation is about other endpoints. -/
def Operation.Foreign (id : String) : Operation → Prop
  | add endpoint _ => endpoint.cable ≠ id
  | remove other => other ≠ id
  | plan other _ => other ≠ id
  | tick walk _ => id ∉ walk
  | respond other _ _ _ _ => other ≠ id

theorem about_of_silent {round : Round} (silent : round.about id = {}) :
    ∀ event ∈ round.events, event.about ≠ id := by
  intro event member
  rcases List.mem_append.1 member with inOrders | inFallbacks
  · obtain ⟨order, asked, rfl⟩ := List.mem_map.1 inOrders
    have others := List.filter_eq_nil_iff.1 (congrArg Round.orders silent) order asked
    exact of_decide_eq_false (Bool.eq_false_iff.2 others)
  · obtain ⟨route, given, rfl⟩ := List.mem_map.1 inFallbacks
    have others := List.filter_eq_nil_iff.1 (congrArg Round.fallbacks silent) route given
    exact of_decide_eq_false (Bool.eq_false_iff.2 others)

theorem get?_add_of_ne {endpoint : Endpoint} (different : endpoint.cable ≠ id) (now : Nat) :
    (table.add endpoint now).2.get? id = table.get? id := by
  rcases add_cases table endpoint now with ⟨port, -, -, same⟩ | ⟨-, -, -, same⟩ | ⟨-, same⟩
  · rw [same]
    exact (get?_put ..).trans (if_neg different)
  · rw [same]
  · rw [same]
    exact (get?_forget ..).trans (if_neg different)

theorem add_about {endpoint : Endpoint} {now : Nat} :
    ∀ event ∈ (table.add endpoint now).1.events endpoint, event.about = endpoint.cable := by
  intro event member
  cases admission : (table.add endpoint now).1 <;>
    simp [admission, Admission.events] at member <;> rw [member] <;> rfl

theorem perform_foreign (keyed : Keyed table) {operation : Operation} (foreign : operation.Foreign id) :
    (∀ event ∈ (table.perform operation).1, event.about ≠ id) ∧
      (table.perform operation).2.get? id = table.get? id := by
  cases operation with
  | add endpoint now =>
      refine ⟨fun event member => ?_, get?_add_of_ne foreign now⟩
      rw [add_about event member]
      exact foreign
  | remove other =>
      refine ⟨fun event member => ?_, (get?_forget ..).trans (if_neg foreign)⟩
      rw [List.mem_singleton.1 member]
      exact foreign
  | plan other now =>
      refine ⟨fun event member => ?_, get?_plan_of_ne foreign now⟩
      obtain ⟨order, asked, rfl⟩ := List.mem_map.1 member
      exact fun same => foreign ((plan_ids keyed other now order asked).symm.trans same)
  | tick walk now =>
      obtain ⟨silent, same⟩ :=
        tickInOrder_of_idle keyed (fun member => absurd member foreign) now
      exact ⟨about_of_silent silent, same⟩
  | respond other number source nat now =>
      rcases respond_cases table other number source nat now with
        same | ⟨remote, role, -, -, same⟩
      · rw [same]
        exact ⟨fun event member => (List.not_mem_nil member).elim, rfl⟩
      · rw [same]
        refine ⟨fun event member => ?_, (get?_put ..).trans (if_neg foreign)⟩
        rw [List.mem_singleton.1 member]
        exact foreign

end
end PeerTable
end NatReach
