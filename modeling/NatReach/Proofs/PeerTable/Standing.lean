import NatReach.Proofs.PeerTable.Told

namespace NatReach
open PeerTable

namespace Remote

/-- That a remote asks and knows only about addresses that it has, and that the route handed out last is
the best one known, if anything is known. -/
structure Standing (remote : Remote) : Prop where
  asked : ∀ role, (remote.probe role).lastRequest.isSome → (remote.ip? role).isSome
  heard : ∀ role, (remote.probe role).known.isSome → (remote.ip? role).isSome
  given : (∃ role, (remote.probe role).known.isSome) → remote.lastRoute = remote.route?

theorem route?_congr {a b : Remote} (endpoint : a.endpoint = b.endpoint) (family : a.family = b.family)
    (known : ∀ role, (a.probe role).known = (b.probe role).known) : a.route? = b.route? := by
  unfold route? outcome? ip?
  rw [endpoint, family, known, known]

@[simp] theorem route?_setProbe_of_known (remote : Remote) {role : Role} {probe : Probe}
    (known : probe.known = (remote.probe role).known) :
    (remote.setProbe role probe).route? = remote.route? := by
  exact route?_congr (endpoint_setProbe ..) (family_setProbe ..)
    (probe_setProbe_congr Probe.known known)

theorem probe_lastRoute (remote : Remote) (route : Option Route) (role : Role) :
    ({ remote with lastRoute := route } : Remote).probe role = remote.probe role := by
  cases role <;> rfl

theorem route?_lastRoute (remote : Remote) (route : Option Route) :
    ({ remote with lastRoute := route } : Remote).route? = remote.route? :=
  route?_congr rfl rfl fun role => by rw [probe_lastRoute]

namespace Standing
variable {remote after : Remote} {role : Role}

theorem new (endpoint : Endpoint) (family : Family) (port : UInt16) (started : Nat) :
    Standing { endpoint, family, port, started } where
  asked role some := by cases role <;> cases some
  heard role some := by cases role <;> cases some
  given := by
    rintro ⟨role, some⟩
    cases role <;> cases some

theorem exists_route (standing : remote.Standing) (known : remote.anyKnown = true) :
    ∃ route, remote.route? = some route ∧ remote.lastRoute = some route := by
  have any := anyKnown_iff.1 known
  obtain ⟨-, route, found, -⟩ := route?_eq_preferred standing.heard any
  exact ⟨route, found, (standing.given any).trans found⟩

theorem setProbe (standing : remote.Standing) {probe : Probe}
    (known : probe.known = (remote.probe role).known)
    (address : probe.lastRequest.isSome → (remote.ip? role).isSome) :
    (remote.setProbe role probe).Standing := by
  have knownAll := probe_setProbe_congr Probe.known known
  constructor
  · intro other
    rw [ip?_setProbe]
    exact forall_setProbe (P := fun other probe => probe.lastRequest.isSome →
      (remote.ip? other).isSome) address standing.asked other
  · intro other some
    rw [knownAll] at some
    rw [ip?_setProbe]
    exact standing.heard other some
  · rintro ⟨other, some⟩
    rw [knownAll] at some
    rw [lastRoute_setProbe, route?_setProbe_of_known remote known]
    exact standing.given ⟨other, some⟩

theorem ask (standing : remote.Standing) {pacing : Pacing} {now : Nat} {number : UInt32}
    {order : ProbeOrder} (asks : remote.ask pacing now number role = (some order, after)) :
    after.Standing := by
  obtain ⟨ip, address, -, rfl⟩ := ask_eq_some_iff.1 asks
  refine standing.setProbe (Probe.known_record ..) fun _ => ?_
  rw [address]
  rfl

theorem giveUp (standing : remote.Standing) (hopeless : remote.isHopeless = true) :
    remote.giveUp.2.Standing := by
  rw [giveUp_of_hopeless hopeless]
  have unknown : remote.anyKnown = false := by
    simp only [isHopeless, Bool.and_eq_true, Bool.not_eq_true'] at hopeless
    exact hopeless.1.2
  constructor
  · intro role some
    rw [probe_given] at some
    exact standing.asked role some
  · intro role some
    rw [probe_given] at some
    exact standing.heard role some
  · rintro ⟨role, some⟩
    rw [probe_given] at some
    rw [anyKnown, Bool.or_eq_false_iff] at unknown
    cases role with
    | viaPublic => exact absurd some (Bool.eq_false_iff.1 unknown.1)
    | viaPrivate => exact absurd some (Bool.eq_false_iff.1 unknown.2)

theorem accept_eq (standing : remote.Standing) (address : (remote.ip? role).isSome) (nat : Bool)
    (now : Nat) :
    ∃ route, (remote.setProbe role ((remote.probe role).settle nat now)).route? = some route ∧
      remote.accept role nat now =
        (if remote.lastRoute = some route then none else some route,
          { remote.setProbe role ((remote.probe role).settle nat now) with
            lastRoute := some route }) := by
  let settled := remote.setProbe role ((remote.probe role).settle nat now)
  have known : (settled.probe role).known = some nat := by
    rw [probe_setProbe, Probe.known_settle]
  have addresses (other : Role) (some : (settled.probe other).known.isSome) :
      (settled.ip? other).isSome := by
    rw [ip?_setProbe]
    exact forall_setProbe (P := fun other probe => probe.known.isSome →
      (remote.ip? other).isSome) (fun _ => address) standing.heard other some
  obtain ⟨-, route, found, -⟩ := route?_eq_preferred addresses ⟨role, by rw [known]; rfl⟩
  refine ⟨route, found, ?_⟩
  rw [Remote.accept_eq found]
  by_cases news : (remote.probe role).isNews nat = true
  · by_cases same : remote.lastRoute = some route
    · have unchanged : settled.lastRoute = some route := (lastRoute_setProbe ..).trans same
      simp only [news, same, ne_eq, not_true_eq_false, and_false, ↓reduceIte]
      exact congrArg (Prod.mk none) (congrArg (fun last => { settled with lastRoute := last }) unchanged)
    · simp only [news, same, ne_eq, not_false_eq_true, and_self, ↓reduceIte]
  · -- what is no news is known, so the last route was up to date
    have old : (remote.probe role).known = some nat := by simpa [Probe.isNews] using news
    have same : remote.lastRoute = some route := by
      rw [standing.given ⟨role, by rw [old]; rfl⟩, ← found]
      exact (route?_setProbe_of_known remote (by rw [Probe.known_settle, old])).symm
    have unchanged : settled.lastRoute = some route := (lastRoute_setProbe ..).trans same
    simp only [news, same, false_and, Bool.false_eq_true, ↓reduceIte]
    exact congrArg (Prod.mk none) (congrArg (fun last => { settled with lastRoute := last }) unchanged)

theorem address_of_counts (standing : remote.Standing) {number : UInt32} {source : Ip}
    (counts : remote.Counts number source role) : (remote.ip? role).isSome :=
  standing.asked role (by rw [counts.lastRequest]; rfl)

theorem accept (standing : remote.Standing) (address : (remote.ip? role).isSome) (nat : Bool)
    (now : Nat) : (remote.accept role nat now).2.Standing := by
  obtain ⟨route, found, same⟩ := standing.accept_eq address nat now
  rw [same]
  constructor
  · intro other some
    rw [probe_lastRoute] at some
    change ((remote.setProbe role _).ip? other).isSome
    rw [ip?_setProbe]
    exact forall_setProbe (P := fun other probe => probe.lastRequest.isSome →
      (remote.ip? other).isSome) (fun _ => address) standing.asked other some
  · intro other some
    rw [probe_lastRoute] at some
    change ((remote.setProbe role _).ip? other).isSome
    rw [ip?_setProbe]
    exact forall_setProbe (P := fun other probe => probe.known.isSome →
      (remote.ip? other).isSome) (fun _ => address) standing.heard other some
  · intro _
    rw [route?_lastRoute, found]

theorem move (standing : remote.Standing) {pacing : Pacing} {id : String} {events : List Event}
    (move : remote.Move pacing id events after) : after.Standing := by
  cases move with
  | @keep role now nat address turn =>
      refine standing.setProbe ?_ fun _ => address
      rw [Probe.known_of_turn_keep turn, Probe.known_resolve]
  | exhaust address turn => exact standing.setProbe rfl fun _ => address
  | giveUp hopeless => exact standing.giveUp hopeless
  | accept counts => exact standing.accept (standing.address_of_counts counts) ..

end Standing
end Remote

/-! ## Tables -/

namespace PeerTable

structure Traced (id : String) (family : Family) (story : Chronicle) (remote : Remote) : Prop where
  endpoint : remote.endpoint = story.endpoint
  cable : story.endpoint.cable = id
  sameFamily : remote.family = family
  orders : ∀ order ∈ story.orders, order.receiver = story.endpoint.identity ∧
    ∃ ip, remote.ip? order.role = some ip ∧ order.destination = .ofIp ip remote.port
  latest : ∀ role, (remote.probe role).lastRequest = (story.latest? role).map (·.number)
  last : remote.lastRoute = story.routes.head?
  standing : remote.Standing

namespace Traced
variable {id : String} {family : Family} {story : Chronicle} {remote after : Remote}

theorem new {endpoint : Endpoint} (family : Family) (port : UInt16) (now : Nat) :
    Traced endpoint.cable family { endpoint } { endpoint, family, port, started := now } where
  endpoint := rfl
  cable := rfl
  sameFamily := rfl
  orders _ member := by cases member
  latest role := by cases role <;> rfl
  last := rfl
  standing := .new ..

theorem ask (traced : Traced id family story remote) {pacing : Pacing} {now : Nat}
    {number : UInt32} {role : Role} {order : ProbeOrder}
    (asks : remote.ask pacing now number role = (some order, after)) :
    Traced id family (story.ask order) after := by
  have standing := traced.standing.ask asks
  obtain ⟨ip, address, rfl, rfl⟩ := Remote.ask_eq_some_iff.1 asks
  refine ⟨(Remote.endpoint_setProbe ..).trans traced.endpoint, traced.cable,
    (Remote.family_setProbe ..).trans traced.sameFamily, ?_, ?_,
    (Remote.lastRoute_setProbe ..).trans traced.last, standing⟩
  · intro order member
    simp only [Remote.ip?_setProbe, Remote.port_setProbe]
    rcases List.mem_cons.1 member with rfl | member
    · exact ⟨congrArg Endpoint.identity traced.endpoint, ip, address, rfl⟩
    · exact traced.orders order member
  · exact latest_record traced.latest ⟨_, _, role, number, _⟩ now pacing

theorem setProbe (traced : Traced id family story remote) {role : Role} {probe : Probe}
    (last : probe.lastRequest = (remote.probe role).lastRequest)
    (standing : (remote.setProbe role probe).Standing) :
    Traced id family story (remote.setProbe role probe) := by
  refine ⟨(Remote.endpoint_setProbe ..).trans traced.endpoint, traced.cable,
    (Remote.family_setProbe ..).trans traced.sameFamily, ?_, ?_,
    (Remote.lastRoute_setProbe ..).trans traced.last, standing⟩
  · intro order member
    rw [Remote.ip?_setProbe, Remote.port_setProbe]
    exact traced.orders order member
  · intro other
    rw [Remote.probe_setProbe_congr Probe.lastRequest last, traced.latest]

theorem giveUp (traced : Traced id family story remote) (hopeless : remote.isHopeless = true) :
    Traced id family (story.handOut remote.giveUp.1) remote.giveUp.2 := by
  have standing := traced.standing.giveUp hopeless
  rw [Remote.giveUp_of_hopeless hopeless] at standing ⊢
  refine ⟨traced.endpoint, traced.cable, traced.sameFamily, traced.orders, fun role => ?_, ?_,
    standing⟩
  · rw [Remote.probe_given]
    exact traced.latest role
  · change remote.fallback?.or remote.lastRoute = (remote.fallback?.toList ++ story.routes).head?
    rw [traced.last]
    cases remote.fallback? <;> rfl

theorem accept (traced : Traced id family story remote) {role : Role} {number : UInt32}
    {source : Ip} {nat : Bool} {now : Nat} (counts : remote.Counts number source role) :
    Traced id family ((story.hear number nat).handOut (remote.accept role nat now).1)
      (remote.accept role nat now).2 := by
  have address := traced.standing.address_of_counts counts
  refine ⟨(Remote.endpoint_accept ..).trans traced.endpoint, traced.cable,
    (Remote.family_accept ..).trans traced.sameFamily, ?_, fun other => ?_, ?_,
    traced.standing.accept address nat now⟩
  · intro order member
    rw [Remote.ip?_accept, Remote.port_accept]
    exact traced.orders order member
  · rw [Remote.probe_accept]
    split
    · rename_i same
      rw [Probe.lastRequest_settle, same]
      exact traced.latest other
    · exact traced.latest other
  · obtain ⟨route, -, result⟩ := traced.standing.accept_eq address nat now
    change _ = ((remote.accept role nat now).1.toList ++ story.routes).head?
    rw [result]
    split
    · rename_i same
      exact same.symm.trans traced.last
    · rfl

theorem move (traced : Traced id family story remote) {pacing : Pacing} {events : List Event}
    (move : remote.Move pacing id events after) :
    ∃ later, events.foldl (Chronicle.note id) (some story) = some later ∧
      Traced id family later after := by
  have standing := traced.standing.move move
  cases move with
  | keep => exact ⟨story, rfl, traced.setProbe rfl standing⟩
  | exhaust => exact ⟨story, rfl, traced.setProbe rfl standing⟩
  | giveUp hopeless =>
      have cable : remote.endpoint.cable = id := by rw [traced.endpoint, traced.cable]
      exact ⟨_, note_giveUp cable hopeless, traced.giveUp hopeless⟩
  | accept counts => exact ⟨_, by simp [Chronicle.note], traced.accept counts⟩

end Traced

def Traces (log : List Event) (table : PeerTable) : Prop :=
  ∀ id, Option.Rel (Traced id table.family) (chronicle id log) (table.get? id)

namespace Traces
variable {log : List Event} {table : PeerTable} {id : String}

theorem new (pacing : Pacing) (family : Family) (first : UInt32) :
    Traces [] (PeerTable.new pacing family first) := fun _ => .none

theorem exists_story (traces : Traces log table) {remote : Remote}
    (present : table.get? id = some remote) :
    ∃ story, chronicle id log = some story ∧ Traced id table.family story remote := by
  have rel := traces id
  rw [present] at rel
  exact exists_left_of_rel rel

theorem exists_remote (traces : Traces log table) {story : Chronicle}
    (tells : chronicle id log = some story) :
    ∃ remote, table.get? id = some remote ∧ Traced id table.family story remote := by
  have rel := traces id
  rw [tells] at rel
  exact exists_right_of_rel rel

end Traces

theorem Change.traces {log : List Event} {table after : PeerTable} {events : List Event}
    (change : Change table events after) (traces : Traces log table) :
    Traces (log ++ events) after := by
  unfold Traces
  rw [(Changes.single change).fixed.2]
  exact change.related traces (fun traced => by rw [traced.endpoint, traced.cable])
    (fun now _ => .new _ _ now) (fun traced asks => traced.ask asks)
    (fun _ traced => traced.move)

theorem Changes.traces {start table : PeerTable} {log events : List Event}
    (changes : Changes start events table) (traces : Traces log start) :
    Traces (log ++ events) table := by
  induction changes with
  | refl => rwa [List.append_nil]
  | more _ change ih =>
      rw [← List.append_assoc]
      exact change.traces ih

theorem Traces.run {log : List Event} {table : PeerTable} (traces : Traces log table)
    (operations : List Operation) :
    Traces (log ++ (PeerTable.run operations table).1) (PeerTable.run operations table).2 := by
  obtain ⟨events, changes, same⟩ := run_changes operations table
  intro id
  rw [← ((SameReading.refl log).append same).chronicle id]
  exact changes.traces traces id

theorem run_traces {pacing : Pacing} {family : Family} {first : UInt32}
    {operations : List Operation} {log : List Event} {table : PeerTable}
    (ran : run operations (new pacing family first) = (log, table)) : Traces log table := by
  have traces := (Traces.new pacing family first).run operations
  rwa [ran] at traces

end PeerTable
end NatReach
