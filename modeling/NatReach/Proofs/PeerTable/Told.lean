import Mathlib.Data.List.Induction
import NatReach.Proofs.PeerTable.Chronicle

/-!
# Remotes are as their chronicles tell

What a remote knows, which requests it waits for and which route it handed out last follow from its
chronicle. Every change of the table keeps that, so it holds after every run in which the numbers of
requests do not come round.
-/
namespace NatReach

namespace PeerTable

structure Told (id : String) (family : Family) (story : Chronicle) (remote : Remote) : Prop where
  endpoint : remote.endpoint = story.endpoint
  cable : story.endpoint.cable = id
  sameFamily : remote.family = family
  port : story.endpoint.discoveryPort = .ok (some remote.port)
  orders : ∀ order ∈ story.orders, order.id = id ∧ order.receiver = story.endpoint.identity ∧
    ∃ ip, remote.ip? order.role = some ip ∧ order.destination = .ofIp ip remote.port
  latest : ∀ role, (remote.probe role).lastRequest = (story.latest? role).map (·.number)
  known : ∀ role, (remote.probe role).known = verdict? story.verdicts role
  heard : ∀ role, (remote.probe role).known.isSome → (remote.ip? role).isSome
  routes : story.routes.map some =
    dropRepeats (Chronicle.choices story.endpoint family story.verdicts) ++
      (if remote.fallbackGiven then remote.fallback? else none).toList.map some
  last : remote.lastRoute = story.routes.head?

variable {id : String} {family : Family} {story : Chronicle} {remote after : Remote}

theorem latest_record
    (latest : ∀ role, (remote.probe role).lastRequest = (story.latest? role).map (·.number))
    (order : ProbeOrder) (now : Nat) (pacing : Pacing) (role : Role) :
    ((remote.setProbe order.role ((remote.probe order.role).record order.number now pacing)).probe
      role).lastRequest = ((story.ask order).latest? role).map (·.number) := by
  rw [Remote.probe_setProbe_eq]
  simp only [Chronicle.latest?, Chronicle.ask, List.find?_cons]
  by_cases same : order.role = role
  · simp [same, Probe.record]
  · simpa [same, Chronicle.latest?] using latest role

theorem note_giveUp (cable : remote.endpoint.cable = id) (hopeless : remote.isHopeless = true) :
    (remote.giveUp.1.toList.map .gaveUp).foldl (Chronicle.note id) (some story) =
      some (story.handOut remote.giveUp.1) := by
  rw [Remote.giveUp_of_hopeless hopeless]
  cases fallback : remote.fallback? with
  | none => rfl
  | some route =>
      have ours : route.endpoint.cable = id := by
        rw [(Remote.selected_fallback? fallback).1, cable]
      simp [Chronicle.note, ours]

namespace Told

theorem new {endpoint : Endpoint} {port : UInt16} (family : Family) (now : Nat)
    (answers : endpoint.discoveryPort = .ok (some port)) :
    Told endpoint.cable family { endpoint } { endpoint, family, port, started := now } where
  endpoint := rfl
  cable := rfl
  sameFamily := rfl
  port := answers
  orders _ member := by cases member
  latest role := by cases role <;> rfl
  known role := by cases role <;> rfl
  heard role known := by cases role <;> cases known
  routes := rfl
  last := rfl

theorem ask (told : Told id family story remote) {pacing : Pacing} {now : Nat} {number : UInt32}
    {role : Role} {order : ProbeOrder}
    (asks : remote.ask pacing now number role = (some order, after)) :
    Told id family (story.ask order) after := by
  obtain ⟨ip, address, rfl, rfl⟩ := Remote.ask_eq_some_iff.1 asks
  have cable : remote.endpoint.cable = id := by rw [told.endpoint, told.cable]
  constructor
  · exact (Remote.endpoint_setProbe ..).trans told.endpoint
  · exact told.cable
  · exact (Remote.family_setProbe ..).trans told.sameFamily
  · rw [Remote.port_setProbe]
    exact told.port
  · intro order member
    simp only [Remote.ip?_setProbe, Remote.port_setProbe]
    rcases List.mem_cons.1 member with rfl | member
    · exact ⟨cable, congrArg Endpoint.identity told.endpoint, ip, address, rfl⟩
    · exact told.orders order member
  · exact latest_record told.latest ⟨_, _, role, number, _⟩ now pacing
  · intro other
    rw [Remote.probe_setProbe_congr Probe.known (Probe.known_record ..)]
    exact told.known other
  · intro other
    rw [Remote.probe_setProbe_congr Probe.known (Probe.known_record ..), Remote.ip?_setProbe]
    exact told.heard other
  · rw [Remote.fallbackGiven_setProbe, Remote.fallback?, Remote.endpoint_setProbe,
      Remote.family_setProbe]
    exact told.routes
  · exact (Remote.lastRoute_setProbe ..).trans told.last

theorem setProbe (told : Told id family story remote) {role : Role} {probe : Probe}
    (known : probe.known = (remote.probe role).known)
    (last : probe.lastRequest = (remote.probe role).lastRequest) :
    Told id family story (remote.setProbe role probe) := by
  have knownAll := Remote.probe_setProbe_congr Probe.known known
  constructor
  · exact (Remote.endpoint_setProbe ..).trans told.endpoint
  · exact told.cable
  · exact (Remote.family_setProbe ..).trans told.sameFamily
  · rw [Remote.port_setProbe]
    exact told.port
  · intro order member
    rw [Remote.ip?_setProbe, Remote.port_setProbe]
    exact told.orders order member
  · intro other
    rw [Remote.probe_setProbe_congr Probe.lastRequest last, told.latest]
  · intro other
    rw [knownAll, told.known]
  · intro other
    rw [knownAll, Remote.ip?_setProbe]
    exact told.heard other
  · rw [Remote.fallbackGiven_setProbe, Remote.fallback?, Remote.endpoint_setProbe,
      Remote.family_setProbe]
    exact told.routes
  · exact (Remote.lastRoute_setProbe ..).trans told.last

theorem anyKnown (told : Told id family story remote) :
    remote.anyKnown = true ↔ story.verdicts ≠ [] := by
  rw [Remote.anyKnown_iff]
  constructor
  · rintro ⟨role, some⟩ none
    rw [told.known, none] at some
    cases some
  · intro some
    obtain ⟨⟨role, nat⟩, member⟩ := List.exists_mem_of_ne_nil _ some
    refine ⟨role, ?_⟩
    rw [told.known]
    exact verdict?_isSome_of_mem member

theorem giveUp (told : Told id family story remote) (hopeless : remote.isHopeless = true) :
    Told id family (story.handOut remote.giveUp.1) remote.giveUp.2 := by
  have pending : remote.fallbackGiven = false ∧ ¬ remote.anyKnown = true := by
    simp only [Remote.isHopeless, Bool.and_eq_true, Bool.not_eq_true'] at hopeless
    simpa using hopeless.1
  have silent : story.verdicts = [] := by
    by_contra some
    exact pending.2 (told.anyKnown.2 some)
  have nothing : story.routes = [] := by
    simpa [silent, pending.1, Chronicle.choices, dropRepeats] using told.routes
  rw [Remote.giveUp_of_hopeless hopeless]
  constructor
  · exact told.endpoint
  · exact told.cable
  · exact told.sameFamily
  · exact told.port
  · exact told.orders
  · intro role
    rw [Remote.probe_given]
    exact told.latest role
  · intro role
    rw [Remote.probe_given]
    exact told.known role
  · intro role
    rw [Remote.probe_given]
    exact told.heard role
  · change (remote.fallback?.toList ++ story.routes).map some =
      dropRepeats (Chronicle.choices story.endpoint family story.verdicts) ++
        remote.fallback?.toList.map some
    simp [nothing, silent, Chronicle.choices, dropRepeats]
  · change remote.fallback?.or remote.lastRoute = (remote.fallback?.toList ++ story.routes).head?
    rw [told.last]
    cases remote.fallback? <;> rfl

theorem last_eq_some_iff (told : Told id family story remote) {route : Route}
    (selected : route.selected.isSome) :
    remote.lastRoute = some route ↔
      (Chronicle.choices story.endpoint family story.verdicts).head? = some (some route) := by
  have heads := congrArg List.head? told.routes
  rw [List.head?_map, List.head?_append, head?_dropRepeats, ← told.last] at heads
  cases choices : (Chronicle.choices story.endpoint family story.verdicts).head? with
  | some choice =>
      rw [choices, Option.some_or] at heads
      constructor
      · intro last
        rw [last] at heads
        exact heads.symm
      · intro same
        rw [same] at heads
        cases last : remote.lastRoute with
        | none => simp [last] at heads
        | some other => simpa [last] using heads
  | none =>
      rw [choices, Option.none_or, List.head?_map] at heads
      have guess : remote.lastRoute ≠ some route := by
        intro last
        rw [last] at heads
        split at heads
        · cases fallback : remote.fallback? with
          | none => simp [fallback] at heads
          | some other =>
              have same : route = other := by simpa [fallback] using heads
              rw [same, (Remote.selected_fallback? fallback).2] at selected
              cases selected
        · simp at heads
      simp [guess]

theorem choice_of_not_news (told : Told id family story remote) {role : Role} {nat : Bool}
    (old : ¬ (remote.probe role).isNews nat = true) :
    (Chronicle.choices story.endpoint family story.verdicts).head? =
      some (story.endpoint.preferred? family (verdict? ((role, nat) :: story.verdicts))) := by
  have known : verdict? story.verdicts role = some nat := by
    rw [← told.known]
    simpa [Probe.isNews] using old
  have same : verdict? ((role, nat) :: story.verdicts) = verdict? story.verdicts := by
    funext other
    rw [verdict?_cons]
    split
    · rename_i equal
      rw [← equal, known]
    · rfl
  rw [same]
  cases verdicts : story.verdicts with
  | nil => simp [verdicts, verdict?] at known
  | cons verdict earlier => rfl

/-- The request with a number that is on record is the latest one in its role, because no other
request to the endpoint has that number. -/
theorem roleOf?_eq (told : Told id family story remote)
    (different : (story.orders.map (·.number)).Nodup) {role : Role} {number : UInt32}
    (last : (remote.probe role).lastRequest = some number) :
    story.roleOf? number = some role ∧ (remote.ip? role).isSome := by
  rw [told.latest, Option.map_eq_some_iff] at last
  obtain ⟨order, latest, rfl⟩ := last
  have member := List.mem_of_find?_eq_some latest
  have role_eq : order.role = role := by simpa using List.find?_some latest
  obtain ⟨-, -, ip, address, -⟩ := told.orders order member
  constructor
  · cases found : story.orders.find? fun other => other.number = order.number with
    | none => simpa using List.find?_eq_none.1 found order member
    | some other =>
        have sameNumber : other.number = order.number := by simpa using List.find?_some found
        have same := List.inj_on_of_nodup_map different (List.mem_of_find?_eq_some found) member
          sameNumber
        simp [Chronicle.roleOf?, found, same, role_eq]
  · rw [← role_eq, address]
    rfl

theorem known_settled (told : Told id family story remote) (role other : Role) (nat : Bool) (now : Nat) :
    ((remote.setProbe role ((remote.probe role).settle nat now)).probe other).known =
      verdict? ((role, nat) :: story.verdicts) other := by
  rw [Remote.probe_setProbe_eq, verdict?_cons]
  split
  · exact Probe.known_settle ..
  · exact told.known other

theorem heard_settled (told : Told id family story remote) {role : Role}
    (address : (remote.ip? role).isSome) (other : Role) (nat : Bool) (now : Nat) :
    ((remote.setProbe role ((remote.probe role).settle nat now)).probe other).known.isSome →
      (remote.ip? other).isSome :=
  Remote.forall_setProbe (P := fun other probe => probe.known.isSome → (remote.ip? other).isSome)
    (fun _ => address) told.heard other

theorem accept_result (told : Told id family story remote) {role : Role}
    (address : (remote.ip? role).isSome) (nat : Bool) (now : Nat) :
    ∃ route, story.endpoint.preferred? family (verdict? ((role, nat) :: story.verdicts)) = some route ∧
      remote.accept role nat now =
        let settled := remote.setProbe role ((remote.probe role).settle nat now)
        if (Chronicle.choices story.endpoint family story.verdicts).head? ≠ some (some route) then
          (some route, { settled with lastRoute := some route })
        else (none, settled) := by
  let settled := remote.setProbe role ((remote.probe role).settle nat now)
  have known (other : Role) : (settled.probe other).known = _ := told.known_settled role other nat now
  have addresses (other : Role) (some : (settled.probe other).known.isSome) :
      (settled.ip? other).isSome := by
    rw [Remote.ip?_setProbe]
    exact told.heard_settled address other nat now some
  obtain ⟨preferred, route, found, selected⟩ := Remote.route?_eq_preferred addresses
    ⟨role, by rw [known, verdict?_cons, if_pos rfl]; rfl⟩
  have choice : story.endpoint.preferred? family (verdict? ((role, nat) :: story.verdicts)) =
      some route := by
    rw [← found, preferred, funext known]
    simp only [settled, Remote.endpoint_setProbe, Remote.family_setProbe, told.endpoint,
      told.sameFamily]
  have given : ((remote.probe role).isNews nat = true ∧ remote.lastRoute ≠ some route) ↔
      (Chronicle.choices story.endpoint family story.verdicts).head? ≠ some (some route) := by
    rw [ne_eq, ne_eq, told.last_eq_some_iff selected]
    constructor
    · exact And.right
    · intro different
      refine ⟨?_, different⟩
      by_contra old
      exact different ((told.choice_of_not_news old).trans (congrArg some choice))
  have result := Remote.accept_eq found
  simp only [given] at result
  exact ⟨route, choice, result⟩

theorem accept (told : Told id family story remote)
    (different : (story.orders.map (·.number)).Nodup) {role : Role} {number : UInt32} {source : Ip}
    {nat : Bool} {now : Nat} (counts : remote.Counts number source role) :
    Told id family ((story.hear number nat).handOut (remote.accept role nat now).1)
      (remote.accept role nat now).2 := by
  obtain ⟨ours, address⟩ := told.roleOf?_eq different counts.lastRequest
  have heard : story.hear number nat = { story with verdicts := (role, nat) :: story.verdicts } := by
    simp [Chronicle.hear, ours]
  obtain ⟨route, choice, result⟩ := told.accept_result address nat now
  rw [heard]
  constructor
  · exact (Remote.endpoint_accept ..).trans told.endpoint
  · exact told.cable
  · exact (Remote.family_accept ..).trans told.sameFamily
  · rw [Remote.port_accept]
    exact told.port
  · intro order member
    rw [Remote.port_accept, Remote.ip?_accept]
    exact told.orders order member
  · intro other
    rw [Remote.probe_accept]
    split
    · rename_i same
      subst same
      rw [Probe.lastRequest_settle]
      exact told.latest role
    · exact told.latest other
  · intro other
    rw [Remote.probe_accept, ← Remote.probe_setProbe_eq]
    exact told.known_settled role other nat now
  · intro other some
    rw [Remote.probe_accept, ← Remote.probe_setProbe_eq] at some
    rw [Remote.ip?_accept]
    exact told.heard_settled address other nat now some
  -- A route that is the latest choice already is not handed out, and is no new value either.
  · change ((remote.accept role nat now).1.toList ++ story.routes).map some = dropRepeats
      (Chronicle.choices story.endpoint family ((role, nat) :: story.verdicts)) ++
        (if (remote.accept role nat now).2.fallbackGiven then
          (remote.accept role nat now).2.fallback? else none).toList.map some
    rw [Remote.fallback?, Remote.fallbackGiven_accept, Remote.endpoint_accept, Remote.family_accept,
      Chronicle.choices, choice, dropRepeats, List.map_append, told.routes]
    by_cases repeated : (Chronicle.choices story.endpoint family story.verdicts).head? =
        some (some route)
    · simp [result, repeated, Remote.fallback?]
    · simp [result, repeated, Remote.fallback?]
  · change (remote.accept role nat now).2.lastRoute =
      ((remote.accept role nat now).1.toList ++ story.routes).head?
    rw [result]
    split
    · rfl
    · exact (Remote.lastRoute_setProbe ..).trans told.last

end Told

theorem Told.move (told : Told id family story remote)
    (different : (story.orders.map (·.number)).Nodup) {pacing : Pacing} {events : List Event}
    (move : remote.Move pacing id events after) :
    ∃ later, events.foldl (Chronicle.note id) (some story) = some later ∧
      Told id family later after := by
  cases move with
  | keep address turn =>
      refine ⟨story, rfl, told.setProbe ?_ rfl⟩
      rw [Probe.known_of_turn_keep turn, Probe.known_resolve]
  | exhaust address turn => exact ⟨story, rfl, told.setProbe rfl rfl⟩
  | giveUp hopeless =>
      have cable : remote.endpoint.cable = id := by rw [told.endpoint, told.cable]
      exact ⟨_, note_giveUp cable hopeless, told.giveUp hopeless⟩
  | accept counts => exact ⟨_, by simp [Chronicle.note], told.accept different counts⟩

def Event.about : Event → String
  | tracked endpoint => endpoint.cable
  | dropped id => id
  | asked order => order.id
  | gaveUp route => route.endpoint.cable
  | answered id _ _ _ => id

theorem note_of_ne {id : String} {event : Event} (other : event.about ≠ id)
    (story : Option Chronicle) : Chronicle.note id story event = story := by
  cases event <;> exact if_neg other

theorem note_all_of_ne {id : String} {events : List Event}
    (other : ∀ event ∈ events, event.about ≠ id) (story : Option Chronicle) :
    events.foldl (Chronicle.note id) story = story := by
  induction events with
  | nil => rfl
  | cons event rest ih =>
      rw [List.foldl_cons, note_of_ne (other event List.mem_cons_self)]
      exact ih fun event member => other event (List.mem_cons_of_mem _ member)

theorem chronicle_append_of_ne {id : String} {events : List Event}
    (other : ∀ event ∈ events, event.about ≠ id) (log : List Event) :
    chronicle id (log ++ events) = chronicle id log := by
  rw [chronicle_append]
  exact note_all_of_ne other _

theorem move_about {id : String} (cable : remote.endpoint.cable = id) {pacing : Pacing}
    {events : List Event} (move : remote.Move pacing id events after) :
    ∀ event ∈ events, event.about = id := by
  intro event member
  cases move with
  | keep => cases member
  | exhaust => cases member
  | giveUp hopeless =>
      rw [Remote.giveUp_of_hopeless hopeless] at member
      obtain ⟨route, given, rfl⟩ := List.mem_map.1 member
      change route.endpoint.cable = id
      rw [(Remote.selected_fallback? (Option.mem_toList.1 given)).1, cable]
  | accept counts =>
      rw [List.mem_singleton.1 member]
      rfl

/-- A relation of remotes and their chronicles that holds when a discovery begins, and that requests and
moves keep, is kept by every change. -/
theorem Change.related {log events : List Event} {table after : PeerTable}
    (change : Change table events after) {related : String → Chronicle → Remote → Prop}
    (before : ∀ id, Option.Rel (related id) (chronicle id log) (table.get? id))
    (cable : ∀ {id story remote}, related id story remote → remote.endpoint.cable = id)
    (track : ∀ {endpoint port} now, endpoint.discoveryPort = .ok (some port) →
      related endpoint.cable { endpoint } { endpoint, family := table.family, port, started := now })
    (ask : ∀ {id story remote role now order after}, related id story remote →
      remote.ask table.pacing now table.freshNumber role = (some order, after) →
      related id (story.ask order) after)
    (move : ∀ {id story remote events after}, chronicle id log = some story →
      related id story remote → remote.Move table.pacing id events after →
      ∃ later, events.foldl (Chronicle.note id) (some story) = some later ∧ related id later after)
    (id : String) : Option.Rel (related id) (chronicle id (log ++ events)) (after.get? id) := by
  -- a change is about one name, and all others stay as they were
  have step (one : String) (about : ∀ event ∈ events, event.about = one)
      (others : ∀ other, one ≠ other → after.get? other = table.get? other)
      (here : Option.Rel (related one) (chronicle one (log ++ events)) (after.get? one)) :
      Option.Rel (related id) (chronicle id (log ++ events)) (after.get? id) := by
    by_cases same : one = id
    · rw [← same]
      exact here
    · rw [chronicle_append_of_ne (fun event member => by rwa [about event member]), others id same]
      exact before id
  cases change with
  | @track endpoint port now answers news =>
      have begun : chronicle endpoint.cable (log ++ [.tracked endpoint]) = some { endpoint } := by
        simp [chronicle_append, Chronicle.note]
      refine step endpoint.cable (by simp [Event.about]) (fun other different => ?_) ?_
      · rw [get?_put, if_neg different]
      · rw [begun, get?_put_self]
        exact .some (track now answers)
  | drop dropped =>
      have ended : chronicle dropped (log ++ [.dropped dropped]) = none := by
        simp [chronicle_append, Chronicle.note]
      refine step dropped (by simp [Event.about]) (fun other different => ?_) ?_
      · rw [get?_forget, if_neg different]
      · rw [ended, get?_forget, if_pos rfl]
        exact .none
  | @ask asked remote role now order after present asks =>
      have rel := before asked
      rw [present] at rel
      obtain ⟨story, tells, fits⟩ := exists_left_of_rel rel
      have ours : order.id = asked := by
        obtain ⟨ip, -, rfl, -⟩ := Remote.ask_eq_some_iff.1 asks
        exact cable fits
      have noted : chronicle asked (log ++ [.asked order]) = some (story.ask order) := by
        simp [chronicle_append, Chronicle.note, tells, ours]
      refine step asked (by simp [Event.about, ours]) (fun other different => ?_) ?_
      · exact (get?_put ..).trans (if_neg different)
      · rw [noted]
        change Option.Rel _ _ ((table.put asked after).get? asked)
        rw [get?_put_self]
        exact .some (ask fits asks)
  | @move moved remote events after present moves =>
      have rel := before moved
      rw [present] at rel
      obtain ⟨story, tells, fits⟩ := exists_left_of_rel rel
      obtain ⟨later, noted, fitsLater⟩ := move tells fits moves
      refine step moved (move_about (cable fits) moves) (fun other different => ?_) ?_
      · rw [get?_put, if_neg different]
      · rw [chronicle_append, tells, noted, get?_put_self]
        exact .some fitsLater

theorem chronicle_orders {id : String} {log : List Event} {story : Chronicle}
    (tells : chronicle id log = some story) : story.orders.reverse.Sublist (issued log) := by
  induction log using List.reverseRecOn generalizing story with
  | nil => cases tells
  | append_singleton log event ih =>
      rw [chronicle_append, List.foldl_cons, List.foldl_nil] at tells
      rw [issued_append]
      -- Only events about this endpoint change its chronicle, and only a request adds one to it.
      cases event with
      | tracked endpoint =>
          simp only [Chronicle.note] at tells
          split at tells
          · cases tells
            exact List.nil_sublist _
          · exact (ih tells).trans (List.sublist_append_left ..)
      | dropped other =>
          simp only [Chronicle.note] at tells
          split at tells
          · cases tells
          · exact (ih tells).trans (List.sublist_append_left ..)
      | asked order =>
          simp only [Chronicle.note] at tells
          split at tells
          · obtain ⟨earlier, before, rfl⟩ := Option.map_eq_some_iff.1 tells
            simpa [Chronicle.ask, issued, Event.order?] using (ih before).append_right [order]
          · exact (ih tells).trans (List.sublist_append_left ..)
      | gaveUp route =>
          simp only [Chronicle.note] at tells
          split at tells
          · obtain ⟨earlier, before, rfl⟩ := Option.map_eq_some_iff.1 tells
            exact (ih before).trans (List.sublist_append_left ..)
          · exact (ih tells).trans (List.sublist_append_left ..)
      | answered other number nat route =>
          simp only [Chronicle.note] at tells
          split at tells
          · obtain ⟨earlier, before, rfl⟩ := Option.map_eq_some_iff.1 tells
            exact (ih before).trans (List.sublist_append_left ..)
          · exact (ih tells).trans (List.sublist_append_left ..)

/-! ## Tables -/

/-- That every remote is as its chronicle tells, and that a chronicle holds no requests but those on
the log. -/
structure Agrees (log : List Event) (table : PeerTable) : Prop where
  told : ∀ id, Option.Rel (Told id table.family) (chronicle id log) (table.get? id)
  orders : ∀ {id story}, chronicle id log = some story → story.orders.reverse.Sublist (issued log)

namespace Agrees
variable {log : List Event} {table : PeerTable}

theorem exists_remote (agrees : Agrees log table) {id : String} {story : Chronicle}
    (tells : chronicle id log = some story) :
    ∃ remote, table.get? id = some remote ∧ Told id table.family story remote := by
  have rel := agrees.told id
  rw [tells] at rel
  exact exists_right_of_rel rel

theorem exists_story (agrees : Agrees log table) {id : String} {remote : Remote}
    (present : table.get? id = some remote) :
    ∃ story, chronicle id log = some story ∧ Told id table.family story remote := by
  have rel := agrees.told id
  rw [present] at rel
  exact exists_left_of_rel rel

theorem absent_iff (agrees : Agrees log table) (id : String) :
    chronicle id log = none ↔ table.get? id = none := by
  have rel := agrees.told id
  constructor
  · intro none
    rw [none] at rel
    cases present : table.get? id with
    | none => rfl
    | some remote => rw [present] at rel; cases rel
  · intro none
    rw [none] at rel
    cases tells : chronicle id log with
    | none => rfl
    | some story => rw [tells] at rel; cases rel

theorem new (pacing : Pacing) (family : Family) (first : UInt32) :
    Agrees [] (PeerTable.new pacing family first) where
  told _ := .none
  orders tells := by cases tells

theorem different (agrees : Agrees log table) (nodup : ((issued log).map (·.number)).Nodup)
    {id : String} {story : Chronicle} (tells : chronicle id log = some story) :
    (story.orders.map (·.number)).Nodup := by
  have part := (agrees.orders tells).map (·.number)
  have reversed := nodup.sublist part
  rwa [List.map_reverse, List.nodup_reverse] at reversed

end Agrees

theorem Change.agrees {log : List Event} {table after : PeerTable} {events : List Event}
    (change : Change table events after) (agrees : Agrees log table)
    (nodup : ((issued log).map (·.number)).Nodup) : Agrees (log ++ events) after where
  told := by
    rw [(Changes.single change).fixed.2]
    exact change.related agrees.told (fun told => by rw [told.endpoint, told.cable])
      (fun now answers => .new _ now answers) (fun told asks => told.ask asks)
      (fun tells told => told.move (agrees.different nodup tells))
  orders tells := chronicle_orders tells

theorem Changes.agrees {pacing : Pacing} {family : Family} {first : UInt32} {table : PeerTable}
    {log : List Event} (changes : Changes (new pacing family first) log table)
    (few : (issued log).length ≤ UInt32.size) : Agrees log table := by
  induction changes with
  | refl => exact .new pacing family first
  | more changes change ih =>
      rw [issued_append, List.length_append] at few
      have fewBefore := Nat.le_trans (Nat.le_add_right ..) few
      exact change.agrees (ih fewBefore) ((changes.numbered fewBefore).nodup fewBefore)

theorem run_agrees {pacing : Pacing} {family : Family} {first : UInt32}
    {operations : List Operation} {log : List Event} {table : PeerTable}
    (ran : run operations (new pacing family first) = (log, table))
    (few : (issued log).length ≤ UInt32.size) :
    Numbered first (issued log) table ∧ Agrees log table ∧ table.family = family := by
  obtain ⟨events, changes, same⟩ := run_changes operations (new pacing family first)
  rw [ran] at changes same
  rw [← same.issued] at few ⊢
  have agrees := changes.agrees few
  refine ⟨changes.numbered few, ⟨?_, ?_⟩, changes.fixed.2⟩
  · intro id
    rw [← same.chronicle]
    exact agrees.told id
  · intro id story tells
    rw [← same.chronicle] at tells
    rw [← same.issued]
    exact agrees.orders tells

end PeerTable
end NatReach
