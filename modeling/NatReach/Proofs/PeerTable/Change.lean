import NatReach.Proofs.PeerTable.Asking
import NatReach.Proofs.PeerTable.Log

namespace NatReach
open PeerTable

namespace Remote

def Counts (remote : Remote) (number : UInt32) (source : Ip) : Role → Prop
  | .viaPublic => remote.viaPublic.lastRequest = some number
  | .viaPrivate => remote.viaPublic.lastRequest ≠ some number ∧
      remote.viaPrivate.lastRequest = some number ∧ remote.ip? .viaPrivate = some source

namespace Counts
variable {remote : Remote} {number : UInt32} {source : Ip} {role other : Role}

theorem lastRequest (counts : remote.Counts number source role) :
    (remote.probe role).lastRequest = some number := by
  cases role with
  | viaPublic => exact counts
  | viaPrivate => exact counts.2.1

theorem role_unique (counts : remote.Counts number source role)
    (countsToo : remote.Counts number source other) : role = other := by
  cases role with
  | viaPublic =>
      cases other with
      | viaPublic => rfl
      | viaPrivate => exact absurd counts countsToo.1
  | viaPrivate =>
      cases other with
      | viaPublic => exact absurd countsToo counts.1
      | viaPrivate => rfl

end Counts

inductive Move (pacing : Pacing) (id : String) (remote : Remote) : List Event → Remote → Prop
  | keep {role now nat} (address : (remote.ip? role).isSome)
      (turn : (remote.probe role).turn pacing now = .keep nat) :
      Move pacing id remote [] (remote.setProbe role ((remote.probe role).resolve nat now))
  | exhaust {role now} (address : (remote.ip? role).isSome)
      (turn : (remote.probe role).turn pacing now = .giveUp) :
      Move pacing id remote [] (remote.setProbe role (remote.probe role).exhaust)
  | giveUp (hopeless : remote.isHopeless = true) :
      Move pacing id remote (remote.giveUp.1.toList.map .gaveUp) remote.giveUp.2
  | accept {role number source nat now} (counts : remote.Counts number source role) :
      Move pacing id remote [.answered id number nat (remote.accept role nat now).1]
        (remote.accept role nat now).2

inductive Acts (pacing : Pacing) (id : String) (remote : Remote) (number : UInt32) :
    Option ProbeOrder × Remote → Prop
  | ask {role now order after} (asks : remote.ask pacing now number role = (some order, after)) :
      Acts pacing id remote number (some order, after)
  | move {after} (move : remote.Move pacing id [] after) : Acts pacing id remote number (none, after)
  | rest : Acts pacing id remote number (none, remote)

theorem respond_of_counts {remote : Remote} {number : UInt32} {source : Ip} {role : Role}
    (counts : remote.Counts number source role) (nat : Bool) (now : Nat) :
    remote.respond number source nat now =
      (.ok (remote.accept role nat now).1, (remote.accept role nat now).2) := by
  unfold respond
  cases role with
  | viaPublic =>
      have viaPublic : remote.viaPublic.lastRequest = some number := counts
      rw [if_pos viaPublic]
  | viaPrivate =>
      obtain ⟨notPublic, viaPrivate, fromThere⟩ := counts
      rw [if_neg notPublic, if_pos viaPrivate, if_pos fromThere]

theorem respond_cases (remote : Remote) (number : UInt32) (source : Ip) (nat : Bool) (now : Nat) :
    (∃ role, remote.Counts number source role) ∨
      ∃ reason, remote.respond number source nat now = (.error reason, remote) := by
  unfold respond
  split
  · rename_i viaPublic
    exact .inl ⟨.viaPublic, viaPublic⟩
  · rename_i notPublic
    split
    · rename_i viaPrivate
      split
      · rename_i fromThere
        exact .inl ⟨.viaPrivate, notPublic, viaPrivate, fromThere⟩
      · exact .inr ⟨_, rfl⟩
    · exact .inr ⟨_, rfl⟩

theorem respond_of_error {remote : Remote} {number : UInt32} {source : Ip} {nat : Bool} {now : Nat}
    {reason : ResponseRejection} (rejected : (remote.respond number source nat now).1 = .error reason) :
    remote.respond number source nat now = (.error reason, remote) := by
  rcases remote.respond_cases number source nat now with ⟨role, counts⟩ | ⟨other, refused⟩
  · rw [respond_of_counts counts] at rejected
    cases rejected
  · rw [refused] at rejected ⊢
    cases rejected
    rfl

theorem ask_acts (remote : Remote) (pacing : Pacing) (id : String) (now : Nat) (number : UInt32)
    (role : Role) : Acts pacing id remote number (remote.ask pacing now number role) := by
  cases asks : remote.ask pacing now number role with
  | mk order after =>
      cases order with
      | some order => exact .ask asks
      | none =>
          unfold ask at asks
          split at asks
          · cases asks
            exact .rest
          · cases asks

theorem tickRole_acts (remote : Remote) (pacing : Pacing) (id : String) (now : Nat)
    (number : UInt32) (role : Role) :
    Acts pacing id remote number (remote.tickRole pacing now number role) := by
  unfold tickRole
  split
  · exact .rest
  · rename_i address
    have address : (remote.ip? role).isSome = true := by
      cases found : remote.ip? role <;> simp_all
    dsimp only
    split
    · exact .rest
    · exact ask_acts remote pacing id now number role
    · rename_i nat turn
      exact .move (.keep address turn)
    · rename_i turn
      exact .move (.exhaust address turn)

end Remote

namespace PeerTable

def forget (table : PeerTable) (id : String) : PeerTable :=
  { table with remotes := table.remotes.erase id }

/-- What can happen to a table, to one of its remotes at a time. -/
inductive Change (table : PeerTable) : List Event → PeerTable → Prop
  | track {endpoint port now} (answers : endpoint.discoveryPort = .ok (some port))
      (news : ∀ remote, table.get? endpoint.cable = some remote → remote.endpoint ≠ endpoint) :
      Change table [.tracked endpoint]
        (table.put endpoint.cable { endpoint, family := table.family, port, started := now })
  | drop (id : String) : Change table [.dropped id] (table.forget id)
  | ask {id remote role now order after} (present : table.get? id = some remote)
      (asks : remote.ask table.pacing now table.freshNumber role = (some order, after)) :
      Change table [.asked order] { table.put id after with nextNumber := table.freshNumber + 1 }
  | move {id remote events after} (present : table.get? id = some remote)
      (move : remote.Move table.pacing id events after) : Change table events (table.put id after)

inductive Changes (start : PeerTable) : List Event → PeerTable → Prop
  | refl : Changes start [] start
  | more {log table events after} (changes : Changes start log table)
      (change : Change table events after) : Changes start (log ++ events) after

theorem get?_forget (table : PeerTable) (id other : String) :
    (table.forget id).get? other = if id = other then none else table.get? other :=
  OrderedMap.get?_erase ..

namespace Changes

theorem single {table after : PeerTable} {events : List Event} (change : Change table events after) :
    Changes table events after := by
  simpa using Changes.refl.more change

theorem trans {start middle last : PeerTable} {front back : List Event}
    (first : Changes start front middle) (second : Changes middle back last) :
    Changes start (front ++ back) last := by
  induction second with
  | refl => simpa using first
  | more _ change ih =>
      rw [← List.append_assoc]
      exact ih.more change

theorem fixed {start table : PeerTable} {log : List Event} (changes : Changes start log table) :
    table.pacing = start.pacing ∧ table.family = start.family := by
  induction changes with
  | refl => exact ⟨rfl, rfl⟩
  | more _ change ih => cases change <;> exact ih

end Changes

/-! ## Operations are sequences of changes -/

theorem withRemote_cases {table : PeerTable} {pacing : Pacing} (same : table.pacing = pacing)
    (id : String) (step : Remote → UInt32 → Option ProbeOrder × Remote)
    (acts : ∀ remote number, Remote.Acts pacing id remote number (step remote number)) :
    table.withRemote id step = (none, table) ∨
      Change table ((table.withRemote id step).1.toList.map .asked) (table.withRemote id step).2 := by
  subst same
  unfold withRemote
  split
  · exact .inl rfl
  · rename_i remote present
    have act := acts remote table.freshNumber
    generalize step remote table.freshNumber = result at act
    cases act with
    | ask asks => exact .inr (.ask present asks)
    | move move => exact .inr (.move present move)
    | rest => exact .inl (update_none present)

theorem withRemote_changes {table : PeerTable} {pacing : Pacing} (same : table.pacing = pacing)
    (id : String) (step : Remote → UInt32 → Option ProbeOrder × Remote)
    (acts : ∀ remote number, Remote.Acts pacing id remote number (step remote number)) :
    Changes table ((table.withRemote id step).1.toList.map .asked) (table.withRemote id step).2 := by
  rcases withRemote_cases same id step acts with nothing | change
  · rw [nothing]
    exact .refl
  · exact .single change

theorem forRoles_changes {pacing : Pacing} (id : String)
    (step : Role → Remote → UInt32 → Option ProbeOrder × Remote)
    (acts : ∀ role remote number,
      Remote.Acts pacing id remote number (step role remote number))
    (roles : List Role) (table : PeerTable) (same : table.pacing = pacing) :
    Changes table ((forRoles id step roles table).1.map .asked) (forRoles id step roles table).2 := by
  induction roles generalizing table with
  | nil => exact .refl
  | cons role rest ih =>
      have first := withRemote_changes same id (step role) (acts role)
      have later := ih (table.withRemote id (step role)).2 (first.fixed.1.trans same)
      simpa only [forRoles, List.map_append] using first.trans later

theorem plan_changes (table : PeerTable) (id : String) (now : Nat) :
    Changes table ((table.plan id now).1.map .asked) (table.plan id now).2 := by
  rw [plan_eq_forRoles]
  exact forRoles_changes id _ (fun role remote number => remote.ask_acts _ id now number role) _ _ rfl

theorem giveUp_changes (table : PeerTable) (id : String) :
    Changes table ((table.giveUp id).1.toList.map .gaveUp) (table.giveUp id).2 := by
  unfold PeerTable.giveUp
  split
  · exact .refl
  · rename_i remote present
    by_cases hopeless : remote.isHopeless = true
    · exact .single (.move present (.giveUp hopeless))
    · simp only [Remote.giveUp_of_not_hopeless hopeless, put_get?_self present]
      exact .refl

theorem tickRemote_changes (table : PeerTable) (now : Nat) (id : String) :
    Changes table (table.tickRemote now id).1.events (table.tickRemote now id).2 := by
  have asking := forRoles_changes id
    (fun role remote number => remote.tickRole table.pacing now number role)
    (fun role remote number => remote.tickRole_acts table.pacing id now number role)
    Role.inOrder table rfl
  rw [tickRemote_eq_forRoles]
  exact asking.trans (giveUp_changes _ id)

section Add
variable {table : PeerTable} {endpoint : Endpoint}

theorem add_tracks {port : UInt16}
    (answers : endpoint.discoveryPort = .ok (some port))
    (news : ∀ remote, table.get? endpoint.cable = some remote → remote.endpoint ≠ endpoint)
    (now : Nat) :
    table.add endpoint now = (if (table.get? endpoint.cable).isSome then .replaced else .added,
      table.put endpoint.cable { endpoint, family := table.family, port, started := now }) := by
  unfold PeerTable.add
  rw [answers]
  cases present : table.get? endpoint.cable with
  | none => rfl
  | some remote =>
      dsimp only
      rw [if_neg (news remote present)]
      rfl

theorem add_unchanged {port : UInt16}
    (answers : endpoint.discoveryPort = .ok (some port))
    {remote : Remote} (present : table.get? endpoint.cable = some remote) (same : remote.endpoint = endpoint)
    (now : Nat) : table.add endpoint now = (.unchanged, table) := by
  unfold PeerTable.add
  rw [answers, present]
  dsimp only
  rw [if_pos same]

theorem add_legacy (silent : ∀ port, endpoint.discoveryPort ≠ .ok (some port)) (now : Nat) :
    table.add endpoint now =
      (.legacy (endpoint.fallbackRoute? table.family), table.forget endpoint.cable) := by
  unfold PeerTable.add
  split
  · rename_i port answers
    exact absurd answers (silent port)
  · rfl

theorem add_cases (table : PeerTable) (endpoint : Endpoint) (now : Nat) :
    (∃ port, endpoint.discoveryPort = .ok (some port) ∧
      (∀ remote, table.get? endpoint.cable = some remote → remote.endpoint ≠ endpoint) ∧
      table.add endpoint now = (if (table.get? endpoint.cable).isSome then .replaced else .added,
        table.put endpoint.cable { endpoint, family := table.family, port, started := now })) ∨
    (∃ remote, table.get? endpoint.cable = some remote ∧ remote.endpoint = endpoint ∧
      table.add endpoint now = (.unchanged, table)) ∨
    ((∀ port, endpoint.discoveryPort ≠ .ok (some port)) ∧ table.add endpoint now =
      (.legacy (endpoint.fallbackRoute? table.family), table.forget endpoint.cable)) := by
  by_cases answers : ∃ port, endpoint.discoveryPort = .ok (some port)
  · obtain ⟨port, answers⟩ := answers
    by_cases known : ∃ remote, table.get? endpoint.cable = some remote ∧ remote.endpoint = endpoint
    · obtain ⟨remote, present, same⟩ := known
      exact .inr (.inl ⟨remote, present, same, add_unchanged answers present same now⟩)
    · have news (remote : Remote) (present : table.get? endpoint.cable = some remote) :
          remote.endpoint ≠ endpoint := fun same => known ⟨remote, present, same⟩
      exact .inl ⟨port, answers, news, add_tracks answers news now⟩
  · rw [not_exists] at answers
    exact .inr (.inr ⟨answers, add_legacy answers now⟩)

theorem events_of_tracked (endpoint : Endpoint) (known : Bool) :
    Admission.events endpoint (if known then .replaced else .added) = [.tracked endpoint] := by
  cases known <;> rfl

theorem add_changes (table : PeerTable) (endpoint : Endpoint) (now : Nat) :
    Changes table ((table.add endpoint now).1.events endpoint) (table.add endpoint now).2 := by
  rcases add_cases table endpoint now with
    ⟨port, answers, news, same⟩ | ⟨-, -, -, same⟩ | ⟨-, same⟩
  · rw [same, events_of_tracked]
    exact .single (.track answers news)
  · rw [same]
    exact .refl
  · rw [same]
    exact .single (.drop _)

end Add

section Present
variable {table : PeerTable} {id : String} {remote : Remote} {number : UInt32} {source : Ip}
  {nat : Bool} {now : Nat}

theorem respond_of_present (present : table.get? id = some remote) :
    table.respond id number source nat now =
      ((remote.respond number source nat now).1,
        table.put id (remote.respond number source nat now).2) := by
  simp only [respond, present]

theorem respond_of_absent (absent : table.get? id = none) :
    table.respond id number source nat now = (.error (.unknownEndpoint id), table) := by
  simp only [respond, absent]

theorem respond_of_counts {role : Role} (present : table.get? id = some remote)
    (counts : remote.Counts number source role) :
    table.respond id number source nat now =
      (.ok (remote.accept role nat now).1, table.put id (remote.accept role nat now).2) := by
  rw [respond_of_present present, Remote.respond_of_counts counts]

theorem respond_eq_ok_iff (present : table.get? id = some remote) {route : Option Route}
    {after : PeerTable} :
    table.respond id number source nat now = (.ok route, after) ↔
      ∃ role, remote.Counts number source role ∧
        (route, after) = ((remote.accept role nat now).1,
          table.put id (remote.accept role nat now).2) := by
  constructor
  · intro accepted
    rw [respond_of_present present] at accepted
    obtain ⟨accepted, rfl⟩ := Prod.mk.inj accepted
    rcases remote.respond_cases number source nat now with ⟨role, counts⟩ | ⟨reason, refused⟩
    · rw [Remote.respond_of_counts counts] at accepted ⊢
      cases accepted
      exact ⟨role, counts, rfl⟩
    · rw [refused] at accepted
      cases accepted
  · rintro ⟨role, counts, same⟩
    cases same
    exact respond_of_counts present counts

theorem respond_eq_error_iff (present : table.get? id = some remote) {reason : ResponseRejection} :
    (table.respond id number source nat now).1 = .error reason ↔
      (remote.respond number source nat now).1 = .error reason := by
  rw [respond_of_present present]

theorem respond_of_error {reason : ResponseRejection}
    (rejected : (table.respond id number source nat now).1 = .error reason) :
    table.respond id number source nat now = (.error reason, table) := by
  cases present : table.get? id with
  | none =>
      rw [respond_of_absent present] at rejected ⊢
      cases rejected
      rfl
  | some remote =>
      rw [respond_eq_error_iff present] at rejected
      rw [respond_of_present present, Remote.respond_of_error rejected, put_get?_self present]

theorem perform_of_ok {route : Option Route} {after : PeerTable}
    (accepted : table.respond id number source nat now = (.ok route, after)) :
    table.perform (.respond id number source nat now) = ([.answered id number nat route], after) := by
  simp only [perform, accepted]

theorem perform_of_error {reason : ResponseRejection}
    (rejected : (table.respond id number source nat now).1 = .error reason) :
    table.perform (.respond id number source nat now) = ([], table) := by
  simp only [perform, respond_of_error rejected]

theorem exists_counts_of_ok {route : Option Route}
    (accepted : (table.respond id number source nat now).1 = .ok route) :
    ∃ remote role, table.get? id = some remote ∧ remote.Counts number source role := by
  cases present : table.get? id with
  | none =>
      rw [respond_of_absent present] at accepted
      cases accepted
  | some remote =>
      rcases remote.respond_cases number source nat now with ⟨role, counts⟩ | ⟨reason, refused⟩
      · exact ⟨remote, role, rfl, counts⟩
      · rw [respond_of_present present, refused] at accepted
        cases accepted

end Present

theorem respond_cases (table : PeerTable) (id : String) (number : UInt32) (source : Ip) (nat : Bool)
    (now : Nat) :
    table.perform (.respond id number source nat now) = ([], table) ∨
      ∃ remote role, table.get? id = some remote ∧ remote.Counts number source role ∧
        table.perform (.respond id number source nat now) =
          ([.answered id number nat (remote.accept role nat now).1],
            table.put id (remote.accept role nat now).2) := by
  cases answer : (table.respond id number source nat now).1 with
  | error reason => exact .inl (perform_of_error answer)
  | ok route =>
      obtain ⟨remote, role, present, counts⟩ := exists_counts_of_ok answer
      exact .inr ⟨remote, role, present, counts, perform_of_ok (respond_of_counts present counts)⟩

/-! ## The order of events in a tick

A round lists its requests before its fallback routes, while the walk comes to one remote after the
other. The two orders are alike to everyone who does not compare requests with fallback routes. -/

structure SameReading (first second : List Event) : Prop where
  foldl_eq : ∀ {σ : Type} (read : σ → Event → σ),
    (∀ state order route, read (read state (.gaveUp route)) (.asked order) =
      read (read state (.asked order)) (.gaveUp route)) →
    ∀ state, first.foldl read state = second.foldl read state

theorem foldl_gaveUp_asked {σ : Type} {read : σ → Event → σ}
    (commutes : ∀ state order route, read (read state (.gaveUp route)) (.asked order) =
      read (read state (.asked order)) (.gaveUp route))
    (routes : List Route) (order : ProbeOrder) (state : σ) :
    read ((routes.map .gaveUp).foldl read state) (.asked order) =
      (routes.map .gaveUp).foldl read (read state (.asked order)) := by
  induction routes generalizing state with
  | nil => rfl
  | cons route rest ih => simp only [List.map_cons, List.foldl_cons, ih, commutes]

theorem foldl_gaveUp_asked_all {σ : Type} {read : σ → Event → σ}
    (commutes : ∀ state order route, read (read state (.gaveUp route)) (.asked order) =
      read (read state (.asked order)) (.gaveUp route))
    (routes : List Route) (orders : List ProbeOrder) (state : σ) :
    (orders.map .asked).foldl read ((routes.map .gaveUp).foldl read state) =
      (routes.map .gaveUp).foldl read ((orders.map .asked).foldl read state) := by
  induction orders generalizing state with
  | nil => rfl
  | cons order rest ih =>
      simp only [List.map_cons, List.foldl_cons, foldl_gaveUp_asked commutes, ih]

namespace SameReading

theorem refl (events : List Event) : SameReading events events := ⟨fun _ _ _ => rfl⟩

theorem append {a b c d : List Event} (front : SameReading a b) (back : SameReading c d) :
    SameReading (a ++ c) (b ++ d) := by
  constructor
  intro σ read commutes state
  rw [List.foldl_append, List.foldl_append, front.foldl_eq read commutes,
    back.foldl_eq read commutes]

theorem round (first others : Round) :
    SameReading (first.events ++ others.events)
      (Round.events ⟨first.orders ++ others.orders, first.fallbacks ++ others.fallbacks⟩) := by
  constructor
  intro σ read commutes state
  simp only [Round.events, List.map_append, List.foldl_append]
  rw [foldl_gaveUp_asked_all commutes]

theorem trans {a b c : List Event} (first : SameReading a b) (second : SameReading b c) :
    SameReading a c :=
  ⟨fun read commutes state =>
    (first.foldl_eq read commutes state).trans (second.foldl_eq read commutes state)⟩

theorem issued {a b : List Event} (same : SameReading a b) :
    PeerTable.issued a = PeerTable.issued b := by
  let collect (orders : List ProbeOrder) (event : Event) := orders ++ event.order?.toList
  have collected (log : List Event) (orders : List ProbeOrder) :
      log.foldl collect orders = orders ++ PeerTable.issued log := by
    induction log generalizing orders with
    | nil => simp [PeerTable.issued]
    | cons event rest ih =>
        cases told : event.order? <;> simp [ih, collect, PeerTable.issued, told]
  have equal := same.foldl_eq collect (by intros; simp [collect, Event.order?]) []
  simpa [collected] using equal

end SameReading

theorem tickInOrder_changes (now : Nat) (walk : List String) (table : PeerTable) :
    ∃ events, Changes table events (tickInOrder now walk table).2 ∧
      SameReading events (tickInOrder now walk table).1.events := by
  induction walk generalizing table with
  | nil => exact ⟨[], .refl, .refl _⟩
  | cons id rest ih =>
      have first := tickRemote_changes table now id
      obtain ⟨events, others, same⟩ := ih (table.tickRemote now id).2
      refine ⟨_, first.trans others, ?_⟩
      exact ((SameReading.refl _).append same).trans (.round _ _)

theorem perform_changes (table : PeerTable) (operation : Operation) :
    ∃ events, Changes table events (table.perform operation).2 ∧
      SameReading events (table.perform operation).1 := by
  cases operation with
  | add endpoint now => exact ⟨_, add_changes table endpoint now, .refl _⟩
  | remove id => exact ⟨_, .single (.drop id), .refl _⟩
  | plan id now => exact ⟨_, plan_changes table id now, .refl _⟩
  | tick walk now => exact tickInOrder_changes now walk table
  | respond id number source nat now =>
      rcases respond_cases table id number source nat now with
        same | ⟨remote, role, present, counts, same⟩
      · rw [same]
        exact ⟨[], .refl, .refl _⟩
      · rw [same]
        exact ⟨_, .single (.move present (.accept counts)), .refl _⟩

theorem perform_fixed (table : PeerTable) (operation : Operation) :
    (table.perform operation).2.pacing = table.pacing ∧
      (table.perform operation).2.family = table.family := by
  obtain ⟨events, changes, -⟩ := perform_changes table operation
  exact changes.fixed

theorem run_changes (operations : List Operation) (table : PeerTable) :
    ∃ events, Changes table events (run operations table).2 ∧
      SameReading events (run operations table).1 := by
  induction operations generalizing table with
  | nil => exact ⟨[], .refl, .refl _⟩
  | cons operation rest ih =>
      obtain ⟨events, changes, same⟩ := perform_changes table operation
      obtain ⟨later, others, sameToo⟩ := ih (table.perform operation).2
      exact ⟨events ++ later, changes.trans others, same.append sameToo⟩

end PeerTable
end NatReach
