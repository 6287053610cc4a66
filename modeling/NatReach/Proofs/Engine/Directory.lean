import Mathlib.Data.List.Induction
import Mathlib.Data.List.Infix
import NatReach.Proofs.Engine.Delivery
import NatReach.Proofs.Engine.Side
import NatReach.Proofs.PeerTable.Lasting

namespace NatReach
open PeerTable

inductive Notice where
  | came (endpoint : Endpoint) (now : Nat)
  | left

/-- What an act says about the endpoint of a name to a gateway of a cluster. Endpoints of that cluster do
not matter. -/
def Act.notice? (cluster id : String) : Act → Option Notice
  | .deed now (.call (.add endpoint)) =>
    if endpoint.cluster ≠ cluster ∧ endpoint.cable = id then some (.came endpoint now) else none
  | .deed _ (.call (.remove other)) => if other = id then some .left else none
  | _ => none

def notices (cluster id : String) (happened : List (Network × Act)) : List Notice :=
  happened.filterMap fun step => step.2.notice? cluster id

theorem notices_append {cluster id : String} (front back : List (Network × Act)) :
    notices cluster id (front ++ back) = notices cluster id front ++ notices cluster id back :=
  List.filterMap_append

theorem notices_cons {cluster id : String} (network : Network) (act : Act)
    (rest : List (Network × Act)) :
    notices cluster id ((network, act) :: rest) =
      (act.notice? cluster id).toList ++ notices cluster id rest := by
  cases told : act.notice? cluster id <;> simp [notices, told]

theorem notices_concat {cluster id : String} (happened : List (Network × Act)) (network : Network)
    (act : Act) : notices cluster id (happened ++ [(network, act)]) =
      notices cluster id happened ++ (act.notice? cluster id).toList := by
  rw [notices_append, notices_cons]
  exact congrArg (notices cluster id happened ++ ·) (List.append_nil _)

theorem Act.notice?_eq_came {cluster id : String} {act : Act} {endpoint : Endpoint} {now : Nat} :
    act.notice? cluster id = some (.came endpoint now) ↔
      act = .deed now (.call (.add endpoint)) ∧ endpoint.cluster ≠ cluster ∧ endpoint.cable = id := by
  constructor
  · intro came
    unfold notice? at came
    split at came
    · rename_i time other
      split at came
      · rename_i ours
        cases came
        exact ⟨rfl, ours⟩
      · cases came
    · split at came <;> cases came
    · cases came
  · rintro ⟨rfl, ours⟩
    exact if_pos ours

theorem Act.notice?_eq_left {cluster id : String} {act : Act} :
    act.notice? cluster id = some .left ↔ ∃ now, act = .deed now (.call (.remove id)) := by
  constructor
  · intro left
    unfold notice? at left
    split at left
    · split at left <;> cases left
    · rename_i time other
      split at left
      · rename_i same
        exact ⟨time, by rw [same]⟩
      · cases left
    · cases left
  · rintro ⟨now, rfl⟩
    exact if_pos rfl

theorem exists_last {cluster id : String} {before since : List (Network × Act)} {network : Network}
    {endpoint : Endpoint} {now : Nat} (ours : endpoint.cluster ≠ cluster ∧ endpoint.cable = id)
    (again : ∀ notice ∈ notices cluster id since, ∃ time, notice = .came endpoint time) :
    ∃ time, (notices cluster id
      (before ++ (network, .deed now (.call (.add endpoint))) :: since)).getLast? =
        some (.came endpoint time) := by
  have came : Act.notice? cluster id (.deed now (.call (.add endpoint))) = some (.came endpoint now) :=
    Act.notice?_eq_came.2 ⟨rfl, ours⟩
  rw [notices_append, notices_cons, came, Option.toList_some, List.singleton_append,
    List.getLast?_append, List.getLast?_cons, Option.some_or]
  cases last : (notices cluster id since).getLast? with
  | none => exact ⟨now, rfl⟩
  | some notice =>
      obtain ⟨time, rfl⟩ := again notice (List.mem_of_getLast? last)
      exact ⟨time, rfl⟩

/-! ## One act -/

namespace Engine
variable {engine : Engine} {id : String}

theorem operations_spare {now : Nat} {deed : Deed}
    (quiet : (Act.deed now deed).notice? engine.home.cluster id = none) :
    ∀ operation ∈ engine.operations now deed, operation.Spares id := by
  apply forall_operations
  · rintro endpoint rfl foreign here
    simp [Act.notice?, foreign, here] at quiet
  · rintro gone rfl here
    simp [Act.notice?, here] at quiet
  · exact fun _ => trivial
  · exact fun _ _ => trivial
  · exact fun _ _ _ _ _ => trivial

theorem additions_cases (table : PeerTable) (endpoint : Endpoint) (now : Nat) :
    ((∀ port, endpoint.discoveryPort ≠ .ok (some port)) ∧
      PeerTable.run (additions table endpoint now) table =
        ([.dropped endpoint.cable], table.forget endpoint.cable)) ∨
    (∃ remote, table.get? endpoint.cable = some remote ∧ remote.endpoint = endpoint ∧
      PeerTable.run (additions table endpoint now) table = ([], table)) ∨
    ∃ port remote more after, endpoint.discoveryPort = .ok (some port) ∧
      (∀ remote, table.get? endpoint.cable = some remote → remote.endpoint ≠ endpoint) ∧
      PeerTable.run (additions table endpoint now) table = (.tracked endpoint :: more, after) ∧
      after.get? endpoint.cable = some remote ∧
      Remote.SameDiscovery { endpoint, family := table.family, port, started := now } remote := by
  rcases add_cases table endpoint now with
    ⟨port, answers, news, tracks⟩ | ⟨remote, present, same, unchanged⟩ | ⟨silent, legacy⟩
  · let begun := table.put endpoint.cable { endpoint, family := table.family, port, started := now }
    have asked : additions table endpoint now = [.add endpoint now, .plan endpoint.cable now] := by
      rw [additions, tracks]
      cases (table.get? endpoint.cable).isSome <;> rfl
    have added : table.perform (.add endpoint now) = ([.tracked endpoint], begun) := by
      rw [perform, tracks]
      exact congrArg (·, begun) (events_of_tracked ..)
    -- the new remote is asked at once, and that keeps its discovery
    have spares : (Operation.plan endpoint.cable now).Spares endpoint.cable := trivial
    have lasts := perform_lasts spares begun
    rw [Lasts, get?_put_self] at lasts
    obtain ⟨remote, present, same⟩ := exists_right_of_rel lasts
    rw [asked, run_pair, added]
    exact .inr (.inr ⟨port, remote, _, _, answers, news, rfl, present, same⟩)
  · have alone : additions table endpoint now = [.add endpoint now] := by
      rw [additions, unchanged]
    rw [alone, run_singleton, perform, unchanged]
    exact .inr (.inl ⟨remote, present, same, rfl⟩)
  · have alone : additions table endpoint now = [.add endpoint now] := by
      rw [additions, legacy]
    rw [alone, run_singleton, perform, legacy]
    exact .inl ⟨silent, rfl⟩

end Engine

namespace Side

def undergo (side : Side) (network : Network) : Act → Side
  | .deed now deed => side.strike network now deed
  | .revise edits => { side with engine := (side.engine.revise edits).1 }
  | .reroute sourceFor listening => { side with engine := { side.engine with sourceFor, listening } }

def after (side : Side) (happened : List (Network × Act)) : Side :=
  happened.foldl (fun side step => side.undergo step.1 step.2) side

variable {side : Side} {network : Network} {act : Act} {cluster id : String}

theorem after_append (side : Side) (front back : List (Network × Act)) :
    side.after (front ++ back) = (side.after front).after back :=
  List.foldl_append ..

theorem after_concat (side : Side) (happened : List (Network × Act)) (network : Network) (act : Act) :
    side.after (happened ++ [(network, act)]) = (side.after happened).undergo network act :=
  after_append ..

theorem ran_undergo (ran : Ran side.log side.engine.table) (network : Network) (act : Act) :
    Ran (side.undergo network act).log (side.undergo network act).engine.table := by
  cases act with
  | deed now deed => exact ran_strike ran network now deed
  | revise edits => exact ran
  | reroute sourceFor listening => exact ran

theorem ran_after (ran : Ran side.log side.engine.table) (happened : List (Network × Act)) :
    Ran (side.after happened).log (side.after happened).engine.table := by
  induction happened generalizing side with
  | nil => exact ran
  | cons step rest ih => exact ih (ran_undergo ran step.1 step.2)

theorem log_undergo (side : Side) (network : Network) (act : Act) :
    ∃ more, (side.undergo network act).log = side.log ++ more := by
  cases act with
  | deed now deed => exact ⟨_, rfl⟩
  | revise edits => exact ⟨[], (List.append_nil _).symm⟩
  | reroute sourceFor listening => exact ⟨[], (List.append_nil _).symm⟩

theorem family_undergo (side : Side) (network : Network) (act : Act) :
    (side.undergo network act).engine.table.family = side.engine.table.family := by
  cases act with
  | deed now deed => exact side.family_strike network now deed
  | revise edits => rfl
  | reroute sourceFor listening => rfl

theorem family_after (side : Side) (happened : List (Network × Act)) :
    (side.after happened).engine.table.family = side.engine.table.family := by
  induction happened generalizing side with
  | nil => rfl
  | cons step rest ih => exact (ih _).trans (side.family_undergo step.1 step.2)

theorem undergo_lasts (quiet : act.notice? side.engine.home.cluster id = none) (network : Network) :
    Lasts id side.engine.table (side.undergo network act).engine.table := by
  cases act with
  | deed now deed =>
      rw [undergo, engine_strike]
      exact run_lasts (Engine.operations_spare quiet) _
  | revise edits => exact .of_eq rfl
  | reroute sourceFor listening => exact .of_eq rfl

theorem undergo_left (left : act.notice? cluster id = some .left) (side : Side) (network : Network) :
    (side.undergo network act).engine.table.get? id = none := by
  obtain ⟨now, rfl⟩ := Act.notice?_eq_left.1 left
  exact (get?_forget ..).trans (if_pos rfl)

theorem undergo_came {endpoint : Endpoint} {now : Nat}
    (came : act.notice? side.engine.home.cluster id = some (.came endpoint now)) (network : Network) :
    (side.undergo network act).log =
        side.log ++ (PeerTable.run (Engine.additions side.engine.table endpoint now) side.engine.table).1 ∧
      (side.undergo network act).engine.table =
        (PeerTable.run (Engine.additions side.engine.table endpoint now) side.engine.table).2 := by
  obtain ⟨rfl, foreign, rfl⟩ := Act.notice?_eq_came.1 came
  have operations : side.engine.operations now (.call (.add endpoint)) =
      Engine.additions side.engine.table endpoint now := if_neg foreign
  rw [undergo, engine_strike, strike, operations]
  exact ⟨rfl, rfl⟩

/-! ## A run of acts -/

/-- That the discovery of a remote began with an act of a run and lasts since: before that act the
directory said something else about the name, and since then it says the same. -/
structure Discovered (start : Side) (cluster id : String) (happened : List (Network × Act))
    (remote : Remote) (before : List (Network × Act)) (network : Network) (since : List (Network × Act)) :
    Prop where
  split : happened =
    before ++ (network, .deed remote.started (.call (.add remote.endpoint))) :: since
  cable : remote.endpoint.cable = id
  foreign : remote.endpoint.cluster ≠ cluster
  port : remote.endpoint.discoveryPort = .ok (some remote.port)
  family : remote.family = start.engine.table.family
  again : ∀ notice ∈ notices cluster id since, ∃ now, notice = .came remote.endpoint now
  news : ∀ now, (notices cluster id before).getLast? ≠ some (.came remote.endpoint now)
  log : ∃ later, (start.after happened).log =
    (start.after before).log ++ .tracked remote.endpoint :: later

namespace Discovered
variable {start : Side} {happened before since : List (Network × Act)} {remote after : Remote}
  {network' : Network}

theorem last (discovered : Discovered start cluster id happened remote before network since) :
    ∃ now, (notices cluster id happened).getLast? = some (.came remote.endpoint now) := by
  rw [discovered.split]
  exact exists_last ⟨discovered.foreign, discovered.cable⟩ discovered.again

theorem more (discovered : Discovered start cluster id happened remote before network since)
    (same : remote.SameDiscovery after) {act : Act}
    (again : ∀ notice ∈ act.notice? cluster id, ∃ now, notice = .came remote.endpoint now) :
    Discovered start cluster id (happened ++ [(network', act)]) after before network
      (since ++ [(network', act)]) where
  split := by
    rw [same.started, same.endpoint, discovered.split, List.append_assoc, List.cons_append]
  cable := by rw [same.endpoint, discovered.cable]
  foreign := by
    rw [same.endpoint]
    exact discovered.foreign
  port := by rw [same.endpoint, same.port, discovered.port]
  family := by rw [same.family, discovered.family]
  again := by
    intro notice member
    rw [same.endpoint]
    rw [notices_concat, List.mem_append, Option.mem_toList] at member
    rcases member with old | new
    · exact discovered.again notice old
    · exact again notice new
  news := by
    rw [same.endpoint]
    exact discovered.news
  log := by
    obtain ⟨later, log⟩ := discovered.log
    obtain ⟨events, grows⟩ := (start.after happened).log_undergo network' act
    refine ⟨later ++ events, ?_⟩
    rw [after_concat, grows, log, same.endpoint, List.append_assoc, List.cons_append]

end Discovered

inductive Mirrored (start : Side) (cluster id : String) (happened : List (Network × Act)) :
    Option Remote → Prop
  | absent (unheard : ∀ endpoint now port,
      (notices cluster id happened).getLast? = some (.came endpoint now) →
        endpoint.discoveryPort ≠ .ok (some port)) : Mirrored start cluster id happened none
  | present {remote : Remote} {before since : List (Network × Act)} {network : Network}
      (discovered : Discovered start cluster id happened remote before network since) :
      Mirrored start cluster id happened (some remote)

namespace Mirrored
variable {start : Side} {happened : List (Network × Act)} {before after : Option Remote}

theorem quiet (mirrored : Mirrored start cluster id happened before)
    (silent : act.notice? cluster id = none) (lasts : Option.Rel Remote.SameDiscovery before after)
    (network : Network) : Mirrored start cluster id (happened ++ [(network, act)]) after := by
  cases mirrored with
  | absent unheard =>
      cases lasts
      refine .absent ?_
      rw [notices_concat, silent, Option.toList_none, List.append_nil]
      exact unheard
  | present discovered =>
      obtain ⟨remote, rfl, same⟩ := exists_right_of_rel lasts
      exact .present (discovered.more same (by rw [silent]; exact fun _ member => nomatch member))

theorem gone {notice : Notice} (said : act.notice? cluster id = some notice)
    (vain : ∀ endpoint now port, notice = .came endpoint now →
      endpoint.discoveryPort ≠ .ok (some port))
    (network : Network) : Mirrored start cluster id (happened ++ [(network, act)]) none := by
  refine .absent fun endpoint now port last => vain endpoint now port ?_
  rw [notices_concat, said, Option.toList_some, List.getLast?_concat] at last
  exact Option.some.inj last

theorem begun (mirrored : Mirrored start cluster id happened before) {endpoint : Endpoint} {now : Nat}
    (came : act.notice? cluster id = some (.came endpoint now)) {port : UInt16}
    (answers : endpoint.discoveryPort = .ok (some port))
    (news : ∀ remote, before = some remote → remote.endpoint ≠ endpoint) {remote : Remote}
    {family : Family} (fixed : family = start.engine.table.family)
    (same : Remote.SameDiscovery { endpoint, family, port, started := now } remote)
    {network : Network} {more : List Event}
    (log : ((start.after happened).undergo network act).log =
      (start.after happened).log ++ .tracked endpoint :: more) :
    Mirrored start cluster id (happened ++ [(network, act)]) (some remote) := by
  obtain ⟨rfl, foreign, cable⟩ := Act.notice?_eq_came.1 came
  obtain ⟨rfl, sameFamily, samePort, rfl⟩ := same
  have discovered : Discovered start cluster id
      (happened ++ [(network, .deed remote.started (.call (.add remote.endpoint)))]) remote happened
      network [] := by
    refine ⟨rfl, cable, foreign, ?_, ?_, (fun _ member => nomatch member), fun time last => ?_, ?_⟩
    · rw [samePort, answers]
    · rw [sameFamily, fixed]
    · cases mirrored with
      | absent unheard => exact unheard _ _ port last answers
      | present discovered =>
          obtain ⟨earlier, lastToo⟩ := discovered.last
          obtain ⟨same, -⟩ := Notice.came.inj (Option.some.inj (last.symm.trans lastToo))
          exact news _ rfl same.symm
    · exact ⟨more, by rw [after_concat, log]⟩
  exact .present discovered

end Mirrored

theorem mirrored {start : Side} (fresh : start.engine.table.get? id = none)
    (happened : List (Network × Act))
    (fixed : ∀ earlier, earlier <+: happened → (start.after earlier).engine.home.cluster = cluster) :
    Mirrored start cluster id happened ((start.after happened).engine.table.get? id) := by
  -- the last act does to the name what the directory says, and the name mirrors the directory before it
  induction happened using List.reverseRecOn with
  | nil =>
      rw [show (start.after []).engine.table.get? id = none from fresh]
      exact .absent fun _ _ _ last => nomatch last
  | append_singleton happened step ih =>
      obtain ⟨network, act⟩ := step
      have before := ih fun earlier early => fixed earlier (early.trans (List.prefix_append ..))
      have same := fixed happened (List.prefix_append ..)
      rw [after_concat]
      cases said : act.notice? cluster id with
      | none => exact before.quiet said (undergo_lasts (same.symm ▸ said) network) network
      | some notice =>
          cases notice with
          | left =>
              rw [undergo_left said]
              exact .gone said nofun network
          | came endpoint now =>
              obtain ⟨log, table⟩ := undergo_came (same.symm ▸ said) network
              obtain ⟨-, -, rfl⟩ := Act.notice?_eq_came.1 said
              rw [table]
              rcases Engine.additions_cases (start.after happened).engine.table endpoint now with
                ⟨silent, outcome⟩ | ⟨remote, present, rfl, outcome⟩ |
                ⟨port, remote, more, after, answers, news, outcome, present, begun⟩
              · rw [outcome, get?_forget, if_pos rfl]
                refine .gone said (fun other time port came => ?_) network
                cases came
                exact silent port
              · rw [outcome]
                rw [present] at before ⊢
                cases before with
                | present discovered =>
                    refine .present (discovered.more (.refl remote) fun notice member => ⟨now, ?_⟩)
                    rw [said] at member
                    exact (Option.some.inj member).symm
              · rw [outcome] at log ⊢
                rw [present]
                exact before.begun said answers news (family_after ..) begun log

def Tracks (side : Side) (id : String) (endpoint : Endpoint) : Prop :=
  ∃ remote, side.engine.table.get? id = some remote ∧ remote.endpoint = endpoint

theorem tracks_iff {start : Side} {happened : List (Network × Act)}
    (mirrored : Mirrored start cluster id happened ((start.after happened).engine.table.get? id))
    (endpoint : Endpoint) : (start.after happened).Tracks id endpoint ↔
      (∃ now, (notices cluster id happened).getLast? = some (.came endpoint now)) ∧
        ∃ port, endpoint.discoveryPort = .ok (some port) := by
  constructor
  · rintro ⟨remote, present, rfl⟩
    rw [present] at mirrored
    cases mirrored with
    | present discovered => exact ⟨discovered.last, remote.port, discovered.port⟩
  · rintro ⟨⟨now, last⟩, port, answers⟩
    cases present : (start.after happened).engine.table.get? id with
    | none =>
        rw [present] at mirrored
        cases mirrored with
        | absent unheard => exact absurd answers (unheard endpoint now port last)
    | some remote =>
        rw [present] at mirrored
        cases mirrored with
        | present discovered =>
            obtain ⟨other, lastToo⟩ := discovered.last
            obtain ⟨same, -⟩ := Notice.came.inj (Option.some.inj (last.symm.trans lastToo))
            exact ⟨remote, present, same.symm⟩

end Side

/-- Whatever a gateway of a cluster goes through, it tracks under a name what the directory said last
about it, if that is an endpoint of another cluster which answers probes: that very endpoint, with its
port and in the family of the gateway. Its discovery began when the directory said so: before, another
endpoint or none was tracked under that name, and since then it always was this one. If fewer requests
were ordered than there are numbers, no request from before the discovery is on record in it. -/
theorem mirrors_directory {engine : Engine} {pacing : Pacing} {family : Family} {first : UInt32}
    (fresh : engine.table = .new pacing family first) {happened : List (Network × Act)}
    (fixed : ∀ earlier, earlier <+: happened →
      (Side.after { engine } earlier).engine.home.cluster = engine.home.cluster) (id : String) :
    let said := notices engine.home.cluster id
    let gateway := Side.after { engine }
    (((gateway happened).engine.table.get? id).isSome ↔ ∃ endpoint now port,
      (said happened).getLast? = some (.came endpoint now) ∧
        endpoint.discoveryPort = .ok (some port)) ∧
    ∀ remote, (gateway happened).engine.table.get? id = some remote →
      (∃ now, (said happened).getLast? = some (.came remote.endpoint now)) ∧
      remote.endpoint.discoveryPort = .ok (some remote.port) ∧ remote.family = family ∧
      remote.endpoint.cluster ≠ engine.home.cluster ∧
      ∃ before network since,
        let comes := (network, Act.deed remote.started (.call (.add remote.endpoint)))
        happened = before ++ comes :: since ∧
        ¬ (gateway before).Tracks id remote.endpoint ∧
        (∀ earlier, earlier <+: since →
          (gateway (before ++ comes :: earlier)).Tracks id remote.endpoint) ∧
        ((issued (gateway happened).log).length < UInt32.size →
          ∀ order ∈ issued (gateway before).log, ∀ role,
            (remote.probe role).lastRequest ≠ some order.number) := by
  intro said gateway
  have absent : (Side.mk engine [] [] []).engine.table.get? id = none := by
    rw [show (Side.mk engine [] [] []).engine.table = _ from fresh]
    rfl
  have mirrored (earlier : List (Network × Act)) (early : earlier <+: happened) :
      Side.Mirrored { engine } engine.home.cluster id earlier
        ((gateway earlier).engine.table.get? id) :=
    Side.mirrored absent earlier fun first before => fixed first (before.trans early)
  have tracks (endpoint : Endpoint) := Side.tracks_iff (mirrored happened (List.prefix_refl _)) endpoint
  constructor
  · rw [Option.isSome_iff_exists]
    constructor
    · rintro ⟨remote, present⟩
      obtain ⟨⟨now, last⟩, port, answers⟩ := (tracks remote.endpoint).1 ⟨remote, present, rfl⟩
      exact ⟨remote.endpoint, now, port, last, answers⟩
    · rintro ⟨endpoint, now, port, last, answers⟩
      obtain ⟨remote, present, -⟩ := (tracks endpoint).2 ⟨⟨now, last⟩, port, answers⟩
      exact ⟨remote, present⟩
  · intro remote present
    have here := mirrored happened (List.prefix_refl _)
    rw [present] at here
    cases here with
    | @present _ before since network discovered =>
        have split := discovered.split
        refine ⟨discovered.last, discovered.port, ?_, discovered.foreign, before, network, since, split, ?_,
          fun earlier early => ?_, fun few order ordered role => ?_⟩
        · rw [discovered.family, show (Side.mk engine [] [] []).engine.table = _ from fresh]
          rfl
        · rw [Side.tracks_iff (mirrored before ⟨_, split.symm⟩)]
          rintro ⟨⟨now, last⟩, -⟩
          exact discovered.news now last
        · have part : before ++ (network, .deed remote.started (.call (.add remote.endpoint))) :: earlier <+:
              happened := by
            rw [split, List.prefix_append_right_inj, List.cons_prefix_cons]
            exact ⟨rfl, early⟩
          refine (Side.tracks_iff (mirrored _ part) _).2 ⟨?_, remote.port, discovered.port⟩
          refine exists_last ⟨discovered.foreign, discovered.cable⟩ fun notice member => ?_
          exact discovered.again notice ((early.sublist.filterMap _).subset member)
        · have ran : Ran (gateway happened).log (gateway happened).engine.table :=
            Side.ran_after (fresh ▸ Ran.new pacing family first) happened
          obtain ⟨nodup, agrees⟩ := ran.agrees (Nat.le_of_lt few)
          obtain ⟨later, log⟩ := discovered.log
          rw [log] at nodup agrees
          rw [← discovered.cable] at present
          exact fresh_numbers agrees nodup present ordered role

namespace Moving

def hub : Engine where
  home := { cluster := "east", cable := "hub" }
  port := 4490
  sourceFor := fun _ => none
  table := .new {} .v4 7

def network : Network := fun _ datagram => .sent datagram.length

def moved : Endpoint := { twoAddresses with privateIps := .ofList [.v4 ⟨10, 0, 0, 8⟩] }

def happened : List (Network × Act) :=
  [.deed 0 (.call (.add twoAddresses)), .deed 1000 (.tickAlong ["gateway"]),
    .deed 1500 (.call (.add { twoAddresses with cluster := "east" })),
    .deed 2000 (.call (.add moved)), .reroute (fun _ => none) false, .deed 2500 (.call (.check "gateway")),
    .deed 3000 (.call (.add moved))].map (network, ·)

theorem mirrors_directory_moved :
    ∃ remote, (Side.after { engine := hub } happened).engine.table.get? "gateway" = some remote ∧
      remote.started = 2000 ∧ remote.endpoint = moved ∧
      ∃ before network since,
        happened = before ++ (network, .deed 2000 (.call (.add moved))) :: since ∧
        ¬ (Side.after { engine := hub } before).Tracks "gateway" moved ∧
        ∀ order ∈ issued (Side.after { engine := hub } before).log, ∀ role,
          (remote.probe role).lastRequest ≠ some order.number := by
  have knows : ((Side.after { engine := hub } happened).engine.table.get? "gateway").map
      (fun remote => (remote.started, remote.endpoint)) = some (2000, moved) := by decide +kernel
  have few : (issued (Side.after { engine := hub } happened).log).length < UInt32.size := by
    decide +kernel
  have same : happened.inits.all (fun earlier =>
      (Side.after { engine := hub } earlier).engine.home.cluster = "east") = true := by decide +kernel
  have fixed (earlier : List (Network × Act)) (early : earlier <+: happened) :
      (Side.after { engine := hub } earlier).engine.home.cluster = hub.home.cluster :=
    of_decide_eq_true (List.all_eq_true.1 same earlier ((List.mem_inits ..).2 early))
  obtain ⟨remote, present, same⟩ := Option.map_eq_some_iff.1 knows
  obtain ⟨started, endpoint⟩ := Prod.mk.inj same
  obtain ⟨-, -, -, -, before, network, since, split, news, -, numbers⟩ :=
    (mirrors_directory rfl fixed "gateway").2 remote present
  rw [started, endpoint] at split
  rw [endpoint] at news
  exact ⟨remote, present, started, endpoint, before, network, since, split, news, numbers few⟩

end Moving
end NatReach
