import NatReach.Proofs.Engine.Directory

namespace NatReach
open PeerTable

namespace Endpoint

def AnswersProbes (endpoint : Endpoint) : Prop := ∃ port, endpoint.discoveryPort = .ok (some port)

theorem not_answersProbes_iff {endpoint : Endpoint} :
    ¬ endpoint.AnswersProbes ↔ ∀ port, endpoint.discoveryPort ≠ .ok (some port) := not_exists

end Endpoint

namespace PeerTable
variable {table after : PeerTable} {endpoint : Endpoint}

inductive Holds (endpoint : Endpoint) (table : PeerTable) : Prop
  | tracked {remote : Remote} (answers : endpoint.AnswersProbes)
      (present : table.get? endpoint.cable = some remote) (same : remote.endpoint = endpoint) :
      Holds endpoint table
  | untracked (silent : ¬ endpoint.AnswersProbes) (absent : table.get? endpoint.cable = none) :
      Holds endpoint table

namespace Holds

theorem lasts (holds : Holds endpoint table) (lasts : Lasts endpoint.cable table after) :
    Holds endpoint after := by
  unfold Lasts at lasts
  cases holds with
  | tracked answers present same =>
      rw [present] at lasts
      obtain ⟨remote, presentAfter, sameDiscovery⟩ := exists_right_of_rel lasts
      exact .tracked answers presentAfter (sameDiscovery.endpoint.trans same)
  | untracked silent absent =>
      rw [absent] at lasts
      refine .untracked silent ?_
      cases none : after.get? endpoint.cable with
      | none => rfl
      | some remote =>
          rw [none] at lasts
          cases lasts

theorem add (holds : Holds endpoint table) (now : Nat) :
    (endpoint.AnswersProbes ∧ table.add endpoint now = (.unchanged, table)) ∨
      ¬ endpoint.AnswersProbes ∧
        table.add endpoint now = (.legacy (endpoint.fallbackRoute? table.family), table) := by
  cases holds with
  | tracked answers present same =>
      obtain ⟨port, named⟩ := answers
      exact .inl ⟨⟨port, named⟩, add_unchanged named present same now⟩
  | untracked silent absent =>
      have kept : table.forget endpoint.cable = table := by
        unfold forget
        rw [OrderedMap.erase_of_get?_eq_none absent]
      have legacy : table.add endpoint now = _ :=
        add_legacy (Endpoint.not_answersProbes_iff.1 silent) now
      rw [kept] at legacy
      exact .inr ⟨silent, legacy⟩

theorem additions (table : PeerTable) (endpoint : Endpoint) (now : Nat) :
    Holds endpoint (run (Engine.additions table endpoint now) table).2 := by
  by_cases answers : endpoint.AnswersProbes
  · rcases Engine.additions_cases table endpoint now with
      ⟨silent, -⟩ | ⟨remote, present, same, outcome⟩ |
      ⟨port, remote, more, after, -, -, outcome, present, begun⟩
    · exact absurd answers (Endpoint.not_answersProbes_iff.2 silent)
    · rw [outcome]
      exact .tracked answers present same
    · rw [outcome]
      exact .tracked answers present begun.endpoint
  · have legacy : table.add endpoint now = _ :=
      add_legacy (Endpoint.not_answersProbes_iff.1 answers) now
    have alone : Engine.additions table endpoint now = [.add endpoint now] := by
      rw [Engine.additions, legacy]
    rw [alone, run_singleton, perform, legacy]
    exact .untracked answers ((get?_forget ..).trans (if_pos rfl))

end Holds
end PeerTable

/-! ## What happens in between -/

/-- That an act neither lets the endpoint of a name leave nor lets another one come under that name. -/
def Act.Spares (endpoint : Endpoint) : Act → Prop
  | .deed _ (.call (.add other)) => other.cable = endpoint.cable → other = endpoint
  | .deed _ (.call (.remove id)) => id ≠ endpoint.cable
  | _ => True

namespace Side
variable {side : Side} {endpoint : Endpoint} {act : Act}

theorem undergo_holds (holds : Holds endpoint side.engine.table) (spares : act.Spares endpoint)
    (network : Network) : Holds endpoint (side.undergo network act).engine.table := by
  cases said : act.notice? side.engine.home.cluster endpoint.cable with
  | none => exact holds.lasts (undergo_lasts said network)
  | some notice =>
      cases notice with
      | left =>
          obtain ⟨now, rfl⟩ := Act.notice?_eq_left.1 said
          exact absurd rfl spares
      | came other now =>
          obtain ⟨-, table⟩ := undergo_came said network
          obtain ⟨rfl, -, sameName⟩ := Act.notice?_eq_came.1 said
          cases spares sameName
          rw [table]
          exact .additions ..

theorem after_holds (holds : Holds endpoint side.engine.table) {happened : List (Network × Act)}
    (spares : ∀ step ∈ happened, step.2.Spares endpoint) :
    Holds endpoint (side.after happened).engine.table := by
  induction happened generalizing side with
  | nil => exact holds
  | cons step rest ih =>
      exact ih (undergo_holds holds (spares step List.mem_cons_self) step.1)
        fun later member => spares later (List.mem_cons_of_mem _ member)

theorem holds_since_added (side : Side) (foreign : endpoint.cluster ≠ side.engine.home.cluster)
    (network : Network) (now : Nat) {since : List (Network × Act)}
    (spares : ∀ step ∈ since, step.2.Spares endpoint) :
    Holds endpoint
      (side.after ((network, .deed now (.call (.add endpoint))) :: since)).engine.table := by
  have came : Act.notice? side.engine.home.cluster endpoint.cable (.deed now (.call (.add endpoint))) =
      some (.came endpoint now) := Act.notice?_eq_came.2 ⟨rfl, foreign, rfl⟩
  have first : Holds endpoint (side.undergo network (.deed now (.call (.add endpoint)))).engine.table := by
    rw [(undergo_came came network).2]
    exact .additions ..
  exact after_holds first spares

end Side

namespace Engine
variable {engine : Engine} {endpoint : Endpoint}

theorem add_own (own : endpoint.cluster = engine.home.cluster) (now : Nat) :
    engine.add endpoint now = { engine } := if_pos own

theorem routes_add (foreign : endpoint.cluster ≠ engine.home.cluster)
    (silent : ¬ endpoint.AnswersProbes) (now : Nat) :
    (engine.add endpoint now).routes =
      engine.publish (endpoint.fallbackRoute? engine.table.family).toList := by
  rw [add, if_neg foreign, add_legacy (Endpoint.not_answersProbes_iff.1 silent)]
  rfl

theorem add_of_holds (foreign : endpoint.cluster ≠ engine.home.cluster)
    (holds : Holds endpoint engine.table) (now : Nat) :
    ∃ routes, engine.add endpoint now = { engine, routes } ∧
      (endpoint.AnswersProbes → routes = []) := by
  rcases holds.add now with ⟨-, unchanged⟩ | ⟨silent, legacy⟩
  · refine ⟨[], ?_, fun _ => rfl⟩
    simp only [add, if_neg foreign, unchanged]
  · refine ⟨engine.publish (endpoint.fallbackRoute? engine.table.family).toList, ?_,
      fun answers => absurd answers silent⟩
    simp only [add, if_neg foreign, legacy]

theorem run_add_of_eq {now : Nat} {routes : List Route}
    (same : engine.add endpoint now = { engine, routes }) (network : Network) :
    engine.run network now (.add endpoint) = { engine, routes, attempts := [], error := none } := by
  rw [run, stroke, same]
  rfl

end Engine

/-- An endpoint has come, and since then the gateway has been made to do whatever it was: it ticked, asked,
took datagrams in, heard of other endpoints or of this one just so, or changed its own description but not
its cluster. If the endpoint comes once more, the gateway stays as it is and sends nothing. It hands no
route out either, unless the endpoint is of another cluster and does not answer probes: then it hands the
route to be used if nothing is known out, as it did when the endpoint came first. -/
theorem coming_again (engine : Engine) (endpoint : Endpoint) (network : Network) (now : Nat)
    {since : List (Network × Act)} (spares : ∀ step ∈ since, step.2.Spares endpoint)
    (network' : Network) (later : Nat) :
    let first := engine.run network now (.add endpoint)
    let gateway := (Side.after { engine }
      ((network, .deed now (.call (.add endpoint))) :: since)).engine
    let again := gateway.run network' later (.add endpoint)
    gateway.home.cluster = engine.home.cluster →
      again.engine = gateway ∧ again.attempts = [] ∧ again.error = none ∧
      (endpoint.cluster = engine.home.cluster ∨ (∃ port, endpoint.discoveryPort = .ok (some port)) →
        again.routes = []) ∧
      (endpoint.cluster ≠ engine.home.cluster → (∀ port, endpoint.discoveryPort ≠ .ok (some port)) →
        first.routes = engine.publish (endpoint.fallbackRoute? engine.table.family).toList ∧
        again.routes = gateway.publish (endpoint.fallbackRoute? engine.table.family).toList) := by
  intro first gateway again sameCluster
  by_cases own : endpoint.cluster = engine.home.cluster
  · have outcome : again = _ :=
      Engine.run_add_of_eq (gateway.add_own (own.trans sameCluster.symm) later) network'
    rw [outcome]
    exact ⟨rfl, rfl, rfl, fun _ => rfl, fun foreign => absurd own foreign⟩
  · have foreign : endpoint.cluster ≠ gateway.home.cluster := sameCluster ▸ own
    have holds : Holds endpoint gateway.table :=
      Side.holds_since_added { engine } own network now spares
    obtain ⟨routes, added, answered⟩ := Engine.add_of_holds foreign holds later
    have outcome : again = _ := Engine.run_add_of_eq added network'
    have family : gateway.table.family = engine.table.family := Side.family_after ..
    refine ⟨by rw [outcome], by rw [outcome], by rw [outcome], ?_, fun _ silent => ?_⟩
    · rintro (same | answers)
      · exact absurd same own
      · rw [outcome, answered answers]
    · have silent := Endpoint.not_answersProbes_iff.2 silent
      refine ⟨Engine.routes_add own silent now, ?_⟩
      rw [← family]
      exact Engine.routes_add foreign silent later

namespace Returning

def hub : Engine where
  home := { cluster := "east", cable := "hub" }
  port := 4490
  sourceFor := fun _ => none
  table := .new {} .v4 7

def network : Network := fun _ datagram => .sent datagram.length

def silent : Endpoint where
  cluster := "west"
  cable := "relay"
  publicIps := .ofList [.v4 ⟨203, 0, 113, 9⟩]

def since : List (Network × Act) :=
  [.deed 500 (.call (.check "gateway")), .deed 1000 (.tickAlong ["gateway"]),
    .deed 1500 (.call (.add silent)), .deed 2000 (.call (.add twoAddresses)),
    .revise [.privateIp (.v4 ⟨10, 0, 0, 1⟩)], .deed 2500 (.call (.remove "other"))].map (network, ·)

def arrived (endpoint : Endpoint) : Engine :=
  (Side.after { engine := hub } ((network, .deed 0 (.call (.add endpoint))) :: since)).engine

theorem coming_again_twice :
    ((arrived twoAddresses).run network 3000 (.add twoAddresses)).attempts = [] ∧
      ((arrived twoAddresses).run network 3000 (.add twoAddresses)).routes = [] ∧
      ((arrived silent).run network 3000 (.add silent)).engine = arrived silent ∧
      ((arrived silent).run network 3000 (.add silent)).routes =
        [silent.routeVia (.v4 ⟨203, 0, 113, 9⟩) true none] := by
  have sparesGateway : ∀ step ∈ since, step.2.Spares twoAddresses := by
    simp [since, Act.Spares, silent, twoAddresses]
  have sparesRelay : ∀ step ∈ since, step.2.Spares silent := by
    simp [since, Act.Spares, silent, twoAddresses]
  have sameGateway : (arrived twoAddresses).home.cluster = hub.home.cluster := by decide +kernel
  have sameRelay : (arrived silent).home.cluster = hub.home.cluster := by decide +kernel
  have listening : (arrived silent).listening = true := by decide +kernel
  have answers : twoAddresses.discoveryPort = .ok (some 4490) := by decide +kernel
  have unasked : silent.discoveryPort = .ok none := by decide +kernel
  have route : silent.fallbackRoute? .v4 = some (silent.routeVia (.v4 ⟨203, 0, 113, 9⟩) true none) := by
    decide +kernel
  obtain ⟨-, attempts, -, routes, -⟩ :=
    coming_again hub twoAddresses network 0 sparesGateway network 3000 sameGateway
  obtain ⟨same, -, -, -, fallback⟩ :=
    coming_again hub silent network 0 sparesRelay network 3000 sameRelay
  refine ⟨attempts, routes (.inr ⟨4490, answers⟩), same, ?_⟩
  obtain ⟨-, again⟩ := fallback (by decide) fun port named => nomatch unasked.symm.trans named
  exact again.trans ((if_pos listening).trans (congrArg Option.toList route))

/-- The relay comes twice with nothing in between, and its route is handed out twice. -/
theorem handed_out_again :
    let first := hub.run network 0 (.add silent)
    let again := first.engine.run network 0 (.add silent)
    again.routes = first.routes ∧ again.routes ≠ [] := by
  decide +kernel

end Returning
end NatReach
