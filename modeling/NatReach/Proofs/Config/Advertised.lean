import NatReach.Config.Basic
import NatReach.Proofs.Endpoint.Port
import NatReach.Proofs.PeerTable.Coherence

namespace NatReach
open PeerTable

namespace Config
variable {config : Config} {endpoint : Endpoint}

theorem resourceName_eq_ok_iff :
    (∃ name, endpoint.resourceName = .ok name) ↔ endpoint.cluster ≠ "" ∧ endpoint.cable ≠ "" := by
  unfold Endpoint.resourceName
  split
  · rename_i empty
    exact ⟨nofun, fun named => absurd empty named.1⟩
  · rename_i cluster
    split
    · rename_i empty
      exact ⟨nofun, fun named => absurd empty named.2⟩
    · rename_i cable
      exact ⟨fun _ => ⟨cluster, cable⟩, fun _ => ⟨_, rfl⟩⟩

theorem bind_eq_ok_iff {settings : DiscoverySettings} {address : SocketAddress} :
    settings.bind = .ok address ↔ SocketAddress.ofText? settings.bindAddress = some address := by
  unfold DiscoverySettings.bind
  split
  · rename_i found read
    rw [read]
    exact ⟨fun same => congrArg some (Except.ok.inj same), fun same => congrArg _ (Option.some.inj same)⟩
  · rename_i unreadable
    rw [unreadable]
    exact ⟨nofun, nofun⟩

/-- The text of the port at which a gateway answers probes, if its datagrams leave from an address. -/
def portText (config : Config) (address : SocketAddress) : String :=
  (config.home.settings.get? Endpoint.discoveryPortKey).getD (toString address.port.toNat)

def described (config : Config) (address : SocketAddress) : Endpoint :=
  { config.home with
    settings := config.home.settings.insert Endpoint.discoveryPortKey (config.portText address) }

theorem get?_described (config : Config) (address : SocketAddress) (key : String) :
    (config.described address).settings.get? key =
      if key = Endpoint.discoveryPortKey then some (config.portText address)
      else config.home.settings.get? key := by
  rw [described, OrderedMap.get?_insert]
  simp only [eq_comm]

theorem withDiscoveryPort_eq (config : Config) (address : SocketAddress) :
    withDiscoveryPort config.home address.port = config.described address := by
  unfold withDiscoveryPort described portText
  split
  · rename_i present
    obtain ⟨value, found⟩ := Endpoint.contains_iff.1 present
    rw [found, Option.getD_some, OrderedMap.insert_get?_self found]
  · rename_i absent
    rw [OrderedMap.contains, Bool.not_eq_true, Option.isSome_eq_false_iff,
      Option.isNone_iff_eq_none] at absent
    rw [absent, Option.getD_none]

theorem discoveryPort_described (config : Config) (address : SocketAddress) (port : UInt16) :
    (config.described address).discoveryPort = .ok (some port) ↔
      config.portText address = "" ∧ port = Endpoint.defaultDiscoveryPort ∨
        config.portText address ≠ "" ∧ Setting.Spells (config.portText address) port := by
  rw [Endpoint.discoveryPort_eq_ok_some_iff, get?_described, if_pos rfl]
  simp only [Option.some.injEq, exists_eq_left', Setting.port?_eq_some_iff]

theorem exists_discoveryPort_described (config : Config) (address : SocketAddress) :
    (∃ port, (config.described address).discoveryPort = .ok (some port)) ↔
      config.portText address = "" ∨ ∃ port, Setting.Spells (config.portText address) port := by
  simp only [discoveryPort_described]
  by_cases empty : config.portText address = ""
  · exact iff_of_true ⟨_, .inl ⟨empty, rfl⟩⟩ (.inl empty)
  · simp only [empty, not_false_eq_true, false_and, true_and, false_or, ne_eq]

theorem port_of_unset {address : SocketAddress} {port : UInt16}
    (unset : config.home.settings.get? Endpoint.discoveryPortKey = none)
    (answers : (config.described address).discoveryPort = .ok (some port)) : port = address.port := by
  have text : config.portText address = toString address.port.toNat := by
    rw [portText, unset, Option.getD_none]
  rw [Endpoint.discoveryPort_eq_ok_some_iff, get?_described, if_pos rfl, text] at answers
  obtain ⟨_, same, ⟨rfl, -⟩ | ⟨-, read⟩⟩ := answers
  · simp at same
  · cases same
    rw [Setting.port?_toString] at read
    split at read
    · rw [← Option.some.inj read, UInt16.ofNat_toNat]
    · cases read

theorem exists_port {answer : Option UInt16} {address : SocketAddress}
    (read : (config.described address).discoveryPort = .ok answer) : ∃ port, answer = some port := by
  have present : (config.described address).settings.contains Endpoint.discoveryPortKey = true :=
    Endpoint.contains_iff.2 ⟨_, (config.get?_described address _).trans (if_pos rfl)⟩
  rw [Endpoint.discoveryPort, if_pos present] at read
  cases found : (config.described address).settingPort Endpoint.discoveryPortKey
      Endpoint.defaultDiscoveryPort with
  | error reason =>
      rw [found] at read
      cases read
  | ok port =>
      rw [found] at read
      exact ⟨port, (Except.ok.inj read).symm⟩

theorem advertised_of_bind {name : String} (named : config.home.resourceName = .ok name)
    {address : SocketAddress} (bound : config.discovery.bind = .ok address) :
    config.advertised =
      ((config.described address).discoveryPort.mapError ConfigError.endpoint).map
        fun _ => config.described address := by
  rw [advertised, named, bound]
  dsimp only [Except.mapError, bind, Except.bind]
  rw [withDiscoveryPort_eq]
  cases (config.described address).discoveryPort <;> rfl

theorem advertised_eq_ok_iff :
    config.advertised = .ok endpoint ↔
      config.home.cluster ≠ "" ∧ config.home.cable ≠ "" ∧
      ∃ address, SocketAddress.ofText? config.discovery.bindAddress = some address ∧
        endpoint = config.described address ∧ ∃ port, endpoint.discoveryPort = .ok (some port) := by
  rw [← and_assoc, ← resourceName_eq_ok_iff]
  simp only [← bind_eq_ok_iff]
  cases named : config.home.resourceName with
  | error reason =>
      rw [advertised, named]
      exact ⟨nofun, fun ⟨⟨_, other⟩, _⟩ => nomatch other⟩
  | ok name =>
      rw [and_iff_right ⟨name, rfl⟩]
      cases bound : config.discovery.bind with
      | error reason =>
          rw [advertised, named, bound]
          exact ⟨nofun, fun ⟨_, other, _⟩ => nomatch other⟩
      | ok address =>
          rw [advertised_of_bind named bound]
          simp only [Except.ok.injEq, exists_eq_left']
          cases read : (config.described address).discoveryPort with
          | error reason =>
              constructor
              · nofun
              · rintro ⟨rfl, port, other⟩
                cases read.symm.trans other
          | ok answer =>
              obtain ⟨port, rfl⟩ := exists_port read
              constructor
              · intro same
                obtain rfl := Except.ok.inj same
                exact ⟨rfl, port, read⟩
              · rintro ⟨rfl, -⟩
                rfl

end Config

/-! ## What its peers make of it -/

namespace PeerTable
variable {table : PeerTable} {endpoint : Endpoint} {port : UInt16} {id : String} {remote : Remote}

theorem plan_targets (present : table.get? id = some remote) (now : Nat) :
    (table.plan id now).1.map (fun order => (order.role, order.destination)) =
      Role.inOrder.filterMap fun role =>
        (remote.ip? role).map fun ip => (role, SocketAddress.ofIp ip remote.port) := by
  obtain ⟨numbers, orders, -⟩ := plan_of_present present now
  rw [orders, Remote.takeTurns, List.map_filterMap]
  refine List.filterMap_congr fun role _ => ?_
  rw [Remote.planned]
  cases address : remote.ip? role with
  | none => rfl
  | some ip => simp [Remote.order?, address]

theorem add_ne_legacy (answers : endpoint.discoveryPort = .ok (some port)) (table : PeerTable) (now : Nat)
    (route : Option Route) : (table.add endpoint now).1 ≠ .legacy route := by
  rcases add_cases table endpoint now with ⟨_, -, -, same⟩ | ⟨_, -, -, same⟩ | ⟨silent, -⟩
  · rw [same]
    cases (table.get? endpoint.cable).isSome <;> nofun
  · rw [same]
    nofun
  · exact absurd answers (silent port)

theorem exists_remote_add (answers : endpoint.discoveryPort = .ok (some port)) (table : PeerTable)
    (now : Nat) :
    ∃ remote, (table.add endpoint now).2.get? endpoint.cable = some remote ∧
      remote.endpoint = endpoint := by
  rcases add_cases table endpoint now with
    ⟨_, -, -, same⟩ | ⟨remote, present, sameEndpoint, same⟩ | ⟨silent, -⟩
  · rw [same]
    exact ⟨_, get?_put_self .., rfl⟩
  · rw [same]
    exact ⟨remote, present, sameEndpoint⟩
  · exact absurd answers (silent port)

theorem add_tracked {pacing : Pacing} {family : Family} {first : UInt32} {operations : List Operation}
    {log : List Event} (ran : run operations (new pacing family first) = (log, table))
    (answers : endpoint.discoveryPort = .ok (some port)) (now : Nat) :
    ∃ remote, (table.add endpoint now).2.get? endpoint.cable = some remote ∧
      remote.endpoint = endpoint ∧ remote.port = port ∧ remote.family = table.family := by
  obtain ⟨remote, present, same⟩ := exists_remote_add answers table now
  have more : run (operations ++ [.add endpoint now]) (new pacing family first) =
      (log ++ (table.perform (.add endpoint now)).1, (table.add endpoint now).2) := by
    rw [run_append, ran, run_singleton]
    rfl
  obtain ⟨inFamily, story, sorted, -⟩ := run_sorted more present
  have kept : (table.add endpoint now).2.family = table.family :=
    (perform_fixed table (.add endpoint now)).2
  have asked := sorted.port
  rw [same, answers] at asked
  exact ⟨remote, present, same, (Option.some.inj (Except.ok.inj asked)).symm,
    sorted.sameFamily.trans (inFamily.symm.trans kept)⟩

end PeerTable

namespace Config

/-- A gateway tells something about itself exactly if it has a name, an address and a port to answer at:
one that its operator spells, the default one if the operator leaves it empty, or else the port that its
datagrams leave from. A port of zero is none. What it tells is what its operator says, with this one
setting. Whoever takes it under discovery, after whatever has happened before, tracks it with that port,
and asks there at every address that it has in the family of the table. -/
theorem advertised_is_asked (config : Config) :
    ((∃ endpoint, config.advertised = .ok endpoint) ↔
      config.home.cluster ≠ "" ∧ config.home.cable ≠ "" ∧
      ∃ address, SocketAddress.ofText? config.discovery.bindAddress = some address ∧
        (config.portText address = "" ∨ ∃ port, Setting.Spells (config.portText address) port)) ∧
    (∀ address, SocketAddress.ofText? config.discovery.bindAddress = some address →
      address.port = 0 → config.home.settings.get? Endpoint.discoveryPortKey = none →
      ∀ endpoint, config.advertised ≠ .ok endpoint) ∧
    ∀ endpoint, config.advertised = .ok endpoint →
      ∃ address port, SocketAddress.ofText? config.discovery.bindAddress = some address ∧
        endpoint = { config.home with settings := endpoint.settings } ∧
        (∀ key, endpoint.settings.get? key =
          if key = Endpoint.discoveryPortKey then some (config.portText address)
          else config.home.settings.get? key) ∧
        endpoint.discoveryPort = .ok (some port) ∧ 1 ≤ port ∧
        (config.home.settings.get? Endpoint.discoveryPortKey = none → port = address.port) ∧
        ∀ (pacing : Pacing) (family : Family) (first : UInt32) (operations : List Operation)
          (log : List Event) (table : PeerTable),
          run operations (PeerTable.new pacing family first) = (log, table) →
          ∀ now later,
            (∀ route, (table.add endpoint now).1 ≠ .legacy route) ∧
            (∃ remote, (table.add endpoint now).2.get? endpoint.cable = some remote ∧
              remote.endpoint = endpoint ∧ remote.port = port) ∧
            ((table.add endpoint now).2.plan endpoint.cable later).1.map
                (fun order => (order.role, order.destination)) =
              Role.inOrder.filterMap fun role =>
                (endpoint.ip? table.family role).map fun ip => (role, SocketAddress.ofIp ip port) := by
  refine ⟨?_, ?_, ?_⟩
  · constructor
    · rintro ⟨endpoint, told⟩
      obtain ⟨cluster, cable, address, valid, rfl, answers⟩ := advertised_eq_ok_iff.1 told
      exact ⟨cluster, cable, address, valid, (config.exists_discoveryPort_described address).1 answers⟩
    · rintro ⟨cluster, cable, address, valid, text⟩
      have answers := (config.exists_discoveryPort_described address).2 text
      exact ⟨_, advertised_eq_ok_iff.2 ⟨cluster, cable, address, valid, rfl, answers⟩⟩
  · intro address valid zero unset endpoint told
    obtain ⟨-, -, other, validToo, rfl, port, answers⟩ := advertised_eq_ok_iff.1 told
    obtain rfl := Option.some.inj (valid.symm.trans validToo)
    have positive := Endpoint.discoveryPort_pos answers
    rw [port_of_unset unset answers, zero] at positive
    exact absurd positive (by decide)
  · intro endpoint told
    obtain ⟨-, -, address, valid, rfl, port, answers⟩ := advertised_eq_ok_iff.1 told
    refine ⟨address, port, valid, rfl, config.get?_described address, answers,
      Endpoint.discoveryPort_pos answers, fun unset => port_of_unset unset answers, ?_⟩
    intro pacing family first operations log table ran now later
    obtain ⟨remote, present, same, itsPort, itsFamily⟩ := add_tracked ran answers now
    refine ⟨add_ne_legacy answers table now, ⟨remote, present, same, itsPort⟩, ?_⟩
    rw [plan_targets present, itsPort]
    simp only [Remote.ip?, same, itsFamily]

namespace Gateway

def quiet : Config where
  home :=
    { cluster := "east"
      cable := "hub"
      publicIps := .ofList [.v4 ⟨203, 0, 113, 9⟩]
      privateIps := .ofList [.v4 ⟨10, 0, 0, 5⟩] }
  discovery := { bindAddress := "127.0.0.1:5490" }

theorem advertised_is_asked_quiet :
    ∃ endpoint, quiet.advertised = .ok endpoint ∧
      (((PeerTable.new {} .v4 1).add endpoint 0).2.plan endpoint.cable 0).1.map
          (fun order => (order.role, order.destination)) =
        [(.viaPrivate, .v4 ⟨10, 0, 0, 5⟩ 5490), (.viaPublic, .v4 ⟨203, 0, 113, 9⟩ 5490)] := by
  have spells : Setting.Spells "5490" 5490 :=
    ⟨[], ['5', '4', '9', '0'], by decide, .inl rfl, List.cons_ne_nil _ _, by simp; decide, by decide,
      by decide⟩
  obtain ⟨exactly, -, told⟩ := advertised_is_asked quiet
  obtain ⟨endpoint, told'⟩ :=
    exactly.2 ⟨by decide, by decide, .v4 ⟨127, 0, 0, 1⟩ 5490, by decide +kernel, .inr ⟨5490, spells⟩⟩
  obtain ⟨address, port, valid, same, -, -, -, unset, asked⟩ := told endpoint told'
  have bound : SocketAddress.ofText? quiet.discovery.bindAddress =
      some (.v4 ⟨127, 0, 0, 1⟩ 5490) := by decide +kernel
  obtain rfl := Option.some.inj (bound.symm.trans valid)
  obtain rfl := unset (by decide)
  obtain ⟨-, -, targets⟩ := asked {} .v4 1 [] [] _ rfl 0 0
  refine ⟨endpoint, told', targets.trans ?_⟩
  have itsAddress (role : Role) : endpoint.ip? .v4 role = quiet.home.ip? .v4 role := by
    rw [same]
    cases role <;> rfl
  have inV4 : (PeerTable.new {} .v4 1).family = .v4 := rfl
  simp only [inV4, itsAddress]
  decide

end Gateway
end Config
end NatReach
