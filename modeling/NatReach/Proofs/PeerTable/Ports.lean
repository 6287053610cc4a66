import NatReach.Proofs.Endpoint.Port
import NatReach.Proofs.PeerTable.Gapless

namespace NatReach
open PeerTable

theorem Endpoint.dialPort_pos (endpoint : Endpoint) : 1 ≤ endpoint.dialPort := by
  unfold dialPort
  split
  · rename_i read
    exact tunnelPort_pos read
  · decide

theorem Endpoint.dialable_fallbackRoute? {endpoint : Endpoint} {family : Family} {route : Route}
    (found : endpoint.fallbackRoute? family = some route) : 1 ≤ route.port := by
  obtain ⟨ip, -, rfl⟩ := Option.map_eq_some_iff.1 found
  exact endpoint.dialPort_pos

namespace Remote
variable {remote : Remote} {route : Route}

theorem dialable_route? (found : remote.route? = some route) : 1 ≤ route.port := by
  unfold route? at found
  split at found <;> cases found <;> exact remote.endpoint.dialPort_pos

theorem dialable_accept {role : Role} {nat : Bool} {now : Nat}
    (given : (remote.accept role nat now).1 = some route) : 1 ≤ route.port := by
  unfold accept handOut at given
  dsimp only at given
  split at given
  · split at given
    · cases given
    · rename_i found
      split at given
      · cases given
      · cases given
        exact dialable_route? found
  · cases given

theorem dialable_giveUp (given : remote.giveUp.1 = some route) : 1 ≤ route.port := by
  by_cases hopeless : remote.isHopeless = true
  · rw [giveUp_of_hopeless hopeless] at given
    exact Endpoint.dialable_fallbackRoute? given
  · rw [giveUp_of_not_hopeless hopeless] at given
    cases given

end Remote

namespace PeerTable

def Event.isDialable : Event → Bool
  | asked order => 1 ≤ order.destination.port
  | gaveUp route => 1 ≤ route.port
  | answered _ _ _ route => route.all fun route => 1 ≤ route.port
  | _ => true

def Ported (table : PeerTable) : Prop :=
  ∀ id remote, table.get? id = some remote → 1 ≤ remote.port

theorem Ported.put {table : PeerTable} (ported : Ported table) {remote : Remote}
    (positive : 1 ≤ remote.port) (id : String) : Ported (table.put id remote) := by
  intro other found present
  rw [get?_put] at present
  split at present
  · cases present
    exact positive
  · exact ported other found present

theorem move_dialable {remote after : Remote} {pacing : Pacing} {id : String} {events : List Event}
    (move : remote.Move pacing id events after) : events.all Event.isDialable = true := by
  cases move with
  | keep => rfl
  | exhaust => rfl
  | giveUp hopeless =>
      simp only [List.all_map, List.all_eq_true, Option.mem_toList]
      exact fun route given => decide_eq_true (Remote.dialable_giveUp given)
  | accept counts =>
      simp only [List.all_cons, List.all_nil, Bool.and_true, Event.isDialable, Option.all_eq_true]
      exact fun route given => decide_eq_true (Remote.dialable_accept given)

theorem Change.dialable {table after : PeerTable} {events : List Event}
    (change : Change table events after) (ported : Ported table) :
    events.all Event.isDialable = true ∧ Ported after := by
  cases change with
  | track answers news => exact ⟨rfl, ported.put (Endpoint.discoveryPort_pos answers) _⟩
  | drop id =>
      refine ⟨rfl, fun other remote present => ?_⟩
      rw [get?_forget] at present
      split at present
      · cases present
      · exact ported other remote present
  | @ask id remote role now order after present asks =>
      obtain ⟨ip, -, rfl, rfl⟩ := Remote.ask_eq_some_iff.1 asks
      have positive := ported id remote present
      constructor
      · simpa [Event.isDialable] using positive
      · exact ported.put (by rwa [Remote.port_setProbe]) id
  | @move id remote events after present move =>
      refine ⟨move_dialable move, ported.put ?_ id⟩
      rw [move.sameDiscovery.port]
      exact ported id remote present

theorem Changes.dialable {start table : PeerTable} {log : List Event} (changes : Changes start log table)
    (ported : Ported start) : log.all Event.isDialable = true ∧ Ported table := by
  induction changes with
  | refl => exact ⟨rfl, ported⟩
  | more _ change ih =>
      obtain ⟨events, portedToo⟩ := change.dialable ih.2
      exact ⟨by rw [List.all_append, ih.1, events]; rfl, portedToo⟩

theorem run_dialable {pacing : Pacing} {family : Family} {first : UInt32} {operations : List Operation}
    {log : List Event} {table : PeerTable}
    (ran : run operations (new pacing family first) = (log, table)) :
    ∀ event ∈ log, event.isDialable = true := by
  obtain ⟨events, changes, same⟩ := run_changes operations (new pacing family first)
  rw [ran] at same
  have untracked : Ported (new pacing family first) := fun id remote present => by
    simp [new, get?] at present
  rw [← List.all_eq_true, ← same.all]
  exact (changes.dialable untracked).1

theorem dialable_legacy {table : PeerTable} {endpoint : Endpoint} {now : Nat} {route : Route}
    (legacy : (table.add endpoint now).1 = .legacy (some route)) : 1 ≤ route.port := by
  rcases add_cases table endpoint now with ⟨_, -, -, same⟩ | ⟨_, -, -, same⟩ | ⟨-, same⟩
  · rw [same] at legacy
    split at legacy <;> cases legacy
  · rw [same] at legacy
    cases legacy
  · rw [same] at legacy
    exact Endpoint.dialable_fallbackRoute? (Admission.legacy.inj legacy)

/-- A setting that is missing or empty leaves the default, whatever that is, and no other does. Any other one
is a port exactly if it is a numeral of it, from 1 on, and else it is refused as it stands. So no endpoint
answers probes or takes tunnels at the port zero, no request of any run goes there, and no route leads
there. The numeral of a port, as it is printed, is that port. -/
theorem ports_exact (endpoint : Endpoint) (key : String) :
    ((∀ fallback, endpoint.settingPort key fallback = .ok fallback) ↔
      endpoint.settings.get? key = none ∨ endpoint.settings.get? key = some "") ∧
    (∀ value, endpoint.settings.get? key = some value → value ≠ "" → ∀ fallback,
      (∀ port, endpoint.settingPort key fallback = .ok port ↔ Setting.Denotes value port) ∧
      ∀ reason, endpoint.settingPort key fallback = .error reason ↔
        reason = .invalidPort key value ∧ ∀ port, ¬ Setting.Denotes value port) ∧
    (∀ port, endpoint.discoveryPort = .ok (some port) → 1 ≤ port) ∧
    (∀ port, endpoint.tunnelPort = .ok port → 1 ≤ port) ∧
    (∀ port, 1 ≤ port → Setting.Denotes (toString port.toNat) port) ∧
    ∀ (pacing : Pacing) (family : Family) (first : UInt32) (operations : List Operation)
      (log : List Event) (table : PeerTable),
      run operations (new pacing family first) = (log, table) →
      (∀ order, .asked order ∈ log → 1 ≤ order.destination.port) ∧
      (∀ route, .gaveUp route ∈ log → 1 ≤ route.port) ∧
      (∀ id number nat route, .answered id number nat (some route) ∈ log → 1 ≤ route.port) ∧
      ∀ now route, (table.add endpoint now).1 = .legacy (some route) → 1 ≤ route.port := by
  refine ⟨⟨fun any => ?_, Endpoint.settingPort_of_nothing⟩, fun value found saying =>
    Endpoint.settingPort_of_value found saying, fun port => Endpoint.discoveryPort_pos,
    fun port => Endpoint.tunnelPort_pos, fun port positive => ?_, ?_⟩
  · rw [← Endpoint.setting?_eq_none_iff]
    by_contra saying
    obtain ⟨value, present⟩ := Option.ne_none_iff_exists'.1 saying
    obtain ⟨found, some⟩ := Endpoint.setting?_eq_some_iff.1 present
    -- one text is not a numeral of two ports
    have zero := any 0
    have positive := Endpoint.settingPort_of_value found some 0
    obtain ⟨-, -, -, -, -, -, -, -, -, -, -, absurd⟩ := (positive.1 0).1 zero
    cases absurd
  · have read := Setting.port?_toString port.toNat
    have range : 1 ≤ port.toNat ∧ port.toNat ≤ 65535 :=
      ⟨UInt16.le_iff_toNat_le.1 positive, Nat.le_of_lt_succ port.toNat_lt⟩
    rw [if_pos range, UInt16.ofNat_toNat] at read
    exact Setting.spells_iff_denotes.1 (Setting.port?_eq_some_iff.1 read)
  · intro pacing family first operations log table ran
    have dialable := run_dialable ran
    refine ⟨fun order asked => ?_, fun route given => ?_, fun id number nat route answered => ?_,
      fun now route => dialable_legacy⟩
    · exact of_decide_eq_true (dialable _ asked)
    · exact of_decide_eq_true (dialable _ given)
    · exact of_decide_eq_true (dialable _ answered)

namespace Padded

def gateway : Endpoint where
  cluster := "west"
  cable := "gateway"
  privateIps := .ofList [.v4 ⟨10, 0, 0, 7⟩]
  settings := .ofList [(Endpoint.discoveryPortKey, "\u3000+004490 "), (Endpoint.tunnelPortKey, "4500.")]

theorem ports_exact_padded :
    gateway.settingPort Endpoint.discoveryPortKey 1 = .ok 4490 ∧
      gateway.tunnelPort = .error (.invalidPort Endpoint.tunnelPortKey "4500.") ∧
      ∃ log table order, run [.add gateway 0, .plan "gateway" 0] (new {} .v4 7) = (log, table) ∧
        .asked order ∈ log ∧ order.destination = .v4 ⟨10, 0, 0, 7⟩ 4490 ∧ 1 ≤ order.destination.port := by
  obtain ⟨-, spelled, -, -, -, leads⟩ := ports_exact gateway Endpoint.discoveryPortKey
  have numeral : Setting.Denotes "\u3000+004490 " 4490 :=
    ⟨['\u3000'], ['+'], ['0', '0', '4', '4', '9', '0'], [' '], by decide,
      List.all_eq_true.1 (by decide), List.all_eq_true.1 (by decide), .inr rfl, by decide,
      List.all_eq_true.1 (by decide), by decide, by decide⟩
  have read := ((spelled _ (by decide) (by decide) 1).1 4490).2 numeral
  refine ⟨read, by decide +kernel, ?_⟩
  generalize ran : run [.add gateway 0, .plan "gateway" 0] (new {} .v4 7) = result
  have asked : Event.asked ⟨"gateway", gateway.identity, .viaPrivate, 7, .v4 ⟨10, 0, 0, 7⟩ 4490⟩ ∈
      result.1 := by
    rw [← ran]
    decide +kernel
  obtain ⟨log, table⟩ := result
  obtain ⟨destinations, -⟩ := leads {} .v4 7 _ log table ran
  exact ⟨log, table, _, rfl, asked, rfl, destinations _ asked⟩

end Padded
end PeerTable
end NatReach
