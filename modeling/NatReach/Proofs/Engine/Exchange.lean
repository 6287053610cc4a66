import Mathlib.Logic.Function.Basic
import NatReach.Proofs.Engine.Answer
import NatReach.Proofs.Engine.Side

/-!
# Two gateways and a network

Two gateways exchange datagrams. The network may lose them, hand them over several times, late and in
any order, and change where they seem to come from, but it makes up none: a gateway receives only what
the other one sent. Both may do whatever they like at any time, as long as they stay who they are.
-/
namespace NatReach
open PeerTable

inductive Party where
  | left
  | right
deriving DecidableEq

def Party.other : Party → Party
  | left => right
  | right => left

theorem Party.other_other (party : Party) : party.other.other = party := by
  cases party <;> rfl

/-- The states that two gateways can reach. A datagram comes in only if the other gateway handed it to
the network before, from wherever it seems to come. -/
inductive Reachable : (Party → Side) → Prop
  | start {engines : Party → Engine} (fresh : ∀ party, ∃ pacing family first,
      (engines party).table = new pacing family first) : Reachable fun party => { engine := engines party }
  | strike {sides : Party → Side} (reached : Reachable sides) (party : Party) (network : Network)
      (now : Nat) (deed : Deed) (carried : ∀ datagram source, deed = .call (.receive datagram source) →
        ∃ attempt ∈ (sides party.other).sent, attempt.datagram = datagram) :
      Reachable (Function.update sides party ((sides party).strike network now deed))
  | revise {sides : Party → Side} (reached : Reachable sides) (party : Party) (edits : List Edit)
      (same : ((sides party).engine.revise edits).1.home.identity =
        (sides party).engine.home.identity) :
      Reachable (Function.update sides party
        { sides party with engine := ((sides party).engine.revise edits).1 })
  | reroute {sides : Party → Side} (reached : Reachable sides) (party : Party)
      (sourceFor : Ip → Option Ip) :
      Reachable (Function.update sides party
        { sides party with engine := { (sides party).engine with sourceFor } })

/-! ## What is sent and received -/

theorem mem_sendAll {network : Network} {position : Nat} {outgoing : List Outgoing}
    {attempt : Attempt} (member : attempt ∈ (sendAll network position outgoing).1) :
    attempt.outgoing ∈ outgoing ∧
      Datagram.encode attempt.outgoing.message = .ok attempt.datagram := by
  induction outgoing generalizing position with
  | nil => cases member
  | cons first rest ih =>
      simp only [sendAll] at member
      split at member
      · obtain ⟨inRest, encoded⟩ := ih member
        exact ⟨List.mem_cons_of_mem _ inRest, encoded⟩
      · rename_i datagram encoded
        rcases List.mem_cons.1 member with rfl | later
        · exact ⟨List.mem_cons_self, encoded⟩
        · obtain ⟨inRest, encoded⟩ := ih later
          exact ⟨List.mem_cons_of_mem _ inRest, encoded⟩

theorem Engine.mem_attempts_of_request {engine : Engine} {datagram : List UInt8} {request : Request}
    (decoded : Datagram.decode datagram = .ok (.request request)) {source : SocketAddress} {now : Nat}
    {network : Network} {attempt : Attempt}
    (sent : attempt ∈ (engine.run network now (.receive datagram source)).attempts) :
    Datagram.decode attempt.datagram =
      .ok (.response (engine.home.answer request source engine.table.family)) := by
  have received : engine.stroke now (.receive datagram source) = engine.takeRequest request source := by
    simp only [Engine.stroke, Engine.receive, decoded]
  simp only [Engine.run, received] at sent
  obtain ⟨member, encoded⟩ := mem_sendAll sent
  rw [Engine.takeRequest, List.mem_singleton] at member
  rw [member] at encoded
  refine Datagram.decode_encode ?_ encoded
  exact Endpoint.isLasting_answer

def Requests (log : List Event) (outgoing : Outgoing) : Prop :=
  ∃ order ∈ issued log, ∃ request : Request, outgoing = ⟨.request request, order.destination⟩ ∧
    request.number = order.number ∧ request.receiver = some order.receiver

structure Sound (mine theirs : Side) : Prop where
  ran : Ran mine.log mine.engine.table
  encoded : ∀ attempt ∈ mine.sent,
    Datagram.encode attempt.outgoing.message = .ok attempt.datagram
  sent : ∀ attempt ∈ mine.sent, Requests mine.log attempt.outgoing ∨
    ∃ reception ∈ mine.received, attempt.outgoing = reception.reply
  received : ∀ reception ∈ mine.received, reception.home.identity = mine.engine.home.identity ∧
    ∃ attempt ∈ theirs.sent, attempt.outgoing.message = .request reception.request

structure Grows (before after : Side) : Prop where
  identity : after.engine.home.identity = before.engine.home.identity
  sent : before.sent ⊆ after.sent
  received : before.received ⊆ after.received

theorem Sound.grow {mine theirs after : Side} (sound : Sound mine theirs) (grows : Grows theirs after) :
    Sound mine after where
  ran := sound.ran
  encoded := sound.encoded
  sent := sound.sent
  received reception member := by
    obtain ⟨home, attempt, sent, carries⟩ := sound.received reception member
    exact ⟨home, attempt, grows.sent sent, carries⟩

/-! ## Deeds -/

section Deed
variable {mine theirs : Side} {network : Network} {now : Nat} {deed : Deed}

theorem grows_strike (side : Side) (network : Network) (now : Nat) (deed : Deed) :
    Grows side (side.strike network now deed) where
  identity := by rw [Side.engine_strike]
  sent := List.subset_append_left ..
  received := List.subset_append_left ..

theorem carried_message (soundTheirs : Sound theirs mine)
    (carried : ∀ datagram source, deed = .call (.receive datagram source) →
      ∃ attempt ∈ theirs.sent, attempt.datagram = datagram)
    {datagram : List UInt8} {source : SocketAddress}
    (receives : deed = .call (.receive datagram source)) :
    ∃ attempt ∈ theirs.sent, Datagram.decode datagram = .ok attempt.outgoing.message := by
  obtain ⟨attempt, sent, rfl⟩ := carried datagram source receives
  refine ⟨attempt, sent, Datagram.decode_encode ?_ (soundTheirs.encoded attempt sent)⟩
  rcases soundTheirs.sent attempt sent with ⟨order, -, request, outgoing, -⟩ | ⟨reception, -, reply⟩
  · rw [outgoing]
    trivial
  · rw [reply]
    exact Endpoint.isLasting_answer

theorem Sound.strike (sound : Sound mine theirs) (soundTheirs : Sound theirs mine)
    (carried : ∀ datagram source, deed = .call (.receive datagram source) →
      ∃ attempt ∈ theirs.sent, attempt.datagram = datagram) :
    Sound (mine.strike network now deed) theirs := by
  have amounts := Engine.strike_amounts mine.engine now deed
  refine ⟨Side.ran_strike sound.ran .., ?_, ?_, ?_⟩
  · intro attempt member
    rcases List.mem_append.1 member with old | new
    · exact sound.encoded attempt old
    · exact (mem_sendAll new).2
  · intro attempt member
    rcases List.mem_append.1 member with old | new
    · rcases sound.sent attempt old with ⟨order, ordered, others⟩ | ⟨reception, received, reply⟩
      · refine .inl ⟨order, ?_, others⟩
        exact (issued_append ..).symm ▸ List.mem_append_left _ ordered
      · exact .inr ⟨reception, List.mem_append_left _ received, reply⟩
    · have outgoing := (mem_sendAll new).1
      rw [amounts.sends, List.mem_append, List.mem_map, List.mem_map] at outgoing
      rcases outgoing with ⟨order, ordered, same⟩ | ⟨reception, received, same⟩
      · refine .inl ⟨order, ?_, mine.engine.request order, same.symm, rfl, rfl⟩
        exact (issued_append ..).symm ▸ List.mem_append_right _ ordered
      · exact .inr ⟨reception, List.mem_append_right _ received, same.symm⟩
  · intro reception member
    rw [Side.engine_strike]
    rcases List.mem_append.1 member with old | new
    · exact sound.received reception old
    · obtain ⟨datagram, source, receives, decoded, home⟩ := Engine.mem_heard new
      obtain ⟨attempt, sent, carries⟩ := carried_message soundTheirs carried receives
      rw [decoded] at carries
      exact ⟨congrArg Endpoint.identity home, attempt, sent, (Except.ok.inj carries).symm⟩

end Deed

/-! ## Everything that two gateways reach -/

theorem grows_engine {side : Side} {engine : Engine}
    (same : engine.home.identity = side.engine.home.identity) : Grows side { side with engine } where
  identity := same
  sent := List.Subset.refl _
  received := List.Subset.refl _

theorem Sound.engine {mine theirs : Side} (sound : Sound mine theirs) {engine : Engine}
    (same : engine.home.identity = mine.engine.home.identity) (table : engine.table = mine.engine.table) :
    Sound { mine with engine } theirs where
  ran := by
    rw [show ({ mine with engine } : Side).engine.table = engine.table from rfl, table]
    exact sound.ran
  encoded := sound.encoded
  sent := sound.sent
  received reception member := by
    obtain ⟨home, attempt, sent, carries⟩ := sound.received reception member
    exact ⟨home.trans same.symm, attempt, sent, carries⟩

theorem both_parties {holds : Side → Side → Prop} {sides : Party → Side} {party : Party}
    {after : Side} (here : holds after (sides party.other)) (there : holds (sides party.other) after)
    (one : Party) :
    holds (Function.update sides party after one) (Function.update sides party after one.other) := by
  cases party <;> cases one <;> simpa [Function.update, Party.other] using by assumption

theorem Reachable.sound {sides : Party → Side} (reached : Reachable sides) (party : Party) :
    Sound (sides party) (sides party.other) := by
  induction reached generalizing party with
  | start fresh =>
      obtain ⟨pacing, family, first, table⟩ := fresh party
      refine ⟨?_, ?_, ?_, ?_⟩
      · rw [table]
        exact .new pacing family first
      all_goals
        intro thing member
        cases member
  | strike reached acting network now deed carried ih =>
      have theirs := ih acting.other
      rw [acting.other_other] at theirs
      refine both_parties ?_ ?_ party
      · exact (ih acting).strike theirs carried
      · exact theirs.grow (grows_strike ..)
  | revise reached acting edits same ih =>
      have theirs := ih acting.other
      rw [acting.other_other] at theirs
      refine both_parties ?_ ?_ party
      · exact (ih acting).engine same rfl
      · exact theirs.grow (grows_engine same)
  | reroute reached acting sourceFor ih =>
      have theirs := ih acting.other
      rw [acting.other_other] at theirs
      refine both_parties ?_ ?_ party
      · exact (ih acting).engine rfl rfl
      · exact theirs.grow (grows_engine rfl)

end NatReach
