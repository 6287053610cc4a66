import NatReach.Proofs.Engine.Answer
import NatReach.Proofs.Engine.Side
import NatReach.Proofs.PeerTable.RouteHistory
import NatReach.Proofs.PeerTable.Twins

/-!
# Nobody else has a say about a private address

Two runs of a gateway differ in nothing but the datagrams that come in: whoever sends them may know all
numbers, name any sender and send anything at any time. Only answers from the private address of an
endpoint to requests to that address must come to both, each bearing the number of its own run. Then what
is known about that address, and how the asking stands, is the same in both runs.
-/
namespace NatReach
open PeerTable

/-- That a datagram is an answer, in the name of an endpoint and from an address, to one of some
requests. -/
def Replies (source : Ip) (id : String) (numbers : List UInt32) (datagram : List UInt8)
    (peer : SocketAddress) : Prop :=
  ∃ response, Datagram.decode datagram = .ok (.response response) ∧
    response.sender.map (·.endpoint) = some id ∧ peer.ip.canonical = source ∧
    response.number ∈ numbers

/-- Two runs of a gateway in which the same happens, except for datagrams that are no answers from the
address `source` to requests to the private address of an endpoint. -/
inductive Abreast (source : Ip) (id : String) : Side → Side → Prop
  | start {engine engine' : Engine} {pacing : Pacing} {family : Family} {first first' : UInt32}
      (home : engine.home = engine'.home) (fresh : engine.table = new pacing family first)
      (fresh' : engine'.table = new pacing family first') :
      Abreast source id { engine } { engine := engine' }
  | call {a b : Side} (abreast : Abreast source id a b) (network network' : Network) (now : Nat)
      (call : Call) (told : (Deed.call call).isReceive = false) :
      Abreast source id (a.strike network now (.call call)) (b.strike network' now (.call call))
  | tick {a b : Side} (abreast : Abreast source id a b) (network network' : Network) (now : Nat)
      {walk walk' : List String} (all : walk.Perm a.engine.table.remotes.keys)
      (all' : walk'.Perm b.engine.table.remotes.keys) :
      Abreast source id (a.strike network now (.tickAlong walk))
        (b.strike network' now (.tickAlong walk'))
  /-- An answer comes to both from the private address. -/
  | answer {a b : Side} (abreast : Abreast source id a b) (network network' : Network) (now : Nat)
      {datagram datagram' : List UInt8} {peer peer' : SocketAddress} {response : Response}
      {number' : UInt32} (decoded : Datagram.decode datagram = .ok (.response response))
      (decoded' : Datagram.decode datagram' = .ok (.response { response with number := number' }))
      (here : peer.ip.canonical = source) (here' : peer'.ip.canonical = source)
      (same : SamePlace (privateNumbers id a.log) (privateNumbers id b.log) response.number number') :
      Abreast source id (a.strike network now (.call (.receive datagram peer)))
        (b.strike network' now (.call (.receive datagram' peer')))
  /-- Something else comes to one of them: whatever is from another address, and whatever is no answer
  to such a request. -/
  | leftNoise {a b : Side} (abreast : Abreast source id a b) (network : Network) (now : Nat)
      {datagram : List UInt8} {peer : SocketAddress}
      (noise : ¬ Replies source id (privateNumbers id a.log) datagram peer) :
      Abreast source id (a.strike network now (.call (.receive datagram peer))) b
  | rightNoise {a b : Side} (abreast : Abreast source id a b) (network : Network) (now : Nat)
      {datagram : List UInt8} {peer : SocketAddress}
      (noise : ¬ Replies source id (privateNumbers id b.log) datagram peer) :
      Abreast source id a (b.strike network now (.call (.receive datagram peer)))
  | revise {a b : Side} (abreast : Abreast source id a b) (edits : List Edit) :
      Abreast source id { a with engine := (a.engine.revise edits).1 }
        { b with engine := (b.engine.revise edits).1 }
  | reroute {a b : Side} (abreast : Abreast source id a b) (sourceFor sourceFor' : Ip → Option Ip) :
      Abreast source id { a with engine := { a.engine with sourceFor } }
        { b with engine := { b.engine with sourceFor := sourceFor' } }

/-! ## Operations abreast -/

structure Matched (source : Ip) (id : String) (a b : Side) : Prop where
  home : a.engine.home = b.engine.home
  ran : Ran a.log a.engine.table
  ran' : Ran b.log b.engine.table
  twin : Twin source id a.log b.log a.engine.table b.engine.table

namespace Matched
variable {source : Ip} {id : String} {a b : Side} {network network' : Network} {now now' : Nat}
  {deed deed' : Deed}

theorem strike (matched : Matched source id a b)
    (twin : Twin source id
      (a.log ++ (PeerTable.run (a.engine.operations now deed) a.engine.table).1)
      (b.log ++ (PeerTable.run (b.engine.operations now' deed') b.engine.table).1)
      (PeerTable.run (a.engine.operations now deed) a.engine.table).2
      (PeerTable.run (b.engine.operations now' deed') b.engine.table).2) :
    Matched source id (a.strike network now deed) (b.strike network' now' deed') where
  home := by
    rw [Side.engine_strike, Side.engine_strike]
    exact matched.home
  ran := Side.ran_strike matched.ran ..
  ran' := Side.ran_strike matched.ran' ..
  twin := by
    rw [Side.engine_strike, Side.engine_strike]
    exact twin

theorem left (matched : Matched source id a b)
    (alone : Untouched source id a.log
      (PeerTable.run (a.engine.operations now deed) a.engine.table).1 a.engine.table
      (PeerTable.run (a.engine.operations now deed) a.engine.table).2) :
    Matched source id (a.strike network now deed) b where
  home := by
    rw [Side.engine_strike]
    exact matched.home
  ran := Side.ran_strike matched.ran ..
  ran' := matched.ran'
  twin := by
    have twin := matched.twin.untouched alone (.refl source id b.log b.engine.table)
    rw [List.append_nil] at twin
    rw [Side.engine_strike]
    exact twin

theorem right (matched : Matched source id a b)
    (alone : Untouched source id b.log
      (PeerTable.run (b.engine.operations now deed) b.engine.table).1 b.engine.table
      (PeerTable.run (b.engine.operations now deed) b.engine.table).2) :
    Matched source id a (b.strike network now deed) where
  home := by
    rw [Side.engine_strike]
    exact matched.home
  ran := matched.ran
  ran' := Side.ran_strike matched.ran' ..
  twin := by
    have twin := matched.twin.untouched (.refl source id a.log a.engine.table) alone
    rw [List.append_nil] at twin
    rw [Side.engine_strike]
    exact twin

end Matched

namespace PeerTable
variable {source : Ip} {id : String} {log log' : List Event} {table table' : PeerTable}

theorem additions_foreign {endpoint : Endpoint} (foreign : endpoint.cable ≠ id) (now : Nat)
    (table : PeerTable) :
    ∀ operation ∈ Engine.additions table endpoint now, operation.Foreign id := by
  intro operation member
  rcases Engine.mem_additions member with rfl | rfl
  · exact foreign
  · exact foreign

theorem Ran.added (ran : Ran log table) (few : (issued log).length ≤ UInt32.size)
    (endpoint : Endpoint) (now : Nat) :
    Agrees (log ++ (table.perform (.add endpoint now)).1) (table.perform (.add endpoint now)).2 := by
  have ran := ran.run [.add endpoint now]
  rw [run_singleton] at ran
  refine (ran.agrees ?_).2
  rw [issued_append, issued_add, List.append_nil]
  exact few

theorem Twin.additions (twin : Twin source id log log' table table') (ran : Ran log table)
    (ran' : Ran log' table') (few : (issued log).length ≤ UInt32.size)
    (few' : (issued log').length ≤ UInt32.size) (endpoint : Endpoint) (now : Nat) :
    Twin source id (log ++ (PeerTable.run (Engine.additions table endpoint now) table).1)
      (log' ++ (PeerTable.run (Engine.additions table' endpoint now) table').1)
      (PeerTable.run (Engine.additions table endpoint now) table).2
      (PeerTable.run (Engine.additions table' endpoint now) table').2 := by
  by_cases ours : endpoint.cable = id
  · subst ours
    obtain ⟨same, added⟩ := twin.add rfl now
    have asked := added.plan (ran.added few endpoint now) (ran'.added few' endpoint now) now
    rw [List.append_assoc, List.append_assoc] at asked
    unfold Engine.additions
    rw [← same]
    split
    · rw [run_pair, run_pair]
      exact asked
    · rw [run_pair, run_pair]
      exact asked
    · rw [run_singleton, run_singleton]
      exact added
  · have keyed := (ran.agrees few).2.keyed
    have keyed' := (ran'.agrees few').2.keyed
    exact twin.untouched (run_untouched keyed (additions_foreign ours now table) source log)
      (run_untouched keyed' (additions_foreign ours now table') source log')

end PeerTable

section Deeds
variable {source : Ip} {id : String} {a b : Side} {now : Nat}

theorem noise_untouched (ran : Ran a.log a.engine.table) (few : (issued a.log).length ≤ UInt32.size)
    {datagram : List UInt8} {peer : SocketAddress}
    (noise : ¬ Replies source id (privateNumbers id a.log) datagram peer) (now : Nat) :
    Untouched source id a.log
      (PeerTable.run (a.engine.operations now (.call (.receive datagram peer))) a.engine.table).1
      a.engine.table
      (PeerTable.run (a.engine.operations now (.call (.receive datagram peer))) a.engine.table).2 := by
  obtain ⟨nodup, agrees⟩ := ran.agrees few
  have nothing := Untouched.refl source id a.log a.engine.table
  rw [Engine.operations_receive]
  cases decoded : Datagram.decode datagram with
  | error reason => exact nothing
  | ok message =>
      cases message with
      | request request => exact nothing
      | response response =>
          cases parts : Engine.usable response with
          | error reason =>
              rw [Engine.receptions_of_unusable parts]
              exact nothing
          | ok part =>
              obtain ⟨name, nat⟩ := part
              rw [Engine.receptions_of_usable parts, run_singleton]
              by_cases ours : name = id
              · subst ours
                refine respond_untouched agrees nodup (fun known here => noise ?_) nat now
                obtain ⟨sender, named, endpoint, -⟩ := Engine.usable_eq_ok_iff.1 parts
                exact ⟨response, decoded, by rw [named, Option.map_some, endpoint], here, known⟩
              · have foreign : (Operation.respond name response.number peer.ip.canonical nat
                    now).Foreign id := ours
                exact perform_untouched agrees.keyed foreign source a.log

theorem Matched.answer (matched : Matched source id a b)
    (few : (issued a.log).length ≤ UInt32.size) (few' : (issued b.log).length ≤ UInt32.size)
    {datagram datagram' : List UInt8} {peer peer' : SocketAddress} {response : Response}
    {number' : UInt32} (decoded : Datagram.decode datagram = .ok (.response response))
    (decoded' : Datagram.decode datagram' = .ok (.response { response with number := number' }))
    (here : peer.ip.canonical = source) (here' : peer'.ip.canonical = source)
    (same : SamePlace (privateNumbers id a.log) (privateNumbers id b.log) response.number number')
    (network network' : Network) :
    Matched source id (a.strike network now (.call (.receive datagram peer)))
      (b.strike network' now (.call (.receive datagram' peer'))) := by
  obtain ⟨nodup, agrees⟩ := matched.ran.agrees few
  obtain ⟨nodup', agrees'⟩ := matched.ran'.agrees few'
  have alike : Engine.usable { response with number := number' } = Engine.usable response := rfl
  refine matched.strike ?_
  rw [Engine.operations_receive, Engine.operations_receive, decoded, decoded']
  cases parts : Engine.usable response with
  | error reason =>
      rw [Engine.receptions_of_unusable parts, Engine.receptions_of_unusable (alike.trans parts)]
      simpa [PeerTable.run] using matched.twin
  | ok part =>
      obtain ⟨name, nat⟩ := part
      rw [Engine.receptions_of_usable parts, Engine.receptions_of_usable (alike.trans parts), here,
        here', run_singleton, run_singleton]
      by_cases ours : name = id
      · subst ours
        exact matched.twin.answer agrees agrees' nodup nodup' same nat now
      · have foreign (number : UInt32) : (Operation.respond name number source nat now).Foreign id :=
          ours
        exact matched.twin.foreign agrees.keyed agrees'.keyed (foreign _) (foreign _)

end Deeds

/-! ## Runs abreast -/

section Abreast
variable {source : Ip} {id : String} {a b : Side}

theorem Matched.call (matched : Matched source id a b)
    (few : (issued a.log).length ≤ UInt32.size) (few' : (issued b.log).length ≤ UInt32.size)
    {call : Call} (told : (Deed.call call).isReceive = false) (network network' : Network)
    (now : Nat) :
    Matched source id (a.strike network now (.call call)) (b.strike network' now (.call call)) := by
  obtain ⟨-, agrees⟩ := matched.ran.agrees few
  obtain ⟨-, agrees'⟩ := matched.ran'.agrees few'
  refine matched.strike ?_
  -- What is done to another endpoint does not matter; what is done to this one is done on both sides.
  cases call with
  | add endpoint =>
      unfold Engine.operations
      dsimp only
      rw [← matched.home]
      split
      · simpa [PeerTable.run] using matched.twin
      · exact matched.twin.additions matched.ran matched.ran' few few' endpoint now
  | remove other =>
      unfold Engine.operations
      dsimp only
      rw [run_singleton, run_singleton]
      by_cases ours : other = id
      · subst ours
        exact matched.twin.dropped
      · have foreign : (Operation.remove other).Foreign id := ours
        exact matched.twin.foreign agrees.keyed agrees'.keyed foreign foreign
  | check other =>
      unfold Engine.operations
      dsimp only
      rw [run_singleton, run_singleton]
      by_cases ours : other = id
      · subst ours
        exact matched.twin.plan agrees agrees' now
      · have foreign : (Operation.plan other now).Foreign id := ours
        exact matched.twin.foreign agrees.keyed agrees'.keyed foreign foreign
  | tick =>
      unfold Engine.operations
      dsimp only
      rw [run_singleton, run_singleton]
      exact matched.twin.tick agrees agrees' (.refl _) (.refl _) now
  | receive => cases told

theorem Abreast.matched (abreast : Abreast source id a b)
    (few : (issued a.log).length ≤ UInt32.size) (few' : (issued b.log).length ≤ UInt32.size) :
    Matched source id a b := by
  -- What comes to one side only is noise, which leaves the private address of this endpoint untouched.
  induction abreast with
  | @start engine engine' pacing family first first' home fresh fresh' =>
      refine ⟨home, ?_, ?_, ?_⟩
      · rw [fresh]
        exact .new pacing family first
      · rw [fresh']
        exact .new pacing family first'
      · rw [fresh, fresh']
        exact .new source id pacing family first first'
  | call abreast network network' now call told ih =>
      have before := few_before few
      have before' := few_before few'
      exact (ih before before').call before before' told network network' now
  | tick abreast network network' now all all' ih =>
      have before := few_before few
      have before' := few_before few'
      have matched := ih before before'
      obtain ⟨-, agrees⟩ := matched.ran.agrees before
      obtain ⟨-, agrees'⟩ := matched.ran'.agrees before'
      refine matched.strike ?_
      unfold Engine.operations
      dsimp only
      rw [run_singleton, run_singleton]
      exact matched.twin.tick agrees agrees' all all' now
  | answer abreast network network' now decoded decoded' here here' same ih =>
      have before := few_before few
      have before' := few_before few'
      exact (ih before before').answer before before' decoded decoded' here here' same network network'
  | leftNoise abreast network now noise ih =>
      have before := few_before few
      have matched := ih before few'
      exact matched.left (noise_untouched matched.ran before noise now)
  | rightNoise abreast network now noise ih =>
      have before' := few_before few'
      have matched := ih few before'
      exact matched.right (noise_untouched matched.ran' before' noise now)
  | revise abreast edits ih =>
      have matched := ih few few'
      refine ⟨?_, matched.ran, matched.ran', matched.twin⟩
      change (Endpoint.revise _ edits).1 = (Endpoint.revise _ edits).1
      rw [matched.home]
  | reroute abreast sourceFor sourceFor' ih =>
      have matched := ih few few'
      exact ⟨matched.home, matched.ran, matched.ran', matched.twin⟩

end Abreast

/-- Two runs abreast know the same endpoint under a name or none, and if its private address is `source`,
they hold the same about that address: as many requests have gone there, no two with one number, and the
private probes are the same but for these numbers, which correspond by their places. -/
theorem private_independent {source : Ip} {id : String} {a b : Side}
    (abreast : Abreast source id a b) (few : (issued a.log).length < UInt32.size)
    (few' : (issued b.log).length < UInt32.size) :
    (privateNumbers id a.log).Nodup ∧ (privateNumbers id b.log).Nodup ∧
      Option.Rel (Remote.Akin source (privateNumbers id a.log) (privateNumbers id b.log))
        (a.engine.table.get? id) (b.engine.table.get? id) := by
  have matched := abreast.matched (Nat.le_of_lt few) (Nat.le_of_lt few')
  obtain ⟨nodup, agrees⟩ := matched.ran.agrees (Nat.le_of_lt few)
  obtain ⟨nodup', agrees'⟩ := matched.ran'.agrees (Nat.le_of_lt few')
  exact ⟨agrees.privateNumbers_nodup nodup id, agrees'.privateNumbers_nodup nodup' id,
    matched.twin.akin⟩

namespace Forgery

def hub (first : UInt32) : Engine where
  home := { cluster := "east", cable := "hub" }
  port := 4490
  sourceFor := fun _ => none
  table := new {} .v4 first

def network : Network := fun _ datagram => .sent datagram.length

def asked (first : UInt32) : Side :=
  ({ engine := hub first } : Side).strike network 0 (.call (.add twoAddresses))

def reply (number : UInt32) (verdict : Verdict) : Response where
  number
  sender := some twoAddresses.identity
  receiver := some ⟨"east", "hub"⟩
  observed := some ⟨"10.0.0.1", 4490⟩
  verdict

def datagram (number : UInt32) (verdict : Verdict) : List UInt8 :=
  match Datagram.encode (.response (reply number verdict)) with
  | .ok octets => octets
  | .error _ => []

def take (side : Side) (now : Nat) (octets : List UInt8) (ip : Ipv4) : Side :=
  side.strike network now (.call (.receive octets (.v4 ip 4490)))

def disturbed : Side :=
  take (take (asked 7) 3 (datagram 7 .altered) ⟨10, 0, 0, 9⟩) 5 (datagram 7 .direct) ⟨10, 0, 0, 7⟩

def undisturbed : Side := take (asked 1) 5 (datagram 1 .direct) ⟨10, 0, 0, 7⟩

theorem decode_datagram (number : UInt32) {verdict : Verdict} (lasting : verdict.isLasting)
    (fits : (Datagram.encode (.response (reply number verdict))).isOk = true) :
    Datagram.decode (datagram number verdict) = .ok (.response (reply number verdict)) := by
  have lasting : Message.isLasting (.response (reply number verdict)) := lasting
  unfold datagram
  cases encoded : Datagram.encode (.response (reply number verdict)) with
  | error reason => simp [encoded, Except.isOk, Except.toBool] at fits
  | ok octets => exact Datagram.decode_encode lasting encoded

theorem abreast : Abreast (.v4 ⟨10, 0, 0, 7⟩) "gateway" disturbed undisturbed := by
  have fresh (first : UInt32) : (hub first).table = new {} .v4 first := rfl
  have started : Abreast (.v4 ⟨10, 0, 0, 7⟩) "gateway" { engine := hub 7 } { engine := hub 1 } :=
    .start rfl (fresh 7) (fresh 1)
  have asking : Abreast (.v4 ⟨10, 0, 0, 7⟩) "gateway" (asked 7) (asked 1) :=
    started.call network network 0 (.add twoAddresses) rfl
  have noise : ¬ Replies (.v4 ⟨10, 0, 0, 7⟩) "gateway" (privateNumbers "gateway" (asked 7).log)
      (datagram 7 .altered) (.v4 ⟨10, 0, 0, 9⟩ 4490) := by
    rintro ⟨response, -, -, address, -⟩
    revert address
    decide
  have forged := asking.leftNoise network 3 noise
  have direct : Verdict.direct.isLasting := by
    intro code unrecognized
    cases unrecognized
  have decoded := decode_datagram 7 direct (by decide +kernel)
  have decoded' := decode_datagram 1 direct (by decide +kernel)
  refine .answer forged network network 5 decoded decoded' rfl rfl ⟨0, ?_, ?_⟩
  · decide +kernel
  · decide +kernel

theorem private_independent_disturbed :
    Abreast (.v4 ⟨10, 0, 0, 7⟩) "gateway" disturbed undisturbed ∧
      (issued disturbed.log).length < UInt32.size ∧ (issued undisturbed.log).length < UInt32.size ∧
      ∃ first second, disturbed.engine.table.get? "gateway" = some first ∧
        undisturbed.engine.table.get? "gateway" = some second ∧
        first.ip? .viaPrivate = some (.v4 ⟨10, 0, 0, 7⟩) ∧
        first.viaPrivate.known = some false ∧ second.viaPrivate.known = some false := by
  have few : (issued disturbed.log).length < UInt32.size := by decide +kernel
  have few' : (issued undisturbed.log).length < UInt32.size := by decide +kernel
  have knows : (disturbed.engine.table.get? "gateway").map (fun remote =>
      (remote.ip? .viaPrivate, remote.viaPrivate.known)) =
        some (some (.v4 ⟨10, 0, 0, 7⟩), some false) := by decide +kernel
  obtain ⟨-, -, akin⟩ := private_independent abreast few few'
  obtain ⟨first, present, same⟩ := Option.map_eq_some_iff.1 knows
  obtain ⟨address, known⟩ := Prod.mk.inj same
  refine ⟨abreast, few, few', first, ?_⟩
  rw [present] at akin
  cases present' : undisturbed.engine.table.get? "gateway" with
  | none => rw [present'] at akin; cases akin
  | some second =>
      rw [present'] at akin
      cases akin with
      | some akin =>
          refine ⟨second, present, rfl, address, known, ?_⟩
          rw [← (akin.alike address).2.known]
          exact known

end Forgery

end NatReach
