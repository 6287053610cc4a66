import NatReach.Proofs.Engine.Verdict

namespace NatReach

def Response.isFlagged (response : Response) : Bool :=
  response.sourceIpAltered || response.sourcePortAltered || response.destinationIpAltered

/-- That a request lacks a part that an answer looks at. -/
def Request.LacksPart (request : Request) : Prop :=
  request.sender = none ∨ request.receiver = none ∨ request.source = none ∨ request.destination = none

namespace Endpoint
variable {home : Endpoint} {request : Request} {source : SocketAddress} {usual : Family}

/-! ## Which requests are compared -/

theorem answer_of_incomplete (incomplete : request.LacksPart) :
    home.answer request source usual =
      { home.acknowledge request source with verdict := .malformed } := by
  unfold answer
  split
  · rename_i receiver origin target sender receives claims goes sends
    simp [Request.LacksPart, receives, claims, goes, sends] at incomplete
  · rfl

theorem answer_of_complete {sender receiver : Identity} {origin target : ClaimedAddress}
    (sends : request.sender = some sender) (receives : request.receiver = some receiver)
    (claims : request.source = some origin) (goes : request.destination = some target) :
    home.answer request source usual =
      if receiver.cluster ≠ home.cluster then
        { home.acknowledge request source with verdict := .unknownCluster }
      else if receiver.endpoint ≠ home.cable then
        { home.acknowledge request source with verdict := .unknownEndpoint }
      else home.compare request source usual origin target := by
  rw [answer, receives, claims, goes, sends]

/-! ## The source -/

theorem seesSourceIpAltered_ofIp (ip : Ip) (port : UInt16) (source : SocketAddress) :
    seesSourceIpAltered (.ofIp ip port) source = true ↔ ip.canonical ≠ source.ip.canonical := by
  have written : ClaimedAddress.ofIp ip port = ⟨((some ip).map Ip.text).getD "", port⟩ := rfl
  rw [written, seesSourceIpAltered_iff]
  simp

theorem seesSourceIpAltered_of_empty {origin : ClaimedAddress} (empty : origin.ip = "")
    (source : SocketAddress) : seesSourceIpAltered origin source = false := by
  simp [seesSourceIpAltered, empty]

theorem seesSourceIpAltered_of_unreadable {origin : ClaimedAddress} (told : origin.ip ≠ "")
    (unreadable : Ip.ofText? origin.ip = none) (source : SocketAddress) :
    seesSourceIpAltered origin source = true := by
  simp [seesSourceIpAltered, told, ClaimedAddress.ip?, unreadable]

/-! ## What makes no difference -/

theorem seesDestinationAltered_usual (home : Endpoint) (target : ClaimedAddress)
    (usual other : Family) :
    home.seesDestinationAltered target usual = home.seesDestinationAltered target other := by
  unfold seesDestinationAltered
  cases target.ip? <;> rfl

theorem answer_congr {source' : SocketAddress} (sameIp : source.ip.canonical = source'.ip.canonical)
    (samePort : source.port = source'.port) (home : Endpoint) (request : Request)
    (usual other : Family) :
    home.answer request source usual = home.answer request source' other := by
  have acknowledged : home.acknowledge request source = home.acknowledge request source' := by
    simp only [acknowledge, sameIp, samePort]
  have ips (origin : ClaimedAddress) :
      seesSourceIpAltered origin source = seesSourceIpAltered origin source' := by
    rw [seesSourceIpAltered, sameIp, seesSourceIpAltered]
  have ports (origin : ClaimedAddress) :
      seesSourcePortAltered origin source = seesSourcePortAltered origin source' := by
    rw [seesSourcePortAltered, samePort, seesSourcePortAltered]
  have compared (origin target : ClaimedAddress) : home.compare request source usual origin target =
      home.compare request source' other origin target := by
    simp only [compare, acknowledged, ips, ports, home.seesDestinationAltered_usual target usual other]
  simp only [answer, acknowledged, compared]

theorem answer_mapped (home : Endpoint) (request : Request) (usual : Family) (inner : Ipv4)
    (scope : UInt32) (port : UInt16) :
    home.answer request (.v6 inner.mapped scope port) usual =
      home.answer request (.v4 inner port) usual := by
  have sameIp : (SocketAddress.v6 inner.mapped scope port).ip.canonical =
      (SocketAddress.v4 inner port).ip.canonical := Ip.canonical_mapped inner
  exact answer_congr sameIp rfl home request usual usual

/-! ## Every answer -/

/-- A request that lacks a part is malformed. One that is complete is for an unknown cluster if its
receiver is of another cluster, or else for an unknown endpoint if its receiver is another endpoint, and in
all these cases nothing is flagged. If its receiver is this gateway, the verdict is that addresses are
altered if something is flagged, and that they are not if nothing is. The address of the source is
flagged if the sender wrote another one, as canonical addresses, or a text that is no address, but not
if it wrote nothing. The answer to a source with an IPv4 address is the answer to the one with the IPv6
address that stands for it, in any scope, and no answer depends on the family that the gateway probes
in. -/
theorem answer_exact (home : Endpoint) (request : Request) (source : SocketAddress) (usual : Family) :
    let response := home.answer request source usual
    (request.LacksPart → response.verdict = .malformed ∧ response.isFlagged = false) ∧
    (∀ sender receiver origin target, request.sender = some sender →
      request.receiver = some receiver → request.source = some origin →
      request.destination = some target →
      (receiver.cluster ≠ home.cluster →
        response.verdict = .unknownCluster ∧ response.isFlagged = false) ∧
      (receiver.cluster = home.cluster → receiver.endpoint ≠ home.cable →
        response.verdict = .unknownEndpoint ∧ response.isFlagged = false) ∧
      (receiver.cluster = home.cluster → receiver.endpoint = home.cable →
        (response.verdict = if response.isFlagged then .altered else .direct) ∧
        (∀ ip port, origin = .ofIp ip port →
          (response.sourceIpAltered = true ↔ ip.canonical ≠ source.ip.canonical)) ∧
        (origin.ip = "" → response.sourceIpAltered = false) ∧
        (origin.ip ≠ "" → Ip.ofText? origin.ip = none → response.sourceIpAltered = true))) ∧
    (∀ other, home.answer request source other = response) ∧
    ∀ (inner : Ipv4) scope port,
      home.answer request (.v6 inner.mapped scope port) usual =
        home.answer request (.v4 inner port) usual := by
  intro response
  refine ⟨fun incomplete => ?_, fun sender receiver origin target sends receives claims goes => ?_,
    fun other => answer_congr rfl rfl .., home.answer_mapped request usual⟩
  · rw [show response = _ from answer_of_incomplete incomplete]
    exact ⟨rfl, rfl⟩
  · have answered : response = _ := answer_of_complete sends receives claims goes
    refine ⟨fun foreign => ?_, fun ours elsewhere => ?_, fun ours here => ?_⟩
    · rw [answered, if_pos foreign]
      exact ⟨rfl, rfl⟩
    · rw [answered, if_neg (not_not.2 ours), if_pos elsewhere]
      exact ⟨rfl, rfl⟩
    · rw [answered, if_neg (not_not.2 ours), if_neg (not_not.2 here)]
      refine ⟨home.verdict_compare request source usual origin target, fun ip port wrote => ?_,
        fun empty => ?_, fun told unreadable => ?_⟩
      · subst wrote
        exact seesSourceIpAltered_ofIp ip port source
      · exact seesSourceIpAltered_of_empty empty source
      · exact seesSourceIpAltered_of_unreadable told unreadable source

end Endpoint

namespace Checkpoint

def hub : Endpoint where
  cluster := "east"
  cable := "hub"
  privateIps := .ofList [.v4 ⟨10, 0, 0, 1⟩]

def request (origin : ClaimedAddress) : Request where
  sender := some ⟨"west", "gateway"⟩
  receiver := some hub.identity
  source := some origin
  destination := some (.ofIp (.v4 ⟨10, 0, 0, 1⟩) 4490)

def outside : Ipv6 := ⟨[0x2001, 0xDB8, 0, 0, 0, 0, 0, 7], rfl⟩

theorem answer_exact_outside :
    (hub.answer (request (.ofIp (.v6 outside) 4490)) (.v6 outside 3 4490) .v4).sourceIpAltered = false ∧
      (hub.answer (request ⟨"2001:db8::7/64", 4490⟩) (.v6 outside 3 4490) .v4).verdict = .altered ∧
      (hub.answer { request ⟨"", 0⟩ with source := none } (.v6 outside 3 4490) .v6).verdict =
        .malformed ∧
      hub.answer (request ⟨"", 4490⟩) (.v6 (Ipv4.mapped ⟨10, 0, 0, 7⟩) 0 4490) .v6 =
        hub.answer (request ⟨"", 4490⟩) (.v4 ⟨10, 0, 0, 7⟩ 4490) .v6 := by
  let source : SocketAddress := .v6 outside 3 4490
  have complete (origin : ClaimedAddress) :=
    (hub.answer_exact (request origin) source .v4).2.1 _ _ origin _ rfl rfl rfl rfl
  obtain ⟨-, -, read⟩ := complete (.ofIp (.v6 outside) 4490)
  obtain ⟨-, written, -, -⟩ := read rfl rfl
  obtain ⟨-, -, garbled⟩ := complete ⟨"2001:db8::7/64", 4490⟩
  obtain ⟨verdict, -, -, unreadable⟩ := garbled rfl rfl
  have flagged := unreadable (by decide) (by decide)
  obtain ⟨lacking, -⟩ := hub.answer_exact { request ⟨"", 0⟩ with source := none } source .v6
  obtain ⟨malformed, -⟩ := lacking (.inr (.inr (.inl rfl)))
  obtain ⟨-, -, -, mapped⟩ := hub.answer_exact (request ⟨"", 4490⟩) source .v6
  refine ⟨?_, ?_, malformed, mapped ⟨10, 0, 0, 7⟩ 0 4490⟩
  · rw [Bool.eq_false_iff, ne_eq, written (.v6 outside) 4490 rfl]
    exact not_not.2 rfl
  · rw [verdict, Response.isFlagged, flagged]
    rfl

end Checkpoint
end NatReach
