import NatReach.Proofs.Endpoint.AddressSet
import NatReach.Proofs.Engine.Comparison

namespace NatReach

namespace Endpoint
variable {home : Endpoint} {request : Request} {source : SocketAddress} {usual : Family}
  {origin target : ClaimedAddress}

theorem seesDestinationAltered_eq_false_iff :
    home.seesDestinationAltered target usual = false ↔
      ∃ ip, Ip.ofText? target.ip = some ip ∧ ip.canonical ∈ home.privateIps.ips := by
  have looks : home.seesDestinationAltered target usual = false ↔
      ∃ ip, Ip.ofText? target.ip = some ip ∧
        home.privateIp? ip.canonical.family = some ip.canonical := by
    unfold seesDestinationAltered ClaimedAddress.ip?
    cases Ip.ofText? target.ip with
    | none => simp
    | some ip =>
        simp only [Option.map_some, Option.getD_some, Option.some.injEq, exists_eq_left']
        cases home.privateIp? ip.canonical.family with
        | none => simp
        | some ours => simpa using eq_comm
  -- The address that is looked up is of the family of the canonical form, as is any that equals it.
  rw [looks]
  refine exists_congr fun ip => and_congr_right fun _ => ?_
  exact AddressSet.get?_eq_some_iff.trans (and_iff_left rfl)

theorem destinationIpAltered_answer {sender : Identity} (sends : request.sender = some sender)
    (receives : request.receiver = some home.identity) (claims : request.source = some origin)
    (goes : request.destination = some target) :
    (home.answer request source usual).destinationIpAltered =
      home.seesDestinationAltered target usual := by
  have here : home.identity.cluster = home.cluster ∧ home.identity.endpoint = home.cable := ⟨rfl, rfl⟩
  rw [answer_of_complete sends receives claims goes, if_neg (not_not.2 here.1),
    if_neg (not_not.2 here.2)]
  rfl

/-- The destination of a request that is complete and meant for this gateway is not flagged exactly if it
is the text of an address whose canonical form is one of the private addresses. If the private addresses
have their canonical forms among them, this is to say that it spells one of them, as canonical addresses.
Without this proviso it is not: a private address, as it is written, is found exactly if its own canonical
form is a private address, too. -/
theorem destination_exact {sender : Identity} (sends : request.sender = some sender)
    (receives : request.receiver = some home.identity) (claims : request.source = some origin)
    (goes : request.destination = some target) :
    let flagged := (home.answer request source usual).destinationIpAltered
    (flagged = false ↔ ∃ ip, Ip.ofText? target.ip = some ip ∧ ip.canonical ∈ home.privateIps.ips) ∧
    ((∀ ours ∈ home.privateIps.ips, ours.canonical ∈ home.privateIps.ips) →
      (flagged = false ↔ ∃ ip, Ip.ofText? target.ip = some ip ∧
        ∃ ours ∈ home.privateIps.ips, ip.canonical = ours.canonical)) ∧
    ∀ ours ∈ home.privateIps.ips, ∀ port, target = .ofIp ours port →
      (flagged = false ↔ ours.canonical ∈ home.privateIps.ips) := by
  intro flagged
  have answered : flagged = home.seesDestinationAltered target usual :=
    destinationIpAltered_answer sends receives claims goes
  have exact : flagged = false ↔ _ := answered ▸ seesDestinationAltered_eq_false_iff
  refine ⟨exact, fun closed => ?_, fun ours member port told => ?_⟩
  · rw [exact]
    refine exists_congr fun ip => and_congr_right fun _ => ⟨fun member => ?_, ?_⟩
    · exact ⟨ip.canonical, member, ip.canonical_canonical.symm⟩
    · rintro ⟨ours, member, same⟩
      exact same ▸ closed ours member
  · rw [exact, told]
    have read : Ip.ofText? (ClaimedAddress.ofIp ours port).ip = some ours := ours.ofText?_text
    simp [read]

end Endpoint

namespace Mapped

def mapped : Ip := .v6 (Ipv4.mapped ⟨10, 0, 0, 7⟩)

def hub (ips : List Ip) : Endpoint where
  cluster := "east"
  cable := "hub"
  privateIps := .ofList ips

def request (target : Ip) : Request where
  number := 7
  sender := some ⟨"west", "gateway"⟩
  receiver := some (hub []).identity
  source := some (.ofIp (.v4 ⟨10, 0, 0, 9⟩) 4490)
  destination := some (.ofIp target 4490)

def source : SocketAddress := .v4 ⟨10, 0, 0, 9⟩ 4490

theorem destination_exact_bothForms :
    let home := hub [mapped, .v4 ⟨10, 0, 0, 7⟩]
    (home.answer (request mapped) source .v6).destinationIpAltered = false ∧
      (home.answer (request (.v4 ⟨10, 0, 0, 7⟩)) source .v6).destinationIpAltered = false ∧
      (home.answer (request (.v4 ⟨10, 0, 0, 8⟩)) source .v6).destinationIpAltered = true := by
  intro home
  have closed : ∀ ours ∈ home.privateIps.ips, ours.canonical ∈ home.privateIps.ips := by decide
  let target (ip : Ip) : ClaimedAddress := .ofIp ip 4490
  have exact (ip : Ip) := @Endpoint.destination_exact home (request ip) source .v6
    (.ofIp (.v4 ⟨10, 0, 0, 9⟩) 4490) (target ip) ⟨"west", "gateway"⟩ rfl rfl rfl rfl
  obtain ⟨-, -, own⟩ := exact mapped
  obtain ⟨-, same, -⟩ := exact (.v4 ⟨10, 0, 0, 7⟩)
  obtain ⟨other, -⟩ := exact (.v4 ⟨10, 0, 0, 8⟩)
  refine ⟨(own mapped (by decide) 4490 rfl).2 (by decide +kernel), ?_, ?_⟩
  · exact (same closed).2 ⟨_, Ip.ofText?_text (.v4 ⟨10, 0, 0, 7⟩), .v4 ⟨10, 0, 0, 7⟩, by decide, rfl⟩
  · rw [← Bool.not_eq_false, other]
    rintro ⟨ip, read, member⟩
    cases (Ip.ofText?_text (.v4 ⟨10, 0, 0, 8⟩)).symm.trans read
    exact absurd member (by decide)

/-- A gateway whose only private address is an IPv6 address that stands for an IPv4 one does not find it,
when a request says that it was sent there. -/
theorem own_address_flagged :
    let home := hub [mapped]
    mapped ∈ home.privateIps.ips ∧ (request mapped).receiver = some home.identity ∧
      (request mapped).destination = some (.ofIp mapped 4490) ∧
      (∃ ip, Ip.ofText? (ClaimedAddress.ofIp mapped 4490).ip = some ip ∧
        ∃ ours ∈ home.privateIps.ips, ip.canonical = ours.canonical) ∧
      (home.answer (request mapped) source .v6).destinationIpAltered = true := by
  intro home
  have member : mapped ∈ home.privateIps.ips := by decide
  exact ⟨member, rfl, rfl, ⟨mapped, mapped.ofText?_text, mapped, member, rfl⟩, by decide⟩

end Mapped
end NatReach
