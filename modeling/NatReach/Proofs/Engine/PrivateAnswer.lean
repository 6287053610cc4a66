import NatReach.Proofs.Engine.Independence
import NatReach.Proofs.Engine.Verdict

namespace NatReach
open PeerTable

theorem Ip.canonical_eq_self_iff {ip : Ip} :
    ip.canonical = ip ↔ ∀ inner : Ipv4, ip ≠ .v6 inner.mapped := by
  constructor
  · rintro same inner rfl
    cases (canonical_mapped inner).symm.trans same
  · intro plain
    cases ip with
    | v4 address => rfl
    | v6 address =>
        cases stands : address.mapped? with
        | none => simp [canonical, stands]
        | some inner => exact absurd (congrArg v6 (Ipv6.eq_mapped stands)) (plain inner)

theorem Side.Fit.respond_private {side : Side} (fit : side.Fit) {id : String} {remote : Remote}
    (present : side.engine.table.get? id = some remote) {p : Ip}
    (address : remote.ip? .viaPrivate = some p) {number : UInt32}
    (asked : (remote.probe .viaPrivate).lastRequest = some number) (source : Ip) (nat : Bool)
    (now : Nat) :
    side.engine.table.respond id number source nat now =
      if source = p then
        (.ok (remote.accept .viaPrivate nat now).1,
          side.engine.table.put id (remote.accept .viaPrivate nat now).2)
      else (.error (.foreignSource id (some p) source), side.engine.table) := by
  -- the number is that of no request to the public address
  have notPublic : remote.viaPublic.lastRequest ≠ some number :=
    fun same => fit.apart id remote present number same asked
  split
  · rename_i fromThere
    rw [← fromThere] at address
    have counts : remote.Counts number source .viaPrivate := ⟨notPublic, asked, address⟩
    exact respond_of_counts present counts
  · rename_i foreign
    obtain ⟨story, -, traced⟩ := fit.traces.exists_story present
    have cable : remote.endpoint.cable = id := by rw [traced.endpoint, traced.cable]
    have last : remote.viaPrivate.lastRequest = some number := asked
    have elsewhere : ¬ some p = some source := fun same => foreign (Option.some.inj same).symm
    refine respond_of_error ?_
    rw [respond_eq_error_iff present, Remote.respond, if_neg notPublic, if_pos last, address, cable,
      if_neg elsewhere]

/-- Whatever a gateway has gone through, a response in the name of an endpoint that has all its parts,
reports a success and bears the number of the last request to the private address of that endpoint,
from this very address and any port, is accepted exactly if the address is no IPv6 address that stands
for an IPv4 one. If it is accepted, the verdict about the address is settled as reported. If not, it
is rejected as an answer from elsewhere, and nothing changes. -/
theorem private_answer_from_there {engine : Engine} {pacing : Pacing} {family : Family} {first : UInt32}
    (fresh : engine.table = .new pacing family first) {side : Side}
    (reached : Side.Leads { engine } side) {id : String} {remote : Remote}
    (present : side.engine.table.get? id = some remote) {p : Ip}
    (address : remote.ip? .viaPrivate = some p) {response : Response} {sender : Identity}
    (from' : response.sender = some sender) (name : sender.endpoint = id)
    (receiver : response.receiver.isSome) (observed : response.observed.isSome) {nat : Bool}
    (success : response.verdict = if nat then .altered else .direct)
    (asked : (remote.probe .viaPrivate).lastRequest = some response.number) {source : SocketAddress}
    (fromThere : source.ip = p) (now : Nat) :
    let stroke := side.engine.takeResponse response source now
    (stroke.error = none ↔ ∀ inner : Ipv4, p ≠ .v6 inner.mapped) ∧
    (stroke.error = none → ∃ after, stroke.engine.table.get? id = some after ∧
      (after.probe .viaPrivate).progress = .resolved nat) ∧
    (stroke.error ≠ none →
      stroke = { engine := side.engine,
                 error := some (.rejected (.foreignSource id (some p) p.canonical)) }) := by
  have fit : side.Fit := reached.fit (.new fresh)
  have parts : Engine.usable response = .ok (id, nat) :=
    Engine.usable_eq_ok_iff.2 ⟨sender, from', name, receiver, observed, success⟩
  have outcome := fit.respond_private present address asked source.ip.canonical nat now
  have taken : side.engine.respond response source now = _ :=
    Engine.respond_of_usable parts source now
  rw [outcome, fromThere] at taken
  rw [← Ip.canonical_eq_self_iff]
  by_cases plain : p.canonical = p
  · rw [if_pos plain] at taken
    simp only [Engine.takeResponse_of_ok taken]
    refine ⟨⟨fun _ => plain, fun _ => trivial⟩, fun _ => ⟨_, get?_put_self .., ?_⟩, fun failed => ?_⟩
    · rw [Remote.probe_accept, if_pos rfl, Probe.progress_settle]
    · exact absurd rfl failed
  · rw [if_neg plain] at taken
    simp only [Engine.takeResponse_of_error taken]
    exact ⟨⟨fun accepted => absurd accepted (Option.some_ne_none _), fun same => absurd same plain⟩,
      fun accepted => absurd accepted (Option.some_ne_none _), fun _ => trivial⟩

namespace Truthful
open Forgery

def gateway (p : Ip) : Endpoint :=
  { twoAddresses with publicIps := .ofList [], privateIps := .ofList [p] }

def asking (p : Ip) : Side :=
  ({ engine := { hub 7 with table := .new {} p.family 7 } } : Side).strike network 0
    (.call (.add (gateway p)))

def local' : Ipv6 := ⟨[0xFD00, 0, 0, 0, 0, 0, 0, 7], rfl⟩

theorem private_answer_from_there_scoped :
    let stroke := (asking (.v6 local')).engine.takeResponse (reply 7 .altered) (.v6 local' 3 50000) 5
    stroke.error = none ∧ ∃ after, stroke.engine.table.get? "gateway" = some after ∧
      (after.probe .viaPrivate).progress = .resolved true := by
  have room : HasRoom (asking (.v6 local')).engine.table := by
    unfold HasRoom
    decide
  have asked : ((asking (.v6 local')).engine.table.get? "gateway").map (fun remote =>
      (remote.ip? .viaPrivate, (remote.probe .viaPrivate).lastRequest)) =
        some (some (.v6 local'), some 7) := by decide
  obtain ⟨remote, present, parts⟩ := Option.map_eq_some_iff.1 asked
  obtain ⟨address, last⟩ := Prod.mk.inj parts
  have plain : ∀ inner : Ipv4, Ip.v6 local' ≠ .v6 inner.mapped :=
    Ip.canonical_eq_self_iff.1 (by decide)
  have from' : (reply 7 .altered).sender = some twoAddresses.identity := rfl
  have success : (reply 7 .altered).verdict = if true then .altered else .direct := rfl
  have fromThere : (SocketAddress.v6 local' 3 50000).ip = .v6 local' := rfl
  obtain ⟨accepted, settles, -⟩ := private_answer_from_there rfl
    (.strike .refl network 0 (.call (.add (gateway (.v6 local')))) room) present address
    from' rfl rfl rfl success last fromThere 5
  exact ⟨accepted.2 plain, settles (accepted.2 plain)⟩

/-- The answer to the last request comes from the address itself, but the address stands for another
one, and so the answer is rejected. -/
theorem not_taken_from_there :
    let p : Ip := .v6 (Ipv4.mapped ⟨10, 0, 0, 7⟩)
    let source : SocketAddress := .ofIp p 50000
    ((asking p).engine.table.get? "gateway").map (fun remote =>
        (remote.ip? .viaPrivate, (remote.probe .viaPrivate).progress)) =
      some (some source.ip, .pending 7 none) ∧
    Engine.usable (reply 7 .direct) = .ok ("gateway", false) ∧
    ((asking p).engine.takeResponse (reply 7 .direct) source 5).error =
      some (.rejected (.foreignSource "gateway" (some p) (.v4 ⟨10, 0, 0, 7⟩))) := by
  refine ⟨by decide, rfl, by decide +kernel⟩

end Truthful
end NatReach
