import NatReach.Proofs.Address.RoundTrip
import NatReach.Proofs.Endpoint.AddressSet
import NatReach.Proofs.Engine.Confirmation
import NatReach.Proofs.Engine.Life

namespace NatReach
open PeerTable

/-! ## What the answer says -/

namespace ClaimedAddress

theorem ip?_text (ip : Ip) (port : UInt16) : ip? ⟨ip.text, port⟩ = some ip.canonical := by
  rw [ip?, Ip.ofText?_text]
  rfl

end ClaimedAddress

namespace Endpoint

theorem seesSourceIpAltered_iff {ip : Option Ip} {port : UInt16} {source : SocketAddress} :
    seesSourceIpAltered ⟨(ip.map Ip.text).getD "", port⟩ source = true ↔
      ∃ declared, ip = some declared ∧ declared.canonical ≠ source.ip.canonical := by
  cases ip with
  | none => simp [seesSourceIpAltered]
  | some declared =>
      simp [seesSourceIpAltered, ClaimedAddress.ip?_text, Ip.text_ne_empty]

end Endpoint

namespace Engine

end Engine

/-! ## What it makes of the remote -/

namespace Remote

end Remote

namespace Engine

end Engine

theorem Side.Fit.awaits {side : Side} (fit : side.Fit) {id : String} {story : Chronicle}
    (tells : chronicle id side.log = some story) {order : ProbeOrder}
    (latest : story.latest? .viaPrivate = some order) {d : Ip}
    (theirs : story.endpoint.privateIp? side.engine.table.family = some d) :
    order.receiver = story.endpoint.identity ∧ order.destination.ip = d ∧
      ∃ remote, side.engine.table.get? id = some remote ∧
        Traced id side.engine.table.family story remote ∧ remote.ip? .viaPrivate = some d ∧
        remote.Counts order.number d .viaPrivate := by
  obtain ⟨remote, present, traced⟩ := fit.traces.exists_remote tells
  have advertised : remote.ip? .viaPrivate = some d := by
    rw [Remote.ip?, traced.endpoint, traced.sameFamily]
    exact theirs
  have ofRole : order.role = .viaPrivate := by simpa using List.find?_some latest
  obtain ⟨meant, ip, address, destination⟩ :=
    traced.orders order (List.mem_of_find?_eq_some latest)
  rw [ofRole, advertised] at address
  cases address
  -- the number is that of the last request to the private address, and of no other one
  have last : (remote.probe .viaPrivate).lastRequest = some order.number := by
    rw [traced.latest, latest]
    rfl
  refine ⟨meant, by rw [destination, SocketAddress.ip_ofIp], remote, present, traced, advertised, ?_,
    last, advertised⟩
  exact fun same => fit.apart id remote present _ same last

/-! ## The exchange -/

namespace Meeting

def idle : Side := { engine := engines .left }

def waiting : Side := idle.strike network 0 (.call (.add twoAddresses))

def order : ProbeOrder where
  id := "gateway"
  receiver := twoAddresses.identity
  role := .viaPrivate
  number := 7
  destination := .v4 ⟨10, 0, 0, 7⟩ 4490

def probe : Attempt where
  outgoing := idle.engine.outgoing order
  datagram := firstSent waiting
  delivery := network 0 (firstSent waiting)

end Meeting
end NatReach
