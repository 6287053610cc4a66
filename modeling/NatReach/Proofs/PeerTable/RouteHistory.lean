import NatReach.Proofs.PeerTable.Told

namespace NatReach
namespace PeerTable

def twoAddresses : Endpoint where
  cluster := "west"
  cable := "gateway"
  publicIps := .ofList [.v4 ⟨198, 51, 100, 7⟩]
  privateIps := .ofList [.v4 ⟨10, 0, 0, 7⟩]
  settings := .ofList [(Endpoint.discoveryPortKey, "")]

end PeerTable
end NatReach
