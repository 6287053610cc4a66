import NatReach.Address.Socket
import NatReach.Message.Basic

namespace NatReach

namespace ClaimedAddress

def ip? (claim : ClaimedAddress) : Option Ip := (Ip.ofText? claim.ip).map Ip.canonical

def ofIp (ip : Ip) (port : UInt16) : ClaimedAddress := ⟨ip.text, port⟩

end ClaimedAddress

namespace Endpoint

/-- Whether the address that a request comes from is not the claimed one. Who claims none is
believed. -/
def seesSourceIpAltered (claim : ClaimedAddress) (source : SocketAddress) : Bool :=
  claim.ip ≠ "" && claim.ip? ≠ some source.ip.canonical

def seesSourcePortAltered (claim : ClaimedAddress) (source : SocketAddress) : Bool :=
  claim.port ≠ source.port

/-- Whether the address that a request was sent to is not the private address of its family. -/
def seesDestinationAltered (home : Endpoint) (claim : ClaimedAddress) (usual : Family) : Bool :=
  let destination := claim.ip?
  match destination, home.privateIp? ((destination.map Ip.family).getD usual) with
  | some ip, some ours => ip ≠ ours
  | _, _ => true

def acknowledge (home : Endpoint) (request : Request) (source : SocketAddress) : Response where
  number := request.number
  sender := some home.identity
  receiver := request.sender
  observed := some (.ofIp source.ip.canonical source.port)

def compare (home : Endpoint) (request : Request) (source : SocketAddress) (usual : Family)
    (origin target : ClaimedAddress) : Response :=
  let sourceIp := seesSourceIpAltered origin source
  let sourcePort := seesSourcePortAltered origin source
  let destinationIp := home.seesDestinationAltered target usual
  { home.acknowledge request source with
    verdict := if sourceIp || sourcePort || destinationIp then .altered else .direct
    sourceIpAltered := sourceIp
    sourcePortAltered := sourcePort
    destinationIpAltered := destinationIp }

/-- The answer to a request, by where it comes from. The family is the one that the gateway probes
in. -/
def answer (home : Endpoint) (request : Request) (source : SocketAddress) (usual : Family) :
    Response :=
  match request.receiver, request.source, request.destination, request.sender with
  | some receiver, some origin, some target, some _ =>
    if receiver.cluster ≠ home.cluster then
      { home.acknowledge request source with verdict := .unknownCluster }
    else if receiver.endpoint ≠ home.cable then
      { home.acknowledge request source with verdict := .unknownEndpoint }
    else home.compare request source usual origin target
  | _, _, _, _ => { home.acknowledge request source with verdict := .malformed }

theorem verdict_compare (home : Endpoint) (request : Request) (source : SocketAddress)
    (usual : Family) (origin target : ClaimedAddress) :
    let response := home.compare request source usual origin target
    response.verdict =
      if response.sourceIpAltered || response.sourcePortAltered ||
        response.destinationIpAltered then .altered else .direct := rfl

end Endpoint
end NatReach
