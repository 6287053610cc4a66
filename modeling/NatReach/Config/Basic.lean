import NatReach.Address.Socket
import NatReach.Discovery.Pacing
import NatReach.Endpoint.Setting
import NatReach.Endpoint.Name

namespace NatReach

structure DiscoverySettings where
  bindAddress : String := "0.0.0.0:4490"
  tickInterval : UInt64 := 1000
  retryBase : UInt64 := 1000
  retryMax : UInt64 := 16000
  maxAttempts : UInt32 := 6
  /-- After how many seconds an answered address is probed again, if ever. -/
  revalidateSeconds : Option UInt64 := none
  family : Family := .v4
deriving DecidableEq, Repr

structure Config where
  home : Endpoint
  discovery : DiscoverySettings := {}
  remotes : List Endpoint := []
deriving DecidableEq

inductive ConfigError where
  | invalidBindAddress (text : String)
  | endpoint (error : EndpointError)
deriving DecidableEq, Repr

def ConfigError.message : ConfigError → String
  | invalidBindAddress text =>
    "invalid discovery bind_addr " ++ Text.quote text ++ ": invalid socket address syntax"
  | endpoint error => error.message

namespace DiscoverySettings

def bind (settings : DiscoverySettings) : Except ConfigError SocketAddress :=
  match SocketAddress.ofText? settings.bindAddress with
  | some address => .ok address
  | none => .error (.invalidBindAddress settings.bindAddress)

def tickMillis (settings : DiscoverySettings) : Nat := max settings.tickInterval.toNat 1

/-- The pacing of probes. The longest wait is not below the first one, and there is one attempt at
least. -/
def pacing (settings : DiscoverySettings) : Pacing where
  retryBase := settings.retryBase.toNat
  retryMax := max settings.retryMax.toNat settings.retryBase.toNat
  maxAttempts := max settings.maxAttempts.toNat 1
  revalidate := settings.revalidateSeconds.map fun seconds => 1000 * seconds.toNat

end DiscoverySettings

namespace Config

def initial : Config := { home := { cluster := "cluster1", cable := "gateway1" } }

/-- An endpoint that tells where it answers probes: at the given port, if it does not say so. -/
def withDiscoveryPort (endpoint : Endpoint) (port : UInt16) : Endpoint :=
  if endpoint.settings.contains Endpoint.discoveryPortKey then endpoint
  else
    { endpoint with
      settings := endpoint.settings.insert Endpoint.discoveryPortKey (toString port.toNat) }

/-- What the gateway tells its peers about itself. It has a name, and it answers probes. -/
def advertised (config : Config) : Except ConfigError Endpoint := do
  let _ ← config.home.resourceName.mapError .endpoint
  let address ← config.discovery.bind
  let endpoint := withDiscoveryPort config.home address.port
  let _ ← endpoint.discoveryPort.mapError .endpoint
  return endpoint

end Config
end NatReach
