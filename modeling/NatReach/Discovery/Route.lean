import NatReach.Discovery.Probe
import NatReach.Endpoint.Setting

namespace NatReach

structure Route where
  endpoint : Endpoint
  ip : Ip
  port : UInt16
  /-- Whether addresses are altered on the way, by a NAT. -/
  nat : Bool
  /-- Which of its addresses answered; none if it is only a guess. -/
  selected : Option Role
deriving DecidableEq

namespace Route

def isFallback (route : Route) : Bool := route.selected.isNone

end Route

namespace Endpoint

/-- The port that tunnels are dialed on, or the default one if its setting is invalid. -/
def dialPort (endpoint : Endpoint) : UInt16 :=
  match endpoint.tunnelPort with
  | .ok port => port
  | .error _ => defaultTunnelPort

def routeVia (endpoint : Endpoint) (ip : Ip) (nat : Bool) (selected : Option Role) : Route :=
  ⟨endpoint, ip, endpoint.dialPort, nat, selected⟩

def ip? (endpoint : Endpoint) (family : Family) : Role → Option Ip
  | .viaPublic => endpoint.publicIp? family
  | .viaPrivate => endpoint.privateIp? family

/-- The route of a remote that does not answer: its public address, or else its private one, with
a NAT assumed. -/
def fallbackRoute? (endpoint : Endpoint) (family : Family) : Option Route :=
  ((endpoint.publicIp? family).or (endpoint.privateIp? family)).map fun ip =>
    endpoint.routeVia ip true none

end Endpoint
end NatReach
