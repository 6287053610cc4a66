import NatReach.Config.Form
import NatReach.Engine.Loop
import Std.Async.Timer
import Std.Async.UDP

namespace NatReach.Service
open Std.Async (Async Selectable Selector UDP.Socket)

/-! ## Addresses of the socket library -/

def ofIpv6 (address : Ipv6) : Std.Net.IPv6Addr :=
  let groups := address.groups
  .ofParts (groups.getD 0 0) (groups.getD 1 0) (groups.getD 2 0) (groups.getD 3 0)
    (groups.getD 4 0) (groups.getD 5 0) (groups.getD 6 0) (groups.getD 7 0)

def ofSocketAddress : SocketAddress → Std.Net.SocketAddress
  | .v4 address port =>
    .v4 ⟨.ofParts address.first address.second address.third address.fourth, port⟩
  | .v6 address _ port => .v6 ⟨ofIpv6 address, port⟩

def toSocketAddress : Std.Net.SocketAddress → SocketAddress
  | .v4 address =>
    let octets := address.addr.octets
    .v4 ⟨octets[0], octets[1], octets[2], octets[3]⟩ address.port
  | .v6 address => .v6 ⟨address.addr.segments.toList, by simp⟩ 0 address.port

/-! ## Sources -/

/-- The port that is named when the system is asked for a route. Nothing is sent to it. -/
def routeProbePort : UInt16 := 9

def isUnspecified : Ip → Bool
  | .v4 address => address = ⟨0, 0, 0, 0⟩
  | .v6 address => address.groups.all (· == 0)

/-- The address from which the system would send to another one. -/
def sourceFor (ip : Ip) : IO (Option Ip) := do
  try
    let socket ← UDP.Socket.mk
    socket.connect (ofSocketAddress (.ofIp ip routeProbePort))
    let source := (toSocketAddress (← socket.getSockName)).ip
    return if isUnspecified source then none else some source
  catch _ => return none

def sourcesFor (family : Family) (remotes : List Endpoint) : IO (List (Ip × Option Ip)) := do
  let ips := remotes.flatMap fun remote =>
    (remote.publicIp? family).toList ++ (remote.privateIp? family).toList
  ips.mapM fun ip => return (ip, ← sourceFor ip)

def lookUp (sources : List (Ip × Option Ip)) (ip : Ip) : Option Ip :=
  (sources.find? fun entry => entry.1 == ip).bind Prod.snd

/-! ## The loop -/

def routeLine (route : Route) : String :=
  route.endpoint.cable ++ " " ++ route.ip.text ++ ":" ++ toString route.port.toNat ++ " nat=" ++
    (if route.nat then "true" else "false") ++ " via=" ++
    (route.selected.map Role.name).getD "fallback"

/-- Sends what a step of the loop wants sent, and prints the routes that it hands out. What the
network does with a datagram makes no difference to the loop. -/
def carryOut (socket : UDP.Socket) (report : LoopReport) : Async Unit := do
  for route in report.routes do
    IO.println (routeLine route)
    (← IO.getStdout).flush
  for attempt in report.attempts do
    let destination := attempt.outgoing.destination
    try
      socket.send (ByteArray.mk attempt.datagram.toArray) (some (ofSocketAddress destination))
    catch error =>
      IO.eprintln ("cannot send to " ++ destination.text ++ ": " ++ toString error)

def network : Network := fun _ datagram => .sent datagram.length

def receive (socket : UDP.Socket) (wait : Nat) : Async (Option LoopInput) := do
  try
    Selectable.one #[
      .case (socket.recvSelector (UInt64.ofNat Loop.bufferSize)) fun (octets, source) =>
        return source.map fun source => .received octets.toList (toSocketAddress source),
      .case (← Selector.sleep (.ofNat wait)) fun _ => return none]
  catch _ => return some .receiveFailed

def run (config : Config) (home : Endpoint) (bind : SocketAddress) : Async Unit := do
  let settings := config.discovery
  let socket ← UDP.Socket.mk
  socket.bind (ofSocketAddress bind)
  let port := (toSocketAddress (← socket.getSockName)).port
  let firstNumber := UInt32.ofNat (← IO.rand 0 4294967295)
  let started ← IO.monoMsNow
  let engine : Engine := {
    home
    port
    sourceFor := lookUp (← sourcesFor settings.family config.remotes)
    table := .new settings.pacing settings.family firstNumber }
  let first := Loop.start engine settings.tickMillis network
  carryOut socket first
  let mut loop := first.loop
  for remote in config.remotes do
    let report := loop.step network (.added remote)
    carryOut socket report
    loop := report.loop
  repeat
    let input ← receive socket (loop.nextTick - loop.now)
    let sources ← sourcesFor settings.family config.remotes
    loop := { loop with engine := { loop.engine with sourceFor := lookUp sources } }
    let passed := (← IO.monoMsNow) - started - loop.now
    for input in LoopInput.passed passed :: input.toList do
      let report := loop.step network input
      carryOut socket report
      loop := report.loop

end NatReach.Service
