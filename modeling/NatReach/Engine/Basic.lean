import NatReach.Endpoint.Edit
import NatReach.Engine.Transport

/-!
# The engine

The engine of one gateway probes the endpoints of other clusters, answers their probes, and hands
out the routes that it finds.

Every call has two parts. First, at one stroke, the call reads and changes the engine, and settles
which messages are to be sent and which routes are handed out. Then the messages are sent. What the
network does with them changes nothing about the engine, only what the call reports.
-/
namespace NatReach

structure Engine where
  home : Endpoint
  port : UInt16
  /-- The address from which it believes to reach another address. -/
  sourceFor : Ip → Option Ip
  table : PeerTable
  /-- Whether anybody takes the routes. -/
  listening : Bool := true

inductive Call where
  | add (endpoint : Endpoint)
  | remove (id : String)
  | check (id : String)
  | tick
  | receive (datagram : List UInt8) (source : SocketAddress)

structure Stroke where
  engine : Engine
  routes : List Route := []
  outgoing : List Outgoing := []
  error : Option EngineError := none

structure Report where
  engine : Engine
  routes : List Route
  attempts : List Attempt
  error : Option EngineError

namespace Engine

def publish (engine : Engine) (routes : List Route) : List Route :=
  if engine.listening then routes else []

def request (engine : Engine) (order : ProbeOrder) : Request where
  number := order.number
  sender := some engine.home.identity
  receiver := some order.receiver
  source := some ⟨((engine.sourceFor order.destination.ip).map Ip.text).getD "", engine.port⟩
  destination := some (.ofIp order.destination.ip order.destination.port)

def outgoing (engine : Engine) (order : ProbeOrder) : Outgoing :=
  ⟨.request (engine.request order), order.destination⟩

def check (engine : Engine) (id : String) (now : Nat) : Stroke :=
  let (orders, table) := engine.table.plan id now
  { engine := { engine with table }, outgoing := orders.map engine.outgoing }

def add (engine : Engine) (endpoint : Endpoint) (now : Nat) : Stroke :=
  if endpoint.cluster = engine.home.cluster then { engine }
  else
    let (admission, table) := engine.table.add endpoint now
    let engine := { engine with table }
    match admission with
    | .added | .replaced => engine.check endpoint.cable now
    | .unchanged => { engine }
    | .legacy route => { engine, routes := engine.publish route.toList }

def remove (engine : Engine) (id : String) : Stroke :=
  { engine := { engine with table := (engine.table.remove id).2 } }

def tick (engine : Engine) (now : Nat) : Stroke :=
  let (round, table) := engine.table.tick now
  { engine := { engine with table }
    routes := engine.publish round.fallbacks
    outgoing := round.orders.map engine.outgoing }

def takeRequest (engine : Engine) (request : Request) (source : SocketAddress) : Stroke :=
  { engine
    outgoing := [⟨.response (engine.home.answer request source engine.table.family), source⟩] }

/-- The name of the sender and the verdict of a response that can be used: all its parts are there,
and it reports a success. -/
def usable (response : Response) : Except EngineError (String × Bool) := do
  let some sender := response.sender | throw (.incomplete "sender")
  if response.receiver.isNone then throw (.incomplete "receiver")
  if response.observed.isNone then throw (.incomplete "received_src")
  if response.verdict.isSuccess then return (sender.endpoint, response.verdict = .altered)
  else throw (.refused sender.endpoint response.verdict)

def respond (engine : Engine) (response : Response) (source : SocketAddress) (now : Nat) :
    Except EngineError (Option Route) × PeerTable :=
  match usable response with
  | .error error => (.error error, engine.table)
  | .ok (sender, nat) =>
    let (result, table) := engine.table.respond sender response.number source.ip.canonical nat now
    (result.mapError .rejected, table)

def takeResponse (engine : Engine) (response : Response) (source : SocketAddress) (now : Nat) :
    Stroke :=
  let (result, table) := engine.respond response source now
  let engine := { engine with table }
  match result with
  | .ok route => { engine, routes := engine.publish route.toList }
  | .error error => { engine, error := some error }

def receive (engine : Engine) (datagram : List UInt8) (source : SocketAddress) (now : Nat) :
    Stroke :=
  match Datagram.decode datagram with
  | .ok (.request request) => engine.takeRequest request source
  | .ok (.response response) => engine.takeResponse response source now
  | .error error => { engine, error := some (.datagram error) }

def stroke (engine : Engine) (now : Nat) : Call → Stroke
  | .add endpoint => engine.add endpoint now
  | .remove id => engine.remove id
  | .check id => engine.check id now
  | .tick => engine.tick now
  | .receive datagram source => engine.receive datagram source now

/-- Whether a call reports what failed. Nobody waits for a tick. -/
def reportsErrors : Call → Bool
  | .tick => false
  | _ => true

def run (engine : Engine) (network : Network) (now : Nat) (call : Call) : Report :=
  let stroke := engine.stroke now call
  let (attempts, errors) := sendAll network 0 stroke.outgoing
  { engine := stroke.engine
    routes := stroke.routes
    attempts
    error := if reportsErrors call then stroke.error.or errors.head? else none }

def revise (engine : Engine) (edits : List Edit) : Engine × Bool :=
  let (home, changed) := engine.home.revise edits
  ({ engine with home }, changed)

end Engine
end NatReach
