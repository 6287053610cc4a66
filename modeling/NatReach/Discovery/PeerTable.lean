import NatReach.Discovery.Remote
import NatReach.OrderedMap

/-!
# The table of remotes

All remotes under discovery, by the names of their endpoints, and the number of the next request.
The table does no sending and reads no clock: it says which requests must go out and which routes
are to be handed out, and it is told the time.

No two outstanding requests have one number. Every request is on record in the table before anybody
can send it, so no answer can come too early.
-/
namespace NatReach

structure PeerTable where
  remotes : OrderedMap Remote := .empty
  pacing : Pacing
  family : Family
  /-- The number of the next request, unless it is still in use. -/
  nextNumber : UInt32

inductive Admission where
  | added
  | unchanged
  | replaced
  /-- It does not answer probes; this is the route to it, if it has any address. -/
  | legacy (route : Option Route)
deriving DecidableEq

structure Round where
  orders : List ProbeOrder := []
  fallbacks : List Route := []
deriving DecidableEq

namespace PeerTable

def new (pacing : Pacing) (family : Family) (firstNumber : UInt32) : PeerTable :=
  { pacing, family, nextNumber := firstNumber }

def get? (table : PeerTable) (id : String) : Option Remote := table.remotes.get? id

/-! ## Numbers -/

def numbersInUse (table : PeerTable) : List UInt32 :=
  table.remotes.values.flatMap fun remote =>
    remote.viaPublic.lastRequest.toList ++ remote.viaPrivate.lastRequest.toList

/-- The first number from `number` on that is not used. It is found before the numbers in use run
out, so looking at one number for each of them is enough. -/
def firstUnused (used : List UInt32) : (looks : Nat) → (number : UInt32) → UInt32
  | 0, number => number
  | looks + 1, number =>
    if used.contains number then firstUnused used looks (number + 1) else number

def freshNumber (table : PeerTable) : UInt32 :=
  firstUnused table.numbersInUse table.numbersInUse.length table.nextNumber

/-- Takes the next number. It is spent, whatever becomes of the request. -/
def allocate (table : PeerTable) : UInt32 × PeerTable :=
  (table.freshNumber, { table with nextNumber := table.freshNumber + 1 })

def put (table : PeerTable) (id : String) (remote : Remote) : PeerTable :=
  { table with remotes := table.remotes.insert id remote }

/-! ## The directory -/

/-- Takes an endpoint under discovery, anew if it is not as it was. One that does not answer probes
is not tracked. -/
def add (table : PeerTable) (endpoint : Endpoint) (now : Nat) : Admission × PeerTable :=
  match endpoint.discoveryPort with
  | .ok (some port) =>
    let tracked := table.put endpoint.cable { endpoint, family := table.family, port, started := now }
    match table.get? endpoint.cable with
    | none => (.added, tracked)
    | some remote =>
      if remote.endpoint = endpoint then (.unchanged, table) else (.replaced, tracked)
  | _ =>
    (.legacy (endpoint.fallbackRoute? table.family),
      { table with remotes := table.remotes.erase endpoint.cable })

def remove (table : PeerTable) (id : String) : Option Remote × PeerTable :=
  (table.get? id, { table with remotes := table.remotes.erase id })

/-! ## Asking -/

/-- Asks at the address of a role, if there is one. A number is taken in any case. -/
def planRole (table : PeerTable) (id : String) (now : Nat) (role : Role) :
    Option ProbeOrder × PeerTable :=
  let (number, table) := table.allocate
  match table.get? id with
  | none => (none, table)
  | some remote =>
    let (order, remote) := remote.ask table.pacing now number role
    (order, table.put id remote)

def inRoles (step : PeerTable → Role → Option ProbeOrder × PeerTable) :
    List Role → PeerTable → List ProbeOrder × PeerTable
  | [], table => ([], table)
  | role :: rest, table =>
    let (order, table) := step table role
    let (orders, table) := inRoles step rest table
    (order.toList ++ orders, table)

def plan (table : PeerTable) (id : String) (now : Nat) : List ProbeOrder × PeerTable :=
  match table.get? id with
  | none => ([], table)
  | some remote => inRoles (fun table role => table.planRole id now role) remote.roles table

def tickRole (table : PeerTable) (id : String) (now : Nat) (role : Role) :
    Option ProbeOrder × PeerTable :=
  match table.get? id with
  | none => (none, table)
  | some remote =>
    match remote.turn table.pacing now role with
    | .rest => (none, table)
    | .ask => table.planRole id now role
    | .keep nat => (none, table.put id (remote.setProbe role ((remote.probe role).resolve nat now)))
    | .giveUp => (none, table.put id (remote.setProbe role (remote.probe role).exhaust))

def giveUp (table : PeerTable) (id : String) : Option Route × PeerTable :=
  match table.get? id with
  | none => (none, table)
  | some remote =>
    let (route, remote) := remote.giveUp
    (route, table.put id remote)

def tickRemote (table : PeerTable) (now : Nat) (id : String) : Round × PeerTable :=
  let (orders, table) := inRoles (fun table role => table.tickRole id now role) Role.inOrder table
  let (route, table) := table.giveUp id
  (⟨orders, route.toList⟩, table)

/-- Does what is to be done about some remotes, in the given order. -/
def tickInOrder (now : Nat) : List String → PeerTable → Round × PeerTable
  | [], table => ({}, table)
  | id :: rest, table =>
    let (first, table) := table.tickRemote now id
    let (others, table) := tickInOrder now rest table
    (⟨first.orders ++ others.orders, first.fallbacks ++ others.fallbacks⟩, table)

def tick (table : PeerTable) (now : Nat) : Round × PeerTable :=
  tickInOrder now table.remotes.keys table

/-! ## Answers -/

def respond (table : PeerTable) (id : String) (number : UInt32) (source : Ip) (nat : Bool)
    (now : Nat) : Except ResponseRejection (Option Route) × PeerTable :=
  match table.get? id with
  | none => (.error (.unknownEndpoint id), table)
  | some remote =>
    let (result, remote) := remote.respond number source nat now
    (result, table.put id remote)

end PeerTable
end NatReach
