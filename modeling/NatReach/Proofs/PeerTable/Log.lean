import NatReach.Discovery.PeerTable

namespace NatReach

namespace PeerTable

/-- What can be asked of a table. A tick may come to the remotes in any order. -/
inductive Operation where
  | add (endpoint : Endpoint) (now : Nat)
  | remove (id : String)
  | plan (id : String) (now : Nat)
  | tick (walk : List String) (now : Nat)
  | respond (id : String) (number : UInt32) (source : Ip) (nat : Bool) (now : Nat)

inductive Event where
  | tracked (endpoint : Endpoint)
  | dropped (id : String)
  | asked (order : ProbeOrder)
  | gaveUp (route : Route)
  | answered (id : String) (number : UInt32) (nat : Bool) (route : Option Route)
deriving DecidableEq

end PeerTable

open PeerTable

def Admission.events (endpoint : Endpoint) : Admission → List Event
  | added | replaced => [.tracked endpoint]
  | unchanged => []
  | legacy _ => [.dropped endpoint.cable]

def Round.events (round : Round) : List Event :=
  round.orders.map .asked ++ round.fallbacks.map .gaveUp

namespace PeerTable

def Event.order? : Event → Option ProbeOrder
  | asked order => some order
  | _ => none

/-- The requests that were ordered, the first one first. -/
def issued (log : List Event) : List ProbeOrder := log.filterMap Event.order?

def perform (table : PeerTable) : Operation → List Event × PeerTable
  | .add endpoint now =>
    let (admission, table) := table.add endpoint now
    (admission.events endpoint, table)
  | .remove id => ([.dropped id], (table.remove id).2)
  | .plan id now =>
    let (orders, table) := table.plan id now
    (orders.map .asked, table)
  | .tick walk now =>
    let (round, table) := tickInOrder now walk table
    (round.events, table)
  | .respond id number source nat now =>
    match table.respond id number source nat now with
    | (.ok route, table) => ([.answered id number nat route], table)
    | (.error _, table) => ([], table)

def run : List Operation → PeerTable → List Event × PeerTable
  | [], table => ([], table)
  | operation :: rest, table =>
    let (events, table) := table.perform operation
    let (later, table) := run rest table
    (events ++ later, table)

@[simp] theorem issued_append (front back : List Event) :
    issued (front ++ back) = issued front ++ issued back := List.filterMap_append

@[simp] theorem issued_asked (orders : List ProbeOrder) :
    issued (orders.map .asked) = orders := by
  induction orders with
  | nil => rfl
  | cons order rest ih => simpa [issued, Event.order?] using ih

@[simp] theorem issued_gaveUp (routes : List Route) :
    issued (routes.map .gaveUp) = [] := by
  simp [issued, Event.order?]

theorem run_append (front back : List Operation) (table : PeerTable) :
    run (front ++ back) table =
      ((run front table).1 ++ (run back (run front table).2).1,
        (run back (run front table).2).2) := by
  induction front generalizing table with
  | nil => rfl
  | cons operation rest ih => simp [run, ih]

theorem run_singleton (operation : Operation) (table : PeerTable) :
    run [operation] table = table.perform operation := by
  simp [run]

theorem run_pair (first second : Operation) (table : PeerTable) :
    run [first, second] table =
      ((table.perform first).1 ++ ((table.perform first).2.perform second).1,
        ((table.perform first).2.perform second).2) := by
  simp [run]

end PeerTable
end NatReach
