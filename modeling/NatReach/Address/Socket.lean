import NatReach.Address.Spelling

namespace NatReach

inductive SocketAddress where
  | v4 (address : Ipv4) (port : UInt16)
  | v6 (address : Ipv6) (scope : UInt32) (port : UInt16)
deriving DecidableEq, Repr

namespace SocketAddress

def ofIp : Ip → UInt16 → SocketAddress
  | .v4 address, port => v4 address port
  | .v6 address, port => v6 address 0 port

def ip : SocketAddress → Ip
  | v4 address _ => .v4 address
  | v6 address _ _ => .v6 address

def port : SocketAddress → UInt16
  | v4 _ port => port
  | v6 _ _ port => port

def text : SocketAddress → String
  | v4 address port => address.text ++ ":" ++ toString port.toNat
  | v6 address scope port =>
    let within := if scope = 0 then "" else "%" ++ toString scope.toNat
    "[" ++ address.text ++ within ++ "]:" ++ toString port.toNat

def readBelow (limit : Nat) (cs : List Char) : Option (Nat × List Char) := do
  let value ← Numeral.readDecimal? (cs.takeWhile Numeral.isDecimal)
  if value < limit then return (value, cs.dropWhile Numeral.isDecimal) else none

def readPort (cs : List Char) : Option (UInt16 × List Char) := do
  let (value, rest) ← (Spelling.skip ':' cs).bind (readBelow 65536)
  return (UInt16.ofNat value, rest)

/-- A percent sign and a scope, or nothing for the scope zero. -/
def readScope (cs : List Char) : UInt32 × List Char :=
  match (Spelling.skip '%' cs).bind (readBelow 4294967296) with
  | some (value, rest) => (UInt32.ofNat value, rest)
  | none => (0, cs)

def readV4 (cs : List Char) : Option (SocketAddress × List Char) := do
  let (address, cs) ← Spelling.readIpv4 cs
  let (port, cs) ← readPort cs
  return (v4 address port, cs)

def readV6 (cs : List Char) : Option (SocketAddress × List Char) := do
  let (address, cs) ← (Spelling.skip '[' cs).bind Spelling.readIpv6
  let (scope, cs) := readScope cs
  let (port, cs) ← (Spelling.skip ']' cs).bind readPort
  return (v6 address scope port, cs)

def ofText? (text : String) : Option SocketAddress :=
  let cs := text.toList
  match readV4 cs with
  | some (address, rest) => if rest.isEmpty then some address else none
  | none => Spelling.whole (readV6 cs)

@[simp] theorem ip_ofIp (ip : Ip) (port : UInt16) : (ofIp ip port).ip = ip := by
  cases ip <;> rfl

@[simp] theorem port_ofIp (ip : Ip) (port : UInt16) : (ofIp ip port).port = port := by
  cases ip <;> rfl

end SocketAddress
end NatReach
