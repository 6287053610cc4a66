import NatReach.Engine.Answer
import NatReach.Discovery.PeerTable
import NatReach.Message.Datagram

namespace NatReach

inductive Delivery where
  | sent (count : Nat)
  | failed (reason : String)
deriving DecidableEq, Repr

/-- The network, as it treats one batch of datagrams: what it does with the one at a position. -/
abbrev Network := (position : Nat) → (datagram : List UInt8) → Delivery

inductive EngineError where
  | datagram (error : DatagramError)
  | rejected (reason : ResponseRejection)
  | incomplete (part : String)
  | refused (id : String) (verdict : Verdict)
  | shortWrite (sent expected : Nat)
  | network (reason : String)
deriving DecidableEq

def EngineError.message : EngineError → String
  | datagram error => "protocol error: " ++ error.message
  | rejected reason => reason.message
  | incomplete part => "malformed response: missing " ++ part
  | refused id verdict =>
    "remote endpoint " ++ Text.quote id ++ " responded with " ++ verdict.name
  | shortWrite sent expected =>
    "short write: sent " ++ toString sent ++ " of " ++ toString expected ++ " bytes"
  | network reason => "transport error: " ++ reason

structure Outgoing where
  message : Message
  destination : SocketAddress
deriving DecidableEq

structure Attempt where
  outgoing : Outgoing
  datagram : List UInt8
  delivery : Delivery
deriving DecidableEq

namespace Attempt

def error? (attempt : Attempt) : Option EngineError :=
  match attempt.delivery with
  | .sent count =>
    if count = attempt.datagram.length then none
    else some (.shortWrite count attempt.datagram.length)
  | .failed reason => some (.network reason)

end Attempt

/-- Hands messages to the network in order; one that fits in no datagram is left out. The position
is that of the first datagram in its batch. Gives the attempts and the errors, both in order. -/
def sendAll (network : Network) : (position : Nat) → List Outgoing →
    List Attempt × List EngineError
  | _, [] => ([], [])
  | position, outgoing :: rest =>
    match Datagram.encode outgoing.message with
    | .error error =>
      let (attempts, errors) := sendAll network position rest
      (attempts, .datagram error :: errors)
    | .ok datagram =>
      let attempt := ⟨outgoing, datagram, network position datagram⟩
      let (attempts, errors) := sendAll network (position + 1) rest
      (attempt :: attempts, attempt.error?.toList ++ errors)

end NatReach
