import NatReach.Message.Form

namespace NatReach

inductive DatagramError where
  | tooLarge (size : Nat)
  | truncated (size : Nat)
  | wrongMagic (found : Nat)
  | wrongVersion (found : UInt8)
  | malformedBody
deriving DecidableEq, Repr

namespace Datagram

def maxSize : Nat := 2048

/-- The name of the protocol: `NATP`. -/
def magic : List UInt8 := [0x4E, 0x41, 0x54, 0x50]

def version : UInt8 := 1

def header : List UInt8 := magic ++ [version]

def number (octets : List UInt8) : Nat := Numeral.ofDigits 256 (octets.map UInt8.toNat)

end Datagram

def DatagramError.message : DatagramError → String
  | tooLarge size =>
    "datagram too large: " ++ toString size ++ " bytes (max " ++ toString Datagram.maxSize ++ ")"
  | truncated size => "datagram truncated: " ++ toString size ++ " bytes"
  | wrongMagic found =>
    let shown := fun magic => "0x" ++ String.ofList (Numeral.paddedHex 8 magic)
    "invalid magic: expected " ++ shown (Datagram.number Datagram.magic) ++ ", got " ++ shown found
  | wrongVersion found =>
    let ours := toString Datagram.version.toNat
    "version mismatch: peer sent " ++ toString found.toNat ++ ", we support " ++ ours ++ "-" ++ ours
  | malformedBody => "malformed message"

namespace Datagram

def body (message : Message) : List UInt8 := Utf8.encode (Json.render message.document)

def encode (message : Message) : Except DatagramError (List UInt8) :=
  let datagram := header ++ body message
  if datagram.length ≤ maxSize then .ok datagram else .error (.tooLarge datagram.length)

def decodeBody (octets : List UInt8) : Except DatagramError Message :=
  match (Json.ofOctets? octets).bind Message.ofDocument? with
  | some message => .ok message
  | none => .error .malformedBody

def decode (datagram : List UInt8) : Except DatagramError Message :=
  if maxSize < datagram.length then .error (.tooLarge datagram.length)
  else
    match datagram with
    | a :: b :: c :: d :: peerVersion :: octets =>
      if [a, b, c, d] ≠ magic then .error (.wrongMagic (number [a, b, c, d]))
      else if peerVersion ≠ version then .error (.wrongVersion peerVersion)
      else decodeBody octets
    | _ => .error (.truncated datagram.length)

/-! ## Buffers

A buffer collects datagrams to be sent, or holds one that was received. -/

def encodeInto (buffer : List UInt8) (message : Message) : Except DatagramError (List UInt8) :=
  (encode message).map (buffer ++ ·)

/-- Takes the message out of a buffer, if there is anything in it. The buffer is empty afterwards,
whatever was in it. -/
def decodeFrom (buffer : List UInt8) : Except DatagramError (Option Message) :=
  if buffer.isEmpty then .ok none else (decode buffer).map some

inductive BufferStep where
  | fill (octets : List UInt8)
  | encode (message : Message)
  | decode

def act (buffer : List UInt8) : BufferStep → Except DatagramError (Option Message) × List UInt8
  | .fill octets => (.ok none, buffer ++ octets)
  | .encode message =>
    match encodeInto buffer message with
    | .ok filled => (.ok none, filled)
    | .error reason => (.error reason, buffer)
  | .decode => (decodeFrom buffer, [])

def bufferAfter (steps : List BufferStep) (buffer : List UInt8) : List UInt8 :=
  steps.foldl (fun buffer step => (act buffer step).2) buffer

theorem encode_eq_ok_iff {message : Message} {datagram : List UInt8} :
    encode message = .ok datagram ↔
      datagram = header ++ body message ∧ datagram.length ≤ maxSize := by
  unfold encode
  dsimp only
  split
  · rename_i fits
    constructor
    · intro h
      have h := Except.ok.inj h
      exact ⟨h.symm, h ▸ fits⟩
    · rintro ⟨rfl, _⟩
      rfl
  · rename_i tooLong
    constructor
    · intro h
      cases h
    · rintro ⟨rfl, fits⟩
      exact absurd fits tooLong

end Datagram
end NatReach
