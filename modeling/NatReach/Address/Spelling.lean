import NatReach.Address.Basic
import NatReach.Text.Numeral

namespace NatReach

/-! ## Writing -/

def Ipv4.text (address : Ipv4) : String :=
  ".".intercalate ([address.first, address.second, address.third, address.fourth].map
    fun octet => toString octet.toNat)

namespace Ipv6

def zerosAt (groups : List UInt16) (position : Nat) : Nat :=
  ((groups.drop position).takeWhile (· == 0)).length

/-- Where the first longest run of zero groups stands, and its length. -/
def longestZeros (groups : List UInt16) : Nat × Nat :=
  (List.range groups.length).foldl
    (fun best position =>
      if best.2 < zerosAt groups position then (position, zerosAt groups position) else best)
    (0, 0)

def joined (groups : List UInt16) : String :=
  ":".intercalate (groups.map fun group => String.ofList (Numeral.hex group.toNat))

def text (address : Ipv6) : String :=
  match address.mapped? with
  | some inner => "::ffff:" ++ inner.text
  | none =>
    let (start, length) := longestZeros address.groups
    if 2 ≤ length then
      joined (address.groups.take start) ++ "::" ++ joined (address.groups.drop (start + length))
    else joined address.groups

end Ipv6

def Ip.text : Ip → String
  | .v4 address => address.text
  | .v6 address => address.text

/-! ## Reading

Each reader takes what it reads off the front of a text and gives the rest. -/

namespace Spelling

def skip (c : Char) : List Char → Option (List Char)
  | [] => none
  | head :: rest => if head = c then some rest else none

def readOctet (cs : List Char) : Option (UInt8 × List Char) := do
  let digits := cs.takeWhile Numeral.isDecimal
  let value ← Numeral.readDecimal? digits
  if 3 < digits.length || (1 < digits.length && digits.head? == some '0') || 255 < value then none
  else return (UInt8.ofNat value, cs.dropWhile Numeral.isDecimal)

def readIpv4 (cs : List Char) : Option (Ipv4 × List Char) := do
  let (first, cs) ← readOctet cs
  let (second, cs) ← (skip '.' cs).bind readOctet
  let (third, cs) ← (skip '.' cs).bind readOctet
  let (fourth, cs) ← (skip '.' cs).bind readOctet
  return (⟨first, second, third, fourth⟩, cs)

def isHex (c : Char) : Bool := (Numeral.hexDigit? c).isSome

def readGroup (cs : List Char) : Option (UInt16 × List Char) := do
  let digits ← (cs.takeWhile isHex).mapM Numeral.hexDigit?
  if digits.isEmpty || 4 < digits.length then none
  else return (UInt16.ofNat (Numeral.ofDigits 16 digits), cs.dropWhile isHex)

/-- As many groups as stand at the front, up to `slots`. An IPv4 address fills two slots and ends
the groups; the flag says whether one did. All groups but the first of a text follow a colon. -/
def readGroups : (slots : Nat) → (following : Bool) → List Char → List UInt16 × Bool × List Char
  | 0, _, cs => ([], false, cs)
  | slots + 1, following, cs =>
    match if following then skip ':' cs else some cs with
    | none => ([], false, cs)
    | some body =>
      match if slots = 0 then none else readIpv4 body with
      | some (inner, rest) =>
        ([groupOf inner.first inner.second, groupOf inner.third inner.fourth], true, rest)
      | none =>
        match readGroup body with
        | none => ([], false, cs)
        | some (group, rest) =>
          let (groups, dotted, rest) := readGroups slots true rest
          (group :: groups, dotted, rest)

def ofGroups? (groups : List UInt16) : Option Ipv6 :=
  if full : groups.length = 8 then some ⟨groups, full⟩ else none

def readIpv6 (cs : List Char) : Option (Ipv6 × List Char) :=
  let (front, dotted, rest) := readGroups 8 false cs
  if front.length = 8 then (ofGroups? front).map (·, rest)
  else if dotted then none
  else
    match rest with
    | ':' :: ':' :: rest =>
      let (back, _, rest) := readGroups (7 - front.length) false rest
      let zeros := List.replicate (8 - front.length - back.length) 0
      (ofGroups? (front ++ zeros ++ back)).map (·, rest)
    | _ => none

def whole {α : Type} : Option (α × List Char) → Option α
  | some (value, []) => some value
  | _ => none

end Spelling

def Ip.ofText? (text : String) : Option Ip :=
  let cs := text.toList
  match Spelling.readIpv4 cs with
  | some (address, rest) => if rest.isEmpty then some (.v4 address) else none
  | none => (Spelling.whole (Spelling.readIpv6 cs)).map .v6

end NatReach
