import NatReach.Text.Numeral

namespace NatReach.Octets

def toHex (octets : List UInt8) : String :=
  String.ofList (octets.flatMap fun octet => Numeral.paddedHex 2 octet.toNat)

def ofHexChars? : List Char → Option (List UInt8)
  | [] => some []
  | high :: low :: rest => do
    let high ← Numeral.hexDigit? high
    let low ← Numeral.hexDigit? low
    let octets ← ofHexChars? rest
    return UInt8.ofNat (16 * high + low) :: octets
  | [_] => none

def ofHex? (text : String) : Option (List UInt8) := ofHexChars? text.toList

end NatReach.Octets
