namespace NatReach

inductive Family where
  | v4
  | v6
deriving DecidableEq, Repr, Inhabited

namespace Family

def name : Family → String
  | v4 => "IPv4"
  | v6 => "IPv6"

def key : Family → String
  | v4 => "v4"
  | v6 => "v6"

/-- The family of a name in documents; there are two names for each. -/
def ofKey? (key : String) : Option Family :=
  if key = "v4" || key = "ipv4" then some v4
  else if key = "v6" || key = "ipv6" then some v6
  else none

theorem ofKey?_key (family : Family) : ofKey? family.key = some family := by
  cases family <;> decide

end Family

structure Ipv4 where
  first : UInt8
  second : UInt8
  third : UInt8
  fourth : UInt8
deriving DecidableEq, Repr, Inhabited

def groupOf (high low : UInt8) : UInt16 := UInt16.ofNat (256 * high.toNat + low.toNat)

def highOctet (group : UInt16) : UInt8 := UInt8.ofNat (group.toNat / 256)

def lowOctet (group : UInt16) : UInt8 := UInt8.ofNat (group.toNat % 256)

structure Ipv6 where
  groups : List UInt16
  length_groups : groups.length = 8
deriving DecidableEq, Repr

def mappedGroups : List UInt16 := [0, 0, 0, 0, 0, 0xFFFF]

def Ipv4.mapped (address : Ipv4) : Ipv6 :=
  ⟨mappedGroups ++
    [groupOf address.first address.second, groupOf address.third address.fourth], rfl⟩

/-- The IPv4 address that an IPv6 address stands for, if it stands for one. -/
def Ipv6.mapped? (address : Ipv6) : Option Ipv4 :=
  match address.groups.drop 6 with
  | [high, low] =>
    if address.groups.take 6 = mappedGroups then
      some ⟨highOctet high, lowOctet high, highOctet low, lowOctet low⟩
    else none
  | _ => none

inductive Ip where
  | v4 (address : Ipv4)
  | v6 (address : Ipv6)
deriving DecidableEq, Repr

namespace Ip

def family : Ip → Family
  | v4 _ => .v4
  | v6 _ => .v6

/-- Turns an IPv6 address that stands for an IPv4 address into it. -/
def canonical : Ip → Ip
  | v4 address => v4 address
  | v6 address => (address.mapped?.map v4).getD (v6 address)

/-! ## One canonical form -/

theorem highOctet_groupOf (high low : UInt8) : highOctet (groupOf high low) = high := by
  apply UInt8.toNat_inj.1
  have := high.toNat_lt
  have := low.toNat_lt
  simp only [highOctet, groupOf, UInt16.toNat_ofNat', UInt8.toNat_ofNat']
  omega

theorem lowOctet_groupOf (high low : UInt8) : lowOctet (groupOf high low) = low := by
  apply UInt8.toNat_inj.1
  have := high.toNat_lt
  have := low.toNat_lt
  simp only [lowOctet, groupOf, UInt16.toNat_ofNat', UInt8.toNat_ofNat']
  omega

theorem mapped?_mapped (address : Ipv4) : address.mapped.mapped? = some address := by
  simp [Ipv4.mapped, Ipv6.mapped?, mappedGroups, highOctet_groupOf, lowOctet_groupOf]

theorem canonical_mapped (address : Ipv4) : (v6 address.mapped).canonical = v4 address := by
  simp [canonical, mapped?_mapped]

theorem canonical_canonical (ip : Ip) : ip.canonical.canonical = ip.canonical := by
  cases ip with
  | v4 address => rfl
  | v6 address =>
      cases h : address.mapped? with
      | none => simp [canonical, h]
      | some inner => simp [canonical, h]

end Ip
end NatReach
