namespace NatReach.Numeral

def decimalDigit? (c : Char) : Option Nat :=
  if '0' ≤ c ∧ c ≤ '9' then some (c.toNat - '0'.toNat) else none

def hexDigit? (c : Char) : Option Nat :=
  if '0' ≤ c ∧ c ≤ '9' then some (c.toNat - '0'.toNat)
  else if 'a' ≤ c ∧ c ≤ 'f' then some (c.toNat - 'a'.toNat + 10)
  else if 'A' ≤ c ∧ c ≤ 'F' then some (c.toNat - 'A'.toNat + 10)
  else none

def isDecimal (c : Char) : Bool := (decimalDigit? c).isSome

def ofDigits (base : Nat) (digits : List Nat) : Nat :=
  digits.foldl (fun number digit => base * number + digit) 0

/-- The number that a non-empty run of decimal digits denotes. Leading zeros are fine. -/
def readDecimal? (cs : List Char) : Option Nat :=
  if cs.isEmpty then none else (cs.mapM decimalDigit?).map (ofDigits 10)

def hex (n : Nat) : List Char := Nat.toDigits 16 n

def paddedHex (width : Nat) (n : Nat) : List Char :=
  let digits := hex n
  List.replicate (width - digits.length) '0' ++ digits

theorem ofDigits_append (base : Nat) (front back : List Nat) :
    ofDigits base (front ++ back) = back.foldl (fun n d => base * n + d) (ofDigits base front) := by
  simp [ofDigits]

end NatReach.Numeral
