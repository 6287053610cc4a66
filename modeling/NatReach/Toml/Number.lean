import NatReach.Document.Basic
import NatReach.Toml.Scan

namespace NatReach.Toml

def fitsInt64 (value : Int) : Bool :=
  -9223372036854775808 ≤ value && value ≤ 9223372036854775807

/-! ## Integers -/

/-- Takes a decimal integer off, as it is spelled without underscores. A leading zero stands
alone. -/
def readDecimal : Reader (List Char) := fun cs => do
  let (sign, cs) ← readSign cs
  match cs with
  | '0' :: cs => return (sign ++ ['0'], cs)
  | cs =>
    let (digits, cs) ← readDigits Numeral.isDecimal cs
    return (sign ++ digits, cs)

def ofBase? (base : Nat) (digits : List Char) : Option Nat :=
  (digits.mapM Numeral.hexDigit?).map (Numeral.ofDigits base)

def decimalValue? : List Char → Option Int
  | '-' :: digits => (ofBase? 10 digits).map fun value => -value
  | '+' :: digits => (ofBase? 10 digits).map fun value => value
  | digits => (ofBase? 10 digits).map fun value => value

def isDigitOf (base : Nat) (c : Char) : Bool := (Numeral.hexDigit? c).any (· < base)

def readBased (base : Nat) : Reader Int := fun cs => do
  let (digits, cs) ← readDigits (isDigitOf base) cs
  let value ← ofBase? base digits
  return (value, cs)

def readAnyInteger : Reader Int
  | '0' :: 'x' :: cs => readBased 16 cs
  | '0' :: 'o' :: cs => readBased 8 cs
  | '0' :: 'b' :: cs => readBased 2 cs
  | cs => do
    let (spelled, cs) ← readDecimal cs
    return (← decimalValue? spelled, cs)

def readInteger : Reader Document := fun cs => do
  let (value, cs) ← readAnyInteger cs
  if fitsInt64 value then return (.int value, cs) else none

/-! ## Other numbers -/

def readFraction : Reader (List Char)
  | '.' :: cs => readDigits Numeral.isDecimal cs
  | _ => none

def readExponent : Reader (List Char × List Char)
  | [] => none
  | mark :: cs => do
    if mark = 'e' || mark = 'E' then
      let (sign, cs) ← readSign cs
      let (digits, cs) ← readDigits Numeral.isDecimal cs
      return ((sign, digits), cs)
    else none

/-- Whether `value · 10 ^ exponent` is rounded to a double and not beyond all of them. The bound
lies halfway between the largest double and what the next one would be. -/
def isFinite (value : Nat) (exponent : Int) : Bool :=
  let bound := (Nat.pow 2 54 - 1) * Nat.pow 2 970
  let places := (Nat.toDigits 10 value).length + exponent
  if value = 0 || places < 309 then true
  else if 309 < places then false
  else if 0 ≤ exponent then value * Nat.pow 10 exponent.toNat < bound
  else value < bound * Nat.pow 10 (-exponent).toNat

def isWithinRange (whole fraction : List Char) (exponent : List Char × List Char) : Bool :=
  match whole with
  | '-' :: _ => true
  | _ =>
    let digits := whole.filter Numeral.isDecimal ++ fraction
    match ofBase? 10 digits, decimalValue? (exponent.1 ++ exponent.2) with
    | some value, some power => isFinite value (power - fraction.length)
    | some value, none => isFinite value (-fraction.length)
    | none, _ => false

def readReal : Reader Document := fun cs => do
  let (whole, cs) ← readDecimal cs
  let (fraction, cs) := readOptional readFraction cs
  let (exponent, cs) := readOptional readExponent cs
  if fraction.isNone && exponent.isNone then none
  else
    let fraction := fraction.getD []
    let exponent := exponent.getD ([], [])
    if isWithinRange whole fraction exponent then
      let spelling := whole ++ '.' :: fraction ++ 'e' :: exponent.1 ++ exponent.2
      return (.real (String.ofList spelling), cs)
    else none

def readSpecial : Reader Document := fun cs => do
  let (sign, cs) ← readSign cs
  match cs with
  | 'i' :: 'n' :: 'f' :: cs => return (.real (String.ofList (sign ++ ['i', 'n', 'f'])), cs)
  | 'n' :: 'a' :: 'n' :: cs => return (.real (String.ofList (sign ++ ['n', 'a', 'n'])), cs)
  | _ => none

def readNumber : Reader Document := fun cs =>
  ((readReal cs).or (readSpecial cs)).or (readInteger cs)

end NatReach.Toml
