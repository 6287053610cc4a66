import NatReach.Document.Basic
import NatReach.Toml.Scan

namespace NatReach.Toml

def readWithin (count low high : Nat) : Reader (List Char) := fun cs => do
  let (digits, cs) ← readDigitCount count cs
  let value ← Numeral.readDecimal? digits
  if low ≤ value && value ≤ high then return (digits, cs) else none

def daysIn (year month : Nat) : Nat :=
  if month = 2 then
    if year % 4 = 0 && (year % 100 ≠ 0 || year % 400 = 0) then 29 else 28
  else if [4, 6, 9, 11].contains month then 30
  else 31

def readDate : Reader (List Char) := fun cs => do
  let (year, cs) ← readWithin 4 0 9999 cs
  let (month, cs) ← (skip ['-'] cs).bind (readWithin 2 1 12)
  let days := daysIn (← Numeral.readDecimal? year) (← Numeral.readDecimal? month)
  let (day, cs) ← (skip ['-'] cs).bind (readWithin 2 1 days)
  return (year ++ '-' :: month ++ '-' :: day, cs)

def fractionDigits : Nat := 9

def readSecondFraction : Reader (List Char)
  | '.' :: cs =>
    let digits := cs.takeWhile Numeral.isDecimal
    let kept := ((digits.take fractionDigits).reverse.dropWhile (· == '0')).reverse
    if digits.isEmpty then none
    else some (if kept.isEmpty then [] else '.' :: kept, cs.dropWhile Numeral.isDecimal)
  | _ => none

def readHourMinute : Reader (List Char) := fun cs => do
  let (hour, cs) ← readWithin 2 0 23 cs
  let (minute, cs) ← (skip [':'] cs).bind (readWithin 2 0 59)
  return (hour ++ ':' :: minute, cs)

/-- Takes a time of day off. A minute may have a sixty-first second. -/
def readTime : Reader (List Char) := fun cs => do
  let (start, cs) ← readHourMinute cs
  let (second, cs) ← (skip [':'] cs).bind (readWithin 2 0 60)
  let (fraction, cs) := readOptional readSecondFraction cs
  return (start ++ ':' :: second ++ fraction.getD [], cs)

def readOffset : Reader (List Char)
  | [] => none
  | mark :: cs => do
    if mark = 'Z' || mark = 'z' then return (['Z'], cs)
    else if mark = '+' || mark = '-' then
      let (offset, cs) ← readHourMinute cs
      let zero := offset = ['0', '0', ':', '0', '0']
      return ((if zero then '+' else mark) :: offset, cs)
    else none

def readTimeOfDate : Reader (List Char) := fun cs => do
  let (_, cs) ← readChar (fun c => c == 'T' || c == 't' || c == ' ') cs
  let (time, cs) ← readTime cs
  let (offset, cs) := readOptional readOffset cs
  return ('T' :: time ++ offset.getD [], cs)

def readDateTime : Reader (List Char) := fun cs => do
  let (date, cs) ← readDate cs
  let (time, cs) := readOptional readTimeOfDate cs
  return (date ++ time.getD [], cs)

/-- The name of the member that holds a date or a time. -/
def momentKey : String := "$__toml_private_datetime"

def readMoment : Reader Document := fun cs => do
  let (text, cs) ← (readDateTime cs).or (readTime cs)
  return (.record [(momentKey, .str (String.ofList text))], cs)

end NatReach.Toml
