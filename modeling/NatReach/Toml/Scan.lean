import NatReach.Text.Numeral

namespace NatReach.Toml

/-- Takes a value off the front of a text. -/
abbrev Reader (α : Type) := List Char → Option (α × List Char)

def skip : List Char → List Char → Option (List Char)
  | [], cs => some cs
  | _ :: _, [] => none
  | expected :: more, c :: cs => if c = expected then skip more cs else none

def readChar (accept : Char → Bool) : Reader Char
  | [] => none
  | c :: cs => if accept c then some (c, cs) else none

def readOptional {α : Type} (read : Reader α) (cs : List Char) : Option α × List Char :=
  match read cs with
  | some (value, rest) => (some value, rest)
  | none => (none, cs)

def manyWithin {α : Type} (read : Reader α) :
    (bound : List Char) → (taken : List α) → List Char → List α × List Char
  | [], taken, cs => (taken.reverse, cs)
  | _ :: bound, taken, cs =>
    match read cs with
    | none => (taken.reverse, cs)
    | some (value, rest) => manyWithin read bound (value :: taken) rest

/-- Takes values off as long as there are any. The text bounds how many there can be, since each
value takes at least one character. -/
def many {α : Type} (read : Reader α) (cs : List Char) : List α × List Char :=
  manyWithin read cs [] cs

def separated {α : Type} (mark : Char) (read : Reader α) (cs : List Char) : List α × List Char :=
  match read cs with
  | none => ([], cs)
  | some (first, cs) =>
    let (more, cs) := many (fun cs => (skip [mark] cs).bind read) cs
    (first :: more, cs)

/-! ## Between the parts -/

def isBlank (c : Char) : Bool := c == ' ' || c == '\t'

def skipBlanks (cs : List Char) : List Char := cs.dropWhile isBlank

def isControl (c : Char) : Bool := (c.toNat < 0x20 && c != '\t') || c.toNat == 0x7F

def skipNewline : List Char → Option (List Char)
  | '\n' :: rest => some rest
  | '\r' :: '\n' :: rest => some rest
  | _ => none

def skipComment : List Char → List Char
  | '#' :: rest => rest.dropWhile fun c => !isControl c
  | cs => cs

def skipLineEnd (cs : List Char) : Option (List Char) :=
  match skipComment (skipBlanks cs) with
  | [] => some []
  | rest => skipNewline rest

def skipGap : (inComment : Bool) → List Char → List Char
  | _, [] => []
  | _, '\n' :: rest => skipGap false rest
  | _, '\r' :: '\n' :: rest => skipGap false rest
  | true, c :: rest => if isControl c then c :: rest else skipGap true rest
  | false, c :: rest =>
    if isBlank c then skipGap false rest
    else if c = '#' then skipGap true rest
    else c :: rest

/-! ## Digits -/

def readDigitCount (count : Nat) (cs : List Char) : Option (List Char × List Char) :=
  let digits := cs.take count
  if digits.length = count && digits.all Numeral.isDecimal then some (digits, cs.drop count)
  else none

def readSeparated (accept : Char → Bool) : Reader Char
  | '_' :: cs => readChar accept cs
  | cs => readChar accept cs

def readDigits (accept : Char → Bool) : Reader (List Char) := fun cs => do
  let (first, cs) ← readChar accept cs
  let (more, cs) := many (readSeparated accept) cs
  return (first :: more, cs)

def readSign : Reader (List Char)
  | '+' :: cs => some (['+'], cs)
  | '-' :: cs => some (['-'], cs)
  | cs => some ([], cs)

end NatReach.Toml
