import NatReach.Toml.Scan

namespace NatReach.Toml

def scalar? (code : Nat) : Option Char :=
  if code < 0xD800 || (0xE000 ≤ code && code < 0x110000) then some (Char.ofNat code) else none

def readCodePoint (count : Nat) : Reader Char := fun cs => do
  let digits ← (cs.take count).mapM Numeral.hexDigit?
  if digits.length = count then
    let c ← scalar? (Numeral.ofDigits 16 digits)
    return (c, cs.drop count)
  else none

def readEscape : Reader Char
  | 'b' :: cs => some ('\x08', cs)
  | 't' :: cs => some ('\t', cs)
  | 'n' :: cs => some ('\n', cs)
  | 'f' :: cs => some ('\x0c', cs)
  | 'r' :: cs => some ('\r', cs)
  | '"' :: cs => some ('"', cs)
  | '\\' :: cs => some ('\\', cs)
  | 'u' :: cs => readCodePoint 4 cs
  | 'U' :: cs => readCodePoint 8 cs
  | _ => none

def readBasicChar : Reader Char
  | '\\' :: cs => readEscape cs
  | cs => readChar (fun c => c != '"' && !isControl c) cs

def readLiteralChar : Reader Char := readChar fun c => c != '\'' && !isControl c

def readLine (close : Char) (read : Reader Char) : Reader (List Char) := fun cs => do
  let (text, cs) := many read cs
  return (text, ← skip [close] cs)

/-! ## Several lines -/

def readFewQuotes (close : Char) : Reader (List Char) := fun cs =>
  let quotes := cs.takeWhile (· == close)
  if quotes.length < 3 then some (quotes, cs.drop quotes.length) else none

/-- Takes the closing quotes off, with up to two quotes before them that belong to the string. -/
def readClosing (close : Char) : Reader (List Char) := fun cs =>
  let count := (cs.takeWhile (· == close)).length
  if count < 3 then none
  else
    let own := min (count - 3) 2
    some (List.replicate own close, cs.drop (own + 3))

def readLineFeed : Reader (List Char) := fun cs => (skipNewline cs).map (['\n'], ·)

def skipSpace : List Char → List Char
  | [] => []
  | '\n' :: rest => skipSpace rest
  | '\r' :: '\n' :: rest => skipSpace rest
  | c :: rest => if isBlank c then skipSpace rest else c :: rest

/-- Takes off what a backslash at the end of a line takes away, behind it. -/
def readContinuation : Reader (List Char) := fun cs =>
  (skipNewline (skipBlanks cs)).map fun rest => ([], skipSpace rest)

def single (read : Reader Char) : Reader (List Char) := fun cs => do
  let (c, cs) ← read cs
  return ([c], cs)

def readBasicPiece : Reader (List Char)
  | '"' :: cs => readFewQuotes '"' ('"' :: cs)
  | '\\' :: cs => (readContinuation cs).or (single readEscape cs)
  | cs => (readLineFeed cs).or (single readBasicChar cs)

def readLiteralPiece : Reader (List Char)
  | '\'' :: cs => readFewQuotes '\'' ('\'' :: cs)
  | cs => (readLineFeed cs).or (single readLiteralChar cs)

def readLines (close : Char) (read : Reader (List Char)) : Reader (List Char) := fun cs => do
  let cs := (skipNewline cs).getD cs
  let (pieces, cs) := many read cs
  let (last, cs) ← readClosing close cs
  return (pieces.flatten ++ last, cs)

/-! ## All strings -/

def readLineString : Reader (List Char)
  | '"' :: cs => readLine '"' readBasicChar cs
  | '\'' :: cs => readLine '\'' readLiteralChar cs
  | _ => none

def readString : Reader (List Char)
  | '"' :: '"' :: '"' :: cs => readLines '"' readBasicPiece cs
  | '\'' :: '\'' :: '\'' :: cs => readLines '\'' readLiteralPiece cs
  | cs => readLineString cs

end NatReach.Toml
