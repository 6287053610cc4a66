import NatReach.Toml.Moment
import NatReach.Toml.Number
import NatReach.Toml.Quoted
import NatReach.Toml.Tree

namespace NatReach.Toml

/-! ## Keys -/

def isBare (c : Char) : Bool :=
  ('A' ≤ c && c ≤ 'Z') || ('a' ≤ c && c ≤ 'z') || ('0' ≤ c && c ≤ '9') || c == '-' || c == '_'

def readBareName : Reader (List Char) := fun cs =>
  let name := cs.takeWhile isBare
  if name.isEmpty then none else some (name, cs.dropWhile isBare)

def readName : Reader String := fun cs => do
  let cs := skipBlanks cs
  let (name, cs) ← (readLineString cs).or (readBareName cs)
  return (String.ofList name, skipBlanks cs)

def maxNames : Nat := 79

def readKey : Reader (List String) := fun cs =>
  let (names, cs) := separated '.' readName cs
  if names.isEmpty || maxNames < names.length then none else some (names, cs)

/-! ## Values -/

def readBool : Reader Document := fun cs =>
  ((skip "true".toList cs).map (Document.bool true, ·)).or
    ((skip "false".toList cs).map (Document.bool false, ·))

def readScalar : Reader Document := fun cs =>
  (readString cs).map (fun (text, cs) => (.str (String.ofList text), cs)) |>.or
    ((readBool cs).or ((readMoment cs).or (readNumber cs)))

/-- Takes the values of a list off, behind its bracket. A comma may stand behind the last one. -/
def readItems (read : Reader Document) : Reader Document := fun cs => do
  let readItem : Reader Document := fun cs =>
    (read (skipGap false cs)).map fun (value, cs) => (value, skipGap false cs)
  let (items, cs) := separated ',' readItem cs
  let cs := if items.isEmpty then cs else (skip [','] cs).getD cs
  return (.list items, ← skip [']'] (skipGap false cs))

def readPair (read : Reader Document) : Reader (List String × Document) := fun cs => do
  let (key, cs) ← readKey cs
  let (value, cs) ← read (skipBlanks (← skip ['='] cs))
  return ((key, value), skipBlanks cs)

/-- Takes the members of a table off, behind its brace. No comma may stand behind the last one. -/
def readMembers (read : Reader Document) : Reader Document := fun cs => do
  let (pairs, cs) := separated ',' (readPair read) cs
  let cs ← skip ['\x7d'] (skipBlanks cs)
  let table ← Node.assignAll pairs .root
  return (table.document, cs)

def readValue : (depth : Nat) → Reader Document
  | 0, cs => readScalar cs
  | depth + 1, cs =>
    match cs with
    | '[' :: cs => readItems (readValue depth) cs
    | '\x7b' :: cs => readMembers (readValue depth) cs
    | cs => readScalar cs

/-- How deep lists and tables may be in each other. -/
def maxDepth : Nat := 79

end NatReach.Toml
