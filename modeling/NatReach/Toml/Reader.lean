import NatReach.Document.Record
import NatReach.Toml.Value

namespace NatReach.Toml

def readHeader : Reader Statement
  | '[' :: '[' :: cs => do
    let (path, cs) ← readKey cs
    return (.item path, ← skip [']', ']'] cs)
  | '[' :: cs => do
    let (path, cs) ← readKey cs
    return (.table path, ← skip [']'] cs)
  | _ => none

def readAssignment : Reader Statement := fun cs => do
  let ((key, value), cs) ← readPair (readValue maxDepth) cs
  return (.value key value, cs)

def readStatement : Reader Statement
  | [] => none
  | c :: cs => do
    let cs := skipBlanks (c :: cs)
    let (statement, cs) := ((readHeader cs).or (readAssignment cs)).getD (.blank, cs)
    return (statement, ← skipLineEnd cs)

def dropMark : List Char → List Char
  | '\uFEFF' :: cs => cs
  | cs => cs

def read (cs : List Char) : Option Document :=
  match many readStatement (dropMark cs) with
  | (statements, []) => assemble? statements
  | _ => none

/-- A list for a record may have more values than the record has fields, and an empty list or table
stands behind a choice that carries nothing. -/
def conventions : Conventions where
  surplusItems := true
  emptyPayload := fun
    | .list [] => true
    | .table [] => true
    | _ => false

end NatReach.Toml
