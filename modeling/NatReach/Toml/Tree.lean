import NatReach.Document.Basic

/-!
# Putting a TOML document together

The statements of a document come in any order and name the tables they go to by path. A table comes
about in one of three ways: it has a header of its own, it is on the way to another table, or it is
on the way to a dotted key. No table has two headers, no key two values, and no dotted key reaches
into a table that has a header.
-/
namespace NatReach.Toml

inductive Origin where
  | header
  | passage
  | dotted
deriving DecidableEq, Repr

inductive Node where
  | leaf (value : Document)
  | table (origin : Origin) (members : List (String × Node))
  /-- A list of tables, each with a header of its own; the last one first. -/
  | tables (items : List Node)

namespace Node

def root : Node := table .header []

def find? (name : String) (members : List (String × Node)) : Option Node :=
  (members.find? fun member => member.1 == name).map Prod.snd

def put (name : String) (node : Node) : List (String × Node) → List (String × Node)
  | [] => [(name, node)]
  | (other, old) :: rest =>
    if other = name then (name, node) :: rest else (other, old) :: put name node rest

/-- Changes the part at the end of a path. Tables on the way that are not there yet come about. Of a
list of tables the path goes through the last one. -/
def change (dotted : Bool) (atEnd : Node → Option Node) : List String → Node → Option Node
  | [], node => atEnd node
  | name :: path, table origin members => do
    let node ← match find? name members with
      | none => change dotted atEnd path (table (if dotted then .dotted else .passage) [])
      | some (table origin members) =>
        if dotted && origin = .header then none
        else change dotted atEnd path (table origin members)
      | some (tables (last :: others)) =>
        (change dotted atEnd path last).map fun last => tables (last :: others)
      | some _ => none
    return table origin (put name node members)
  | _ :: _, _ => none

/-- Gives a name its value in a table. A plain key goes to the table of the header, a dotted one to
a table that came about by dotted keys. -/
def define (isDotted : Bool) (name : String) (value : Document) : Node → Option Node
  | table origin members =>
    if decide (origin = .dotted) = isDotted && (find? name members).isNone then
      some (table origin (members ++ [(name, leaf value)]))
    else none
  | _ => none

def openTable (name : String) : Node → Option Node
  | table origin members =>
    match find? name members with
    | none => some (table origin (members ++ [(name, table .header [])]))
    | some (table .passage inner) => some (table origin (put name (table .header inner) members))
    | some _ => none
  | _ => none

def openItem (name : String) : Node → Option Node
  | table origin members =>
    match find? name members with
    | none => some (table origin (members ++ [(name, tables [table .header []])]))
    | some (tables items) =>
      some (table origin (put name (tables (table .header [] :: items)) members))
    | some _ => none
  | _ => none

mutual

def document : Node → Document
  | leaf value => value
  | table _ members => .table (memberDocuments members)
  | tables items => .list (itemDocuments items).reverse

def memberDocuments : List (String × Node) → List (Option String × Document)
  | [] => []
  | (name, node) :: rest => (some name, document node) :: memberDocuments rest

def itemDocuments : List Node → List Document
  | [] => []
  | node :: rest => document node :: itemDocuments rest

end

def splitLast? : List String → Option (List String × String)
  | [] => none
  | [name] => some ([], name)
  | first :: rest => (splitLast? rest).map fun (path, name) => (first :: path, name)

def assign (key : List String) (value : Document) (node : Node) : Option Node := do
  let (path, name) ← splitLast? key
  change true (define (!path.isEmpty) name value) path node

def assignAll (pairs : List (List String × Document)) (node : Node) : Option Node :=
  pairs.foldlM (fun node pair => assign pair.1 pair.2 node) node

end Node

inductive Statement where
  | blank
  | value (key : List String) (value : Document)
  | table (path : List String)
  | item (path : List String)

/-- A document under construction, and the path of the last header. -/
structure Draft where
  node : Node := .root
  path : List String := []

def Draft.step (draft : Draft) : Statement → Option Draft
  | .blank => some draft
  | .value key value => do
    let node ← Node.change false (Node.assign key value) draft.path draft.node
    return { draft with node }
  | .table path => do
    let (parent, name) ← Node.splitLast? path
    let node ← Node.change false (Node.openTable name) parent draft.node
    return { node, path }
  | .item path => do
    let (parent, name) ← Node.splitLast? path
    let node ← Node.change false (Node.openItem name) parent draft.node
    return { node, path }

def assemble? (statements : List Statement) : Option Document :=
  (statements.foldlM Draft.step {}).map fun draft => draft.node.document

end NatReach.Toml
