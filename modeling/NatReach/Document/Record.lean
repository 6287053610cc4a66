import NatReach.Document.Basic

/-!
# Reading records

A record with named fields is a table, whose members may come in any order and among members of
other names, or a list of the fields' values in the order in which the record declares them.

In a table no field may come twice and every name must be readable; members of other names are
passed over, whatever they hold. A field that is missing takes its default, if it has one.

Formats differ in two small points, which `Conventions` holds.
-/
namespace NatReach

structure Conventions where
  /-- Whether a list may hold more values than the record has fields. -/
  surplusItems : Bool
  /-- Whether a value may stand behind the name of a choice that carries nothing. -/
  emptyPayload : Document → Bool

structure Fields where
  found : List (String × Document)

namespace Document

/-- The members with one of the given names; none if a name is unreadable or comes twice. -/
def knownMembers (names : List String) :
    List (Option String × Document) → Option (List (String × Document))
  | [] => some []
  | (none, _) :: _ => none
  | (some name, value) :: rest => do
    let known ← knownMembers names rest
    if names.contains name then
      if known.any (fun member => member.1 == name) then none else return (name, value) :: known
    else return known

def fields? (conventions : Conventions) (names : List String) : Document → Option Fields
  | table members => (knownMembers names members).map Fields.mk
  | list items =>
    if items.length ≤ names.length || conventions.surplusItems then some ⟨names.zip items⟩ else none
  | _ => none

def string? : Document → Option String
  | text content => content
  | _ => none

def bool? : Document → Option Bool
  | bool value => some value
  | _ => none

def intBetween? (low high : Int) : Document → Option Int
  | int value => if low ≤ value ∧ value < high then some value else none
  | _ => none

def natBelow? (limit : Nat) (document : Document) : Option Nat :=
  (intBetween? 0 limit document).map Int.toNat

def uint16? (document : Document) : Option UInt16 := (natBelow? 65536 document).map UInt16.ofNat

def uint32? (document : Document) : Option UInt32 :=
  (natBelow? 4294967296 document).map UInt32.ofNat

def uint64? (document : Document) : Option UInt64 :=
  (natBelow? 18446744073709551616 document).map UInt64.ofNat

def int32? (document : Document) : Option Int32 :=
  (intBetween? (-2147483648) 2147483648 document).map Int32.ofInt

def list? {α : Type} (read : Document → Option α) : Document → Option (List α)
  | list items => items.mapM read
  | _ => none

def nullable? {α : Type} (read : Document → Option α) : Document → Option (Option α)
  | null => some none
  | document => (read document).map some

def entries? {α : Type} (read : Document → Option α) : Document → Option (List (String × α))
  | table members => members.mapM fun (name, value) => do return (← name, ← read value)
  | _ => none

/-- One of several named choices that carry nothing: its name, or a table of that one name with an
empty payload. -/
def choice? {α : Type} (conventions : Conventions) (ofName : String → Option α) :
    Document → Option α
  | text content => content.bind ofName
  | table [(some name, payload)] =>
    if conventions.emptyPayload payload then ofName name else none
  | _ => none

end Document

namespace Fields

def get? (fields : Fields) (name : String) : Option Document :=
  (fields.found.find? fun member => member.1 == name).map Prod.snd

def required {α : Type} (fields : Fields) (name : String) (read : Document → Option α) :
    Option α :=
  (fields.get? name).bind read

def withDefault {α : Type} (fields : Fields) (name : String) (fallback : α)
    (read : Document → Option α) : Option α :=
  match fields.get? name with
  | none => some fallback
  | some document => read document

def optional {α : Type} (fields : Fields) (name : String) (read : Document → Option α) :
    Option (Option α) :=
  fields.withDefault name none (Document.nullable? read)

end Fields
end NatReach
