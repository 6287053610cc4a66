/-!
# Documents

The tree that a JSON or TOML text describes: scalars, lists and tables of named members. Members
stay in the order of the text, and a name may come twice; what that means is for the reader of a
record to say.

A string is `none` where its spelling stands for no Unicode text: octets that are not UTF-8, or half
of a surrogate pair. Such a string is harmless wherever nobody asks for it.
-/
namespace NatReach

inductive Document where
  | null
  | bool (value : Bool)
  | int (value : Int)
  /-- Any other number, as it is written. -/
  | real (spelling : String)
  | text (content : Option String)
  | list (items : List Document)
  | table (members : List (Option String × Document))
deriving Inhabited

namespace Document

def str (content : String) : Document := text (some content)

def nat (value : Nat) : Document := int value

def record (members : List (String × Document)) : Document :=
  table (members.map fun (name, value) => (some name, value))

def orNull {α : Type} (write : α → Document) : Option α → Document
  | none => null
  | some value => write value

end Document
end NatReach
