import NatReach.Text.Numeral
import NatReach.Toml.Value

/-!
# Writing TOML

A document is written block by block: a header, and a line for each value below it. A blank line
stands between two blocks.

A string is written in the plainest form that can hold it: between double quotes without escapes,
between single quotes, between three double or three single quotes, and only if none of these will
do with escapes. Names are written without quotes where that is possible. A list of several items
takes a line for each.
-/
namespace NatReach.Toml

/-! ## Escapes -/

def escapeCode (c : Char) : List Char :=
  '\\' :: 'u' :: (Numeral.paddedHex 4 c.toNat).map Char.toUpper

def escapeOf? (inLines : Bool) (c : Char) : Option (List Char) :=
  match c with
  | '\x08' => some ['\\', 'b']
  | '\t' => some ['\\', 't']
  | '\n' => if inLines then none else some ['\\', 'n']
  | '\x0c' => some ['\\', 'f']
  | '\r' => some ['\\', 'r']
  | '\\' => some ['\\', '\\']
  | c => if isControl c then some (escapeCode c) else none

def quotesInRow (inLines : Bool) : Nat := if inLines then 2 else 0

/-- A text between double quotes, with escapes where they are needed; `run` quotes stand just before
it. -/
def escape (inLines : Bool) : (run : Nat) → List Char → List Char
  | _, [] => []
  | run, c :: rest =>
    if c = '"' then
      if run < quotesInRow inLines then '"' :: escape inLines (run + 1) rest
      else '\\' :: '"' :: escape inLines 0 rest
    else (escapeOf? inLines c).getD [c] ++ escape inLines 0 rest

/-! ## The form of a string -/

def longestRun (c : Char) (text : List Char) : Nat :=
  (text.foldl (fun (run, longest) other =>
    let run := if other = c then run + 1 else 0
    (run, max run longest)) (0, 0)).2

def needsEscape (text : List Char) : Bool := text.any fun c => isControl c && c != '\n'

inductive Form where
  | basic
  | literal
  | basicLines
  | literalLines
deriving DecidableEq, Repr

def formOf (text : List Char) : Form :=
  let codes := needsEscape text
  let lines := text.contains '\n'
  let backslash := text.contains '\\'
  if !codes && !backslash && !lines && !text.contains '"' then .basic
  else if !codes && !lines && !text.contains '\'' then .literal
  else if !codes && !backslash && longestRun '"' text ≤ 2 then .basicLines
  else if !codes && longestRun '\'' text ≤ 2 then .literalLines
  else if lines then .basicLines
  else .basic

def threefold (quote : Char) : List Char := List.replicate 3 quote

def opening (text : List Char) : List Char := if text.contains '\n' then ['\n'] else []

def renderAs (form : Form) (text : List Char) : List Char :=
  match form with
  | .basic => '"' :: escape false 0 text ++ ['"']
  | .literal => '\'' :: text ++ ['\'']
  | .basicLines => threefold '"' ++ opening text ++ escape true 0 text ++ threefold '"'
  | .literalLines => threefold '\'' ++ opening text ++ text ++ threefold '\''

def renderText (text : String) : List Char := renderAs (formOf text.toList) text.toList

def renderName (name : String) : List Char :=
  let text := name.toList
  let codes := text.any isControl
  if !text.isEmpty && text.all isBare then text
  else if !codes && !text.contains '\\' && !text.contains '"' then renderAs .basic text
  else if !codes && !text.contains '\'' then renderAs .literal text
  else renderAs .basic text

/-! ## Blocks -/

inductive Line where
  | text (content : String)
  | number (value : Nat)
  | texts (items : List String)
deriving DecidableEq, Repr

inductive Header where
  | none
  | table (path : List String)
  | item (path : List String)
deriving DecidableEq, Repr

structure Block where
  header : Header
  lines : List (String × Line)
deriving DecidableEq, Repr

def renderItemLines (items : List String) : List Char :=
  items.flatMap fun item => "    ".toList ++ renderText item ++ ",\n".toList

def renderLine : Line → List Char
  | .text content => renderText content
  | .number value => Nat.toDigits 10 value
  | .texts [] => ['[', ']']
  | .texts [item] => '[' :: renderText item ++ [']']
  | .texts items => '[' :: '\n' :: renderItemLines items ++ [']']

def renderPath (path : List String) : List Char := ['.'].intercalate (path.map renderName)

def renderHeader : Header → List Char
  | .none => []
  | .table path => '[' :: renderPath path ++ [']', '\n']
  | .item path => '[' :: '[' :: renderPath path ++ [']', ']', '\n']

def renderBlock (block : Block) : List Char :=
  renderHeader block.header ++
    block.lines.flatMap fun (name, value) =>
      renderName name ++ " = ".toList ++ renderLine value ++ ['\n']

def Block.fits (block : Block) : Bool :=
  block.lines.all fun
    | (_, .number value) => fitsInt64 value
    | _ => true

/-- The text of blocks, if all numbers can be written. -/
def render? (blocks : List Block) : Option (List Char) :=
  if blocks.all Block.fits then
    some (['\n'].intercalate ((blocks.map renderBlock).filter (!·.isEmpty)))
  else none

end NatReach.Toml
