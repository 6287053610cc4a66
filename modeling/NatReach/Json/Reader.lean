import NatReach.Document.Record
import NatReach.Text.Numeral
import NatReach.Text.Utf8

/-!
# Reading JSON

A machine with a stack reads a text one symbol at a time: the mode says what it is in the middle of,
the stack holds the lists and tables that are still open. So a text of any depth is read without
recursion, and what the machine makes of a text cut in two is what it makes of the second part from
where the first one left it.

Strings are read as they stand, with escapes and stray octets; whether one is a Unicode text is
settled once, when it ends.
-/
namespace NatReach.Json
open Utf8 (Symbol)

/-! ## Strings -/

/-- A piece of a string: a character, the sixteen bits of an escape, or a stray octet. -/
inductive Piece where
  | char (c : Char)
  | unit (code : Nat)
  | stray
deriving DecidableEq

def isHigh (code : Nat) : Bool := 0xD800 ≤ code && code < 0xDC00

def isLow (code : Nat) : Bool := 0xDC00 ≤ code && code < 0xE000

def pair (high low : Nat) : Char :=
  Char.ofNat (0x10000 + (high - 0xD800) * 0x400 + (low - 0xDC00))

/-- The characters of a string, if all of it stands for characters. The halves of a surrogate pair
must stand side by side. -/
def content : List Piece → Option (List Char)
  | [] => some []
  | .char c :: rest => (content rest).map (c :: ·)
  | .stray :: _ => none
  | .unit code :: .unit low :: rest =>
    if isHigh code then
      if isLow low then (content rest).map (pair code low :: ·) else none
    else if isLow code then none
    else (content (.unit low :: rest)).map (Char.ofNat code :: ·)
  | .unit code :: rest =>
    if isHigh code || isLow code then none else (content rest).map (Char.ofNat code :: ·)

/-! ## Numbers -/

inductive Phase where
  | minus
  | zero
  | whole
  | point
  | fraction
  | mark
  | sign
  | exponent
deriving DecidableEq

namespace Phase

def isMark (c : Char) : Bool := c == 'e' || c == 'E'

def next? (phase : Phase) (c : Char) : Option Phase :=
  match phase with
  | minus => if c == '0' then some zero else if Numeral.isDecimal c then some whole else none
  | zero => if c == '.' then some point else if isMark c then some mark else none
  | whole =>
    if Numeral.isDecimal c then some whole else if c == '.' then some point
    else if isMark c then some mark else none
  | point => if Numeral.isDecimal c then some fraction else none
  | fraction =>
    if Numeral.isDecimal c then some fraction else if isMark c then some mark else none
  | mark =>
    if c == '+' || c == '-' then some sign
    else if Numeral.isDecimal c then some exponent else none
  | sign => if Numeral.isDecimal c then some exponent else none
  | exponent => if Numeral.isDecimal c then some exponent else none

/-- The value of a number that may end in this phase. Negative zero is no integer. -/
def value? (phase : Phase) (spelled : List Char) : Option Document :=
  match phase, spelled with
  | zero, ['0'] => some (.int 0)
  | zero, spelled => some (.real (String.ofList spelled))
  | whole, '-' :: digits => (Numeral.readDecimal? digits).map fun n => .int (-n)
  | whole, digits => (Numeral.readDecimal? digits).map fun n => .int n
  | fraction, spelled => some (.real (String.ofList spelled))
  | exponent, spelled => some (.real (String.ofList spelled))
  | _, _ => none

end Phase

/-! ## The machine -/

/-- A list or table that is still open, its parts so far in reverse. -/
inductive Frame where
  | items (values : List Document)
  | members (read : List (Option String × Document))
  | member (read : List (Option String × Document)) (name : Option String)

inductive Mode where
  | value
  | firstItem
  | firstName
  | name
  | colon
  | after
  | string (isName : Bool) (pieces : List Piece)
  | escape (isName : Bool) (pieces : List Piece)
  | unit (isName : Bool) (pieces : List Piece) (seen code : Nat)
  | number (phase : Phase) (spelled : List Char)
  | word (rest : List Char) (value : Document)
  | done (value : Document)

structure State where
  mode : Mode
  stack : List Frame

def start : State := ⟨.value, []⟩

def isBlank (c : Char) : Bool := c == ' ' || c == '\n' || c == '\t' || c == '\r'

def complete (value : Document) : List Frame → Option State
  | [] => some ⟨.done value, []⟩
  | .items values :: stack => some ⟨.after, .items (value :: values) :: stack⟩
  | .member read name :: stack => some ⟨.after, .members ((name, value) :: read) :: stack⟩
  | .members _ :: _ => none

def openValue (c : Char) (stack : List Frame) : Option State :=
  match c with
  | '{' => some ⟨.firstName, .members [] :: stack⟩
  | '[' => some ⟨.firstItem, .items [] :: stack⟩
  | '"' => some ⟨.string false [], stack⟩
  | '-' => some ⟨.number .minus ['-'], stack⟩
  | '0' => some ⟨.number .zero ['0'], stack⟩
  | 't' => some ⟨.word ['r', 'u', 'e'] (.bool true), stack⟩
  | 'f' => some ⟨.word ['a', 'l', 's', 'e'] (.bool false), stack⟩
  | 'n' => some ⟨.word ['u', 'l', 'l'] .null, stack⟩
  | c => if Numeral.isDecimal c then some ⟨.number .whole [c], stack⟩ else none

def closeString (isName : Bool) (pieces : List Piece) (stack : List Frame) : Option State :=
  let text := (content pieces.reverse).map String.ofList
  match isName, stack with
  | false, stack => complete (.text text) stack
  | true, .members read :: stack => some ⟨.colon, .member read text :: stack⟩
  | true, _ => none

def stepAfter (c : Char) (stack : List Frame) : Option State :=
  match c, stack with
  | ',', .items values :: stack => some ⟨.value, .items values :: stack⟩
  | ']', .items values :: stack => complete (.list values.reverse) stack
  | ',', .members read :: stack => some ⟨.name, .members read :: stack⟩
  | '}', .members read :: stack => complete (.table read.reverse) stack
  | c, stack => if isBlank c then some ⟨.after, stack⟩ else none

def stepDone (value : Document) (c : Char) : Option State :=
  if isBlank c then some ⟨.done value, []⟩ else none

def stepBehind (state : State) (c : Char) : Option State :=
  match state.mode with
  | .after => stepAfter c state.stack
  | .done value => stepDone value c
  | _ => none

def escaped? : Char → Option Char
  | '"' => some '"'
  | '\\' => some '\\'
  | '/' => some '/'
  | 'b' => some '\x08'
  | 'f' => some '\x0c'
  | 'n' => some '\n'
  | 'r' => some '\r'
  | 't' => some '\t'
  | _ => none

def stepChar (state : State) (c : Char) : Option State :=
  let stack := state.stack
  match state.mode with
  | .value => if isBlank c then some state else openValue c stack
  | .firstItem =>
    match c, stack with
    | ']', .items _ :: stack => complete (.list []) stack
    | c, stack => if isBlank c then some state else openValue c stack
  | .firstName =>
    match c, stack with
    | '}', .members _ :: stack => complete (.table []) stack
    | '"', stack => some ⟨.string true [], stack⟩
    | c, _ => if isBlank c then some state else none
  | .name =>
    if c = '"' then some ⟨.string true [], stack⟩ else if isBlank c then some state else none
  | .colon =>
    if c = ':' then some ⟨.value, stack⟩ else if isBlank c then some state else none
  | .after => stepAfter c stack
  | .string isName pieces =>
    if c = '"' then closeString isName pieces stack
    else if c = '\\' then some ⟨.escape isName pieces, stack⟩
    else if c.toNat < 0x20 then none
    else some ⟨.string isName (.char c :: pieces), stack⟩
  | .escape isName pieces =>
    if c = 'u' then some ⟨.unit isName pieces 0 0, stack⟩
    else (escaped? c).map fun c => ⟨.string isName (.char c :: pieces), stack⟩
  | .unit isName pieces seen code =>
    (Numeral.hexDigit? c).map fun digit =>
      if seen = 3 then ⟨.string isName (.unit (16 * code + digit) :: pieces), stack⟩
      else ⟨.unit isName pieces (seen + 1) (16 * code + digit), stack⟩
  | .number phase spelled =>
    match phase.next? c with
    | some phase => some ⟨.number phase (c :: spelled), stack⟩
    | none => do
      let value ← phase.value? spelled.reverse
      stepBehind (← complete value stack) c
  | .word rest value =>
    match rest with
    | [] => none
    | [last] => if c = last then complete value stack else none
    | head :: rest => if c = head then some ⟨.word rest value, stack⟩ else none
  | .done value => stepDone value c

/-- One symbol. A stray octet can only stand inside a string. -/
def step (state : State) : Symbol → Option State
  | some c => stepChar state c
  | none =>
    match state.mode with
    | .string isName pieces => some ⟨.string isName (.stray :: pieces), state.stack⟩
    | _ => none

def finish (state : State) : Option Document :=
  match state.mode, state.stack with
  | .done value, _ => some value
  | .number phase spelled, [] => phase.value? spelled.reverse
  | _, _ => none

def run (state : State) (symbols : List Symbol) : Option State := symbols.foldlM step state

def read (symbols : List Symbol) : Option Document := (run start symbols).bind finish

def ofOctets? (octets : List UInt8) : Option Document := read (Utf8.symbols octets)

def ofText? (text : String) : Option Document := read (text.toList.map some)

/-- A list for a record must not have more values than the record has fields, and null stands
behind a choice that carries nothing. -/
def conventions : Conventions where
  surplusItems := false
  emptyPayload := fun
    | .null => true
    | _ => false

theorem run_append (state : State) (front back : List Symbol) :
    run state (front ++ back) = (run state front).bind fun state => run state back := by
  simp only [run, List.foldlM_append]
  rfl

end NatReach.Json
