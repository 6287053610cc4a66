import NatReach.Document.Basic
import NatReach.Text.Numeral

namespace NatReach.Json

def escapeChar (c : Char) : List Char :=
  match c with
  | '"' => ['\\', '"']
  | '\\' => ['\\', '\\']
  | '\x08' => ['\\', 'b']
  | '\x0c' => ['\\', 'f']
  | '\n' => ['\\', 'n']
  | '\r' => ['\\', 'r']
  | '\t' => ['\\', 't']
  | c => if c.toNat < 0x20 then ['\\', 'u'] ++ Numeral.paddedHex 4 c.toNat else [c]

def quoted : Option String → List Char
  | some text => '"' :: text.toList.flatMap escapeChar ++ ['"']
  | none => "\"\\udfff\"".toList

mutual

def render : Document → List Char
  | .null => "null".toList
  | .bool true => "true".toList
  | .bool false => "false".toList
  | .int value => (toString value).toList
  | .real spelling => spelling.toList
  | .text content => quoted content
  | .list items => '[' :: renderItems items ++ [']']
  | .table members => '{' :: renderMembers members ++ ['}']

def renderItems : List Document → List Char
  | [] => []
  | [item] => render item
  | item :: rest => render item ++ ',' :: renderItems rest

def renderMembers : List (Option String × Document) → List Char
  | [] => []
  | [(name, value)] => quoted name ++ ':' :: render value
  | (name, value) :: rest => quoted name ++ ':' :: render value ++ ',' :: renderMembers rest

end

def text (document : Document) : String := String.ofList (render document)

end NatReach.Json
