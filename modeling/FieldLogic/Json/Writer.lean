import FieldLogic.Number.Notation

/-! The compact text of JSON: no white space, and in strings only what must be escaped. -/

namespace FieldLogic.Json
open Number

/-- A character inside a string: quotes, backslashes and controls are escaped. -/
def escape (c : Char) : List Char :=
  if c = '"' then ['\\', '"']
  else if c = '\\' then ['\\', '\\']
  else if c = '\x08' then ['\\', 'b']
  else if c = '\x0c' then ['\\', 'f']
  else if c = '\n' then ['\\', 'n']
  else if c = '\r' then ['\\', 'r']
  else if c = '\t' then ['\\', 't']
  else if c.toNat < 0x20 then
    ['\\', 'u', '0', '0', Nat.digitChar (c.toNat / 16), Nat.digitChar (c.toNat % 16)]
  else [c]

def writeString (text : String) : List Char := '"' :: text.toList.flatMap escape ++ ['"']

def writeBool (value : Bool) : List Char := if value then ['t', 'r', 'u', 'e'] else ['f', 'a', 'l', 's', 'e']

def commaSeparated : List (List Char) → List Char
  | [] => []
  | [single] => single
  | first :: others => first ++ ',' :: commaSeparated others

def writeArray (items : List (List Char)) : List Char := '[' :: commaSeparated items ++ [']']

def writeObject (members : List (String × List Char)) : List Char :=
  '{' :: commaSeparated (members.map fun (name, value) => writeString name ++ ':' :: value) ++ ['}']

end FieldLogic.Json
