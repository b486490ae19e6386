import FieldLogic.Json.Writer
import FieldLogic.Value.Basic

/-! The written forms of a value: one for people, with texts between quotes as they are, and the text in JSON. -/

namespace FieldLogic.Value
open Number

mutual

def text : Value → String
  | null => "null"
  | int value => integerText value.toInt
  | float value => value.plainText
  | bool value => if value then "true" else "false"
  | string text => "\"" ++ text ++ "\""
  | list items => "[" ++ joined items ++ "]"

/-- The items with a comma and a space between each two. -/
def joined : List Value → String
  | [] => ""
  | first :: others => first.text ++ following others

def following : List Value → String
  | [] => ""
  | first :: others => ", " ++ first.text ++ following others

end

instance : ToString Value := ⟨text⟩

mutual

def jsonCharacters : Value → List Char
  | null => ['n', 'u', 'l', 'l']
  | int value => integerCharacters value.toInt
  | float value => value.jsonCharacters
  | bool value => Json.writeBool value
  | string text => Json.writeString text
  | list items => Json.writeArray (jsonItems items)

def jsonItems : List Value → List (List Char)
  | [] => []
  | first :: others => first.jsonCharacters :: jsonItems others

end

def jsonText (value : Value) : String := String.ofList value.jsonCharacters

end FieldLogic.Value
