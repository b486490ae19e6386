import FieldLogic.Number.Notation
import FieldLogic.Number.Numeral
import FieldLogic.Text.Blank

/-! Attribute values of any type, and the views that comparisons take of them: truth, whole number, number and
text. A text reads as a number when all of it but the blanks around it is one numeral. -/

namespace FieldLogic
open Number Text

inductive Value where
  | null
  | int (value : Int64)
  | float (value : Binary64)
  | bool (value : Bool)
  | string (text : String)
  | list (items : List Value)
deriving Inhabited

namespace Value

def ofOption {α : Type} (convert : α → Value) : Option α → Value
  | some value => convert value
  | none => null

def ofList {α : Type} (convert : α → Value) (items : List α) : Value := list (items.map convert)

def kind : Value → String
  | null => "null"
  | int _ => "int"
  | float _ => "float"
  | bool _ => "bool"
  | string _ => "string"
  | list _ => "list"

def numeralOf? (text : String) : Option Numeral := Numeral.ofCharacters? (trim text.toList)

/-- The number a text begins with, after blanks. -/
def leadingNumeral? (text : String) : Option Numeral := (Numeral.scan (trimStart text.toList)).map (·.1)

def isNumeric : Value → Bool
  | int _ | float _ => true
  | string text => (numeralOf? text).isSome
  | null | bool _ | list _ => false

/-- Truth: everything but null, false, zero, the empty text, the text `0` and the empty list. -/
def isTruthy : Value → Bool
  | null => false
  | int value => value != 0
  | float value => !value.isZero
  | bool value => value
  | string text => text != "" && text != "0"
  | list items => !items.isEmpty

/-- The whole number in a value, toward zero and within 64 bits; what has none counts as zero or one by truth, and a
text by the number it begins with. -/
def toInt : Value → Int64
  | null => 0
  | int value => value
  | float value => value.truncate
  | bool value => if value then 1 else 0
  | string text => match leadingNumeral? text with
    | some numeral => numeral.value.truncate
    | none => 0
  | list items => if items.isEmpty then 0 else 1

def asNumber? : Value → Option Binary64
  | int value => some (.ofInt value.toInt)
  | float value => some value
  | string text => (numeralOf? text).map Numeral.value
  | null | bool _ | list _ => none

def asText? : Value → Option String
  | null => some ""
  | int value => some (integerText value.toInt)
  | float value => some value.plainText
  | bool value => some (if value then "1" else "")
  | string text => some text
  | list _ => none

end Value

end FieldLogic
