import FieldLogic.Json.Document
import FieldLogic.Value.Basic

/-! Values from JSON documents, flattened. An object stands for its `id` and a list keeps the items that are
neither null nor lists themselves, so a list of related objects becomes the list of their identifiers. -/

namespace FieldLogic.Value
open Number

def isScalar : Value → Bool
  | null | list _ => false
  | int _ | float _ | bool _ | string _ => true

/-- An integer of 64 bits stays one, a larger one becomes the nearest number. -/
def ofInteger (value : Int) : Value :=
  if Int64.minValue.toInt ≤ value ∧ value ≤ Int64.maxValue.toInt then int (Int64.ofInt value)
  else float (.ofInt value)

mutual

def ofJson : Json.Document → Value
  | .null => null
  | .bool value => bool value
  | .integer value => ofInteger value
  | .number value => float value
  | .string value => string value
  | .array items => list (flatItems items)
  | .object members => (identifier? members).getD null

def flatItems : List Json.Document → List Value
  | [] => []
  | item :: rest => if (ofJson item).isScalar then ofJson item :: flatItems rest else flatItems rest

/-- The value of the last member named `id`. -/
def identifier? : List (String × Json.Document) → Option Value
  | [] => none
  | (name, document) :: rest =>
    match identifier? rest with
    | some value => some value
    | none => if name = "id" then some (ofJson document) else none

end

end FieldLogic.Value
