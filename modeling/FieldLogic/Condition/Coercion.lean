import FieldLogic.Condition.Operator
import FieldLogic.Value.Basic

/-! The two sides of a comparison before it is made. One quote is taken off each end of the operand. Then, if both
sides are numeric, or the operator is one of order and the operand is not empty, both become whole numbers;
otherwise the words `true` and `false` become booleans and all else stays as it is. -/

namespace FieldLogic

/-- The operand without a quote at its start and a quote at its end. -/
def unquoted (operand : String) : String :=
  let isQuote (c : Char) : Bool := c == '"' || c == '\''
  let opened := match operand.toList with
    | c :: rest => if isQuote c then rest else c :: rest
    | [] => []
  match opened.getLast? with
  | some c => String.ofList (if isQuote c then opened.dropLast else opened)
  | none => ""

structure Sides where
  value : Value
  operand : Value

def wordValue (text : String) : Value :=
  if text = "true" then .bool true else if text = "false" then .bool false else .string text

def coerce (value : Value) (operator : Operator) (operand : String) : Sides :=
  let text := unquoted operand
  if (value.isNumeric && (Value.string text).isNumeric) || (operator.isRelational && text != "") then
    ⟨.int value.toInt, .int (Value.string text).toInt⟩
  else ⟨value, wordValue text⟩

end FieldLogic
