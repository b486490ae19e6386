import FieldLogic.Condition.Coercion
import FieldLogic.Text.Search
import FieldLogic.Value.Comparison

/-! When an operator holds between a value and an operand. Every comparison has an answer: what makes no sense for
the types does not hold. -/

namespace FieldLogic
open Text

namespace Value

/-- A test of two texts; an empty operand and values without a text fail it. -/
def textTest (test : List Char → List Char → Bool) (value operand : Value) : Bool :=
  match value.asText?, operand.asText? with
  | some text, some part => part != "" && test part.toList text.toList
  | _, _ => false

/-- A list includes what equals one of its items, a text what occurs in it. -/
def includes (value operand : Value) : Bool :=
  match value with
  | list items => items.any (looselyEqual · operand)
  | other => textTest occurs other operand

end Value

namespace Operator

def holdsBetween (operator : Operator) (sides : Sides) : Bool :=
  match operator with
  | assign | equal => sides.value.looselyEqual sides.operand
  | notEqual => !sides.value.looselyEqual sides.operand
  | identical => sides.value.identical sides.operand
  | notIdentical => !sides.value.identical sides.operand
  | above => sides.value.looseOrder? sides.operand == some .gt
  | below => sides.value.looseOrder? sides.operand == some .lt
  | atLeast => (sides.value.looseOrder? sides.operand).any Ordering.isGE
  | atMost => (sides.value.looseOrder? sides.operand).any Ordering.isLE
  | boolean | truthy => sides.value.isTruthy == sides.operand.isTruthy
  | includes | contains => sides.value.includes sides.operand
  | startsWith | startsWithWord => Value.textTest List.isPrefixOf sides.value sides.operand
  | endsWith | endsWithWord => Value.textTest List.isSuffixOf sides.value sides.operand

def holds (operator : Operator) (value : Value) (operand : String) : Bool :=
  operator.holdsBetween (coerce value operator operand)

def tokenHolds (token : String) (value : Value) (operand : String) : Bool :=
  (ofToken? token).any fun operator => operator.holds value operand

end Operator

end FieldLogic
