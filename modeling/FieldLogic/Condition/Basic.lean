import FieldLogic.Condition.Operator
import FieldLogic.Text.Blank
import FieldLogic.Text.Search

/-! A condition is a leaf literal such as `age >= 18` taken apart. The operator is the first in the order of
search whose token occurs anywhere in the literal, and the literal parts at that token's first occurrence. -/

namespace FieldLogic
open Text

structure Condition where
  attributeName : String
  operator : Operator
  /-- The text compared with, quotes included. -/
  operand : String
deriving DecidableEq, Repr

namespace Condition

/-- The parts of a literal around an operator's first occurrence. -/
def around? (literal : String) (operator : Operator) : Option Condition :=
  (cut operator.token.toList literal.toList).map fun (before, after) =>
    ⟨String.ofList (trim before), operator, String.ofList (trim after)⟩

def ofLiteral? (literal : String) : Option Condition := Operator.all.findSome? (around? literal)

def noOperatorMessage (literal : String) : String := "no known operator found in literal '" ++ literal ++ "'"

end Condition

end FieldLogic
