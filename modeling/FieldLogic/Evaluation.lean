import FieldLogic.Condition.Comparison
import FieldLogic.Diagnostic
import FieldLogic.Expression.Basic
import FieldLogic.Record

/-! The truth of a condition tree for a record. Operands are looked at from left to right until the outcome is
known. A leaf without an operator, or about an attribute that the record lacks, is false. -/

namespace FieldLogic.Expression

def evaluateLeaf (record : Record) (literal : String) : Traced Bool :=
  match Condition.ofLiteral? literal with
  | none => ⟨false, [.noOperator literal]⟩
  | some condition =>
    match record.get? condition.attributeName with
    | none => ⟨false, [.missingAttribute condition.attributeName]⟩
    | some value =>
      let matched := condition.operator.holds value condition.operand
      ⟨matched, [.compared condition value.kind matched]⟩

mutual

def evaluate (record : Record) : Expression → Traced Bool
  | leaf literal => evaluateLeaf record literal
  | conjunction operands => evaluateAll record operands
  | disjunction operands => evaluateAny record operands
  | negation operand => (evaluate record operand).map not

def evaluateAll (record : Record) : List Expression → Traced Bool
  | [] => .silent true
  | first :: others =>
    let head := evaluate record first
    if head.result then head.followedBy (evaluateAll record others) else head

def evaluateAny (record : Record) : List Expression → Traced Bool
  | [] => .silent false
  | first :: others =>
    let head := evaluate record first
    if head.result then head else head.followedBy (evaluateAny record others)

end

end FieldLogic.Expression
