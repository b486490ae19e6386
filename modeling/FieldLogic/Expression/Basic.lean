/-! Condition trees. A leaf keeps its text as written. Conjunctions and disjunctions have any number of
operands, and joining two trees splices operands of the same kind, so a long chain is one flat node. -/

namespace FieldLogic

inductive Expression where
  | leaf (text : String)
  | conjunction (operands : List Expression)
  | disjunction (operands : List Expression)
  | negation (operand : Expression)
deriving Inhabited

namespace Expression

/-- The operands a tree contributes to a conjunction. -/
def conjuncts : Expression → List Expression
  | conjunction operands => operands
  | single => [single]

def disjuncts : Expression → List Expression
  | disjunction operands => operands
  | single => [single]

def and (left right : Expression) : Expression := conjunction (left.conjuncts ++ right.conjuncts)

def or (left right : Expression) : Expression := disjunction (left.disjuncts ++ right.disjuncts)

@[simp] theorem conjuncts_and (left right : Expression) :
    (left.and right).conjuncts = left.conjuncts ++ right.conjuncts := rfl

@[simp] theorem disjuncts_or (left right : Expression) :
    (left.or right).disjuncts = left.disjuncts ++ right.disjuncts := rfl

def negated : Nat → Expression → Expression
  | 0, operand => operand
  | count + 1, operand => negation (negated count operand)

mutual

private def decideEq : (left right : Expression) → Decidable (left = right)
  | leaf first, leaf second => decidable_of_iff (first = second) (by simp)
  | conjunction first, conjunction second =>
    match decideEqAll first second with
    | isTrue same => isTrue (by rw [same])
    | isFalse different => isFalse (by simpa using different)
  | disjunction first, disjunction second =>
    match decideEqAll first second with
    | isTrue same => isTrue (by rw [same])
    | isFalse different => isFalse (by simpa using different)
  | negation first, negation second =>
    match decideEq first second with
    | isTrue same => isTrue (by rw [same])
    | isFalse different => isFalse (by simpa using different)
  | leaf _, conjunction _ | leaf _, disjunction _ | leaf _, negation _ => isFalse nofun
  | conjunction _, leaf _ | conjunction _, disjunction _ | conjunction _, negation _ => isFalse nofun
  | disjunction _, leaf _ | disjunction _, conjunction _ | disjunction _, negation _ => isFalse nofun
  | negation _, leaf _ | negation _, conjunction _ | negation _, disjunction _ => isFalse nofun

private def decideEqAll : (left right : List Expression) → Decidable (left = right)
  | [], [] => isTrue rfl
  | first :: others, second :: more =>
    match decideEq first second, decideEqAll others more with
    | isTrue same, isTrue all => isTrue (by rw [same, all])
    | isFalse different, _ => isFalse (by simp [different])
    | _, isFalse different => isFalse (by simp [different])
  | [], _ :: _ | _ :: _, [] => isFalse nofun

end

instance : DecidableEq Expression := decideEq

end Expression

end FieldLogic
