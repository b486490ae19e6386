import FieldLogic.Proofs.EvaluationOrder

/-! Boolean algebra of condition trees. Joining is associative down to the tree itself, and its truth is that of the
connective with the second side looked at only where the first leaves the outcome open. A negation therefore goes through
a joint by turning it into the other one: not only the truth but every diagnostic stays. -/

namespace FieldLogic

/-- Negating the outcomes changes which of them goes on to the second, not what is looked at. -/
theorem Traced.map_not_chain (goes : Bool) (first second : Traced Bool) :
    (first.chain goes second).map not = (first.map not).chain (!goes) (second.map not) := by
  by_cases held : first.result = goes
  · simp [chain, followedBy, map, held]
  · simp [chain, map, held]

namespace Expression

def Junction.dual : Junction → Junction
  | and => or
  | or => and

theorem Junction.goes_dual (junction : Junction) : junction.dual.goes = !junction.goes := by
  cases junction <;> rfl

variable (record : Record)

theorem evaluate_negation (operand : Expression) :
    evaluate record (negation operand) = (evaluate record operand).map not := by
  simp only [evaluate]

theorem evaluate_negation_join (junction : Junction) (left right : Expression) :
    evaluate record (negation (junction.join left right)) =
      evaluate record (junction.dual.join (negation left) (negation right)) := by
  simp only [evaluate_negation, evaluate_join, Traced.map_not_chain, Junction.goes_dual]

theorem evaluate_and (left right : Expression) :
    evaluate record (left.and right) = (evaluate record left).chain true (evaluate record right) :=
  evaluate_join record .and left right

theorem evaluate_or (left right : Expression) :
    evaluate record (left.or right) = (evaluate record left).chain false (evaluate record right) :=
  evaluate_join record .or left right

/-- Joining is associative. A conjunction is true if both sides are, and the second is looked at only if the first is true;
a disjunction is true if one side is, and the second is looked at only if the first is false. The negation of either is
the other one of the negations, and the two leave the same diagnostics. -/
theorem joined_as_boolean_algebra (record : Record) (first second third : Expression) :
    ((first.and second).and third = first.and (second.and third) ∧
      (first.or second).or third = first.or (second.or third)) ∧
    ((evaluate record (first.and second)).result = ((evaluate record first).result && (evaluate record second).result) ∧
      (evaluate record (first.and second)).diagnostics = (evaluate record first).diagnostics ++
        if (evaluate record first).result = true then (evaluate record second).diagnostics else []) ∧
    ((evaluate record (first.or second)).result = ((evaluate record first).result || (evaluate record second).result) ∧
      (evaluate record (first.or second)).diagnostics = (evaluate record first).diagnostics ++
        if (evaluate record first).result = false then (evaluate record second).diagnostics else []) ∧
    (evaluate record (negation (first.and second)) = evaluate record ((negation first).or (negation second)) ∧
      evaluate record (negation (first.or second)) = evaluate record ((negation first).and (negation second))) := by
  have conjunction : (evaluate record (first.and second)).result =
      ((evaluate record first).result && (evaluate record second).result) := by
    rw [evaluate_and, Traced.chain_result]
    cases (evaluate record first).result <;> rfl
  have disjunction : (evaluate record (first.or second)).result =
      ((evaluate record first).result || (evaluate record second).result) := by
    rw [evaluate_or, Traced.chain_result]
    cases (evaluate record first).result <;> rfl
  refine ⟨⟨Junction.join_assoc .and .., Junction.join_assoc .or ..⟩, ⟨conjunction, ?_⟩, ⟨disjunction, ?_⟩, ?_, ?_⟩
  · rw [evaluate_and, Traced.chain_diagnostics]
  · rw [evaluate_or, Traced.chain_diagnostics]
  · exact evaluate_negation_join record .and first second
  · exact evaluate_negation_join record .or first second

end Expression

end FieldLogic
