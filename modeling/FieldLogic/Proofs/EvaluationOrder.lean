import FieldLogic.Evaluation
import FieldLogic.Proofs.TreeShape

/-! The order of evaluation. Joining two trees evaluates the second behind the first exactly if the first leaves the
outcome open, whatever operands are spliced, so the tree built anew evaluates with the same diagnostics. -/

namespace FieldLogic

/-- The second is looked at only if the first comes out so. -/
def Traced.chain (goes : Bool) (first second : Traced Bool) : Traced Bool :=
  if first.result = goes then first.followedBy second else first

namespace Traced

variable (goes : Bool)

theorem chain_result (first second : Traced Bool) :
    (first.chain goes second).result = if first.result = goes then second.result else first.result := by
  unfold chain
  split <;> rfl

theorem chain_diagnostics (first second : Traced Bool) :
    (first.chain goes second).diagnostics =
      first.diagnostics ++ if first.result = goes then second.diagnostics else [] := by
  unfold chain
  split
  next => rfl
  next => exact (List.append_nil _).symm

@[simp] theorem chain_silent (first : Traced Bool) : first.chain goes (.silent goes) = first := by
  obtain ⟨result, diagnostics⟩ := first
  cases result <;> cases goes <;> simp [chain, followedBy, silent]

@[simp] theorem silent_chain (second : Traced Bool) : (Traced.silent goes).chain goes second = second := by
  simp [chain, followedBy, silent]

theorem chain_assoc (first second third : Traced Bool) :
    (first.chain goes second).chain goes third = first.chain goes (second.chain goes third) := by
  by_cases held : first.result = goes <;> by_cases holds : second.result = goes <;>
    simp [chain, followedBy, held, holds]

end Traced

namespace Expression

/-- What an operand comes out as if it leaves the outcome of its node open. -/
def Junction.goes : Junction → Bool
  | and => true
  | or => false

def evaluateEach (record : Record) : Junction → List Expression → Traced Bool
  | .and => evaluateAll record
  | .or => evaluateAny record

variable (record : Record) (junction : Junction)

theorem evaluate_node (operands : List Expression) :
    evaluate record (junction.node operands) = evaluateEach record junction operands := by
  cases junction <;> simp [Junction.node, evaluate, evaluateEach]

@[simp] theorem evaluateEach_nil : evaluateEach record junction [] = .silent junction.goes := by
  cases junction <;> simp [evaluateEach, evaluateAll, evaluateAny, Junction.goes]

theorem evaluateEach_cons (first : Expression) (others : List Expression) :
    evaluateEach record junction (first :: others) =
      (evaluate record first).chain junction.goes (evaluateEach record junction others) := by
  cases outcome : (evaluate record first).result <;> cases junction <;>
    simp [evaluateEach, evaluateAll, evaluateAny, Traced.chain, Junction.goes, outcome]

theorem evaluateEach_append (front back : List Expression) :
    evaluateEach record junction (front ++ back) =
      (evaluateEach record junction front).chain junction.goes (evaluateEach record junction back) := by
  induction front with
  | nil => simp
  | cons first others ih => rw [List.cons_append, evaluateEach_cons, evaluateEach_cons, ih, Traced.chain_assoc]

theorem evaluateEach_operands (expression : Expression) :
    evaluateEach record junction (junction.operands expression) = evaluate record expression := by
  by_cases same : expression.junction? = some junction
  · rw [← evaluate_node, ← Junction.eq_node same]
  · rw [Junction.operands_of_ne same, evaluateEach_cons, evaluateEach_nil, Traced.chain_silent]

theorem evaluate_join (left right : Expression) :
    evaluate record (junction.join left right) =
      (evaluate record left).chain junction.goes (evaluate record right) := by
  rw [junction.join_eq, evaluate_node, evaluateEach_append, evaluateEach_operands, evaluateEach_operands]

theorem evaluate_joinAll (operands : List Expression) :
    evaluate record (joinAll junction.join (junction.node []) operands) = evaluateEach record junction operands := by
  cases operands with
  | nil => rw [joinAll, evaluate_node]
  | cons first others =>
    rw [joinAll, evaluateEach_cons]
    induction others generalizing first with
    | nil => rw [List.foldl_nil, evaluateEach_nil, Traced.chain_silent]
    | cons second others ih => rw [List.foldl_cons, ih, evaluate_join, evaluateEach_cons, Traced.chain_assoc]

/-- Operands that come out as others do, for the same record or another, settle their node as the others do. -/
theorem evaluateEach_congr {first second : Record} {change : Expression → Expression} {operands : List Expression}
    (same : ∀ operand ∈ operands, evaluate first (change operand) = evaluate second operand) :
    evaluateEach first junction (operands.map change) = evaluateEach second junction operands := by
  induction operands with
  | nil => simp
  | cons operand others ih =>
    rw [List.forall_mem_cons] at same
    rw [List.map_cons, evaluateEach_cons, evaluateEach_cons, same.1, ih same.2]

/-- A tree and the tree built anew have the same outcome by the same steps. -/
theorem evaluate_normalize (expression : Expression) :
    evaluate record expression.normalize = evaluate record expression := by
  induction expression using induct with
  | leaf text => rfl
  | node junction operands same =>
    rw [junction.node_normalize, evaluate_joinAll, evaluateEach_congr junction same, evaluate_node]
  | negation operand same => rw [normalize, evaluate, same, evaluate]

end Expression

end FieldLogic
