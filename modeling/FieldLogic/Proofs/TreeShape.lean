import FieldLogic.Expression.Basic

/-! The shape of condition trees: their leaves from left to right, trees as the joining functions build them, and the
tree of that shape for any other. -/

namespace FieldLogic.Expression

mutual

def leaves : Expression → List String
  | leaf text => [text]
  | conjunction operands | disjunction operands => allLeaves operands
  | negation operand => operand.leaves

def allLeaves : List Expression → List String
  | [] => []
  | first :: others => first.leaves ++ allLeaves others

end

mutual

def negations : Expression → Nat
  | leaf _ => 0
  | conjunction operands | disjunction operands => allNegations operands
  | negation operand => operand.negations + 1

def allNegations : List Expression → Nat
  | [] => 0
  | first :: others => first.negations + allNegations others

end

mutual

/-- Whether some conjunction or disjunction has no operands. -/
def hollow : Expression → Bool
  | leaf _ => false
  | conjunction operands | disjunction operands => operands.isEmpty || anyHollow operands
  | negation operand => operand.hollow

def anyHollow : List Expression → Bool
  | [] => false
  | first :: others => first.hollow || anyHollow others

end

/-- The two kinds of node with a row of operands. -/
inductive Junction where
  | and
  | or
deriving DecidableEq

def junction? : Expression → Option Junction
  | conjunction _ => some .and
  | disjunction _ => some .or
  | leaf _ | negation _ => none

namespace Junction

def node : Junction → List Expression → Expression
  | and => conjunction
  | or => disjunction

/-- The operands that a tree contributes to a node of the kind. -/
def operands : Junction → Expression → List Expression
  | and => conjuncts
  | or => disjuncts

def join : Junction → Expression → Expression → Expression
  | and => Expression.and
  | or => Expression.or

end Junction

/-- Induction on trees that takes the two kinds of node with a row of operands as one. -/
@[elab_as_elim]
theorem induct {motive : Expression → Prop} (leaf : ∀ text, motive (leaf text))
    (node : ∀ (junction : Junction) (operands : List Expression), (∀ operand ∈ operands, motive operand) →
      motive (junction.node operands))
    (negation : ∀ operand, motive operand → motive (negation operand)) (expression : Expression) : motive expression :=
  match expression with
  | .leaf text => leaf text
  | .conjunction operands => node .and operands fun operand _ => induct leaf node negation operand
  | .disjunction operands => node .or operands fun operand _ => induct leaf node negation operand
  | .negation operand => negation operand (induct leaf node negation operand)

/-- Every conjunction and disjunction has two operands or more, none of its own kind. -/
inductive Canonical : Expression → Prop where
  | leaf {text} : Canonical (.leaf text)
  | conjunction {operands} (many : 2 ≤ operands.length) (spliced : ∀ operand ∈ operands, operand.junction? ≠ some .and)
    (each : ∀ operand ∈ operands, Canonical operand) : Canonical (.conjunction operands)
  | disjunction {operands} (many : 2 ≤ operands.length) (spliced : ∀ operand ∈ operands, operand.junction? ≠ some .or)
    (each : ∀ operand ∈ operands, Canonical operand) : Canonical (.disjunction operands)
  | negation {operand} (inner : Canonical operand) : Canonical (.negation operand)

/-- The trees that joining and negating make of leaves. -/
inductive Built : Expression → Prop where
  | leaf {text} : Built (.leaf text)
  | and {left right} (first : Built left) (second : Built right) : Built (left.and right)
  | or {left right} (first : Built left) (second : Built right) : Built (left.or right)
  | negation {operand} (inner : Built operand) : Built (.negation operand)

/-- Trees joined one after the other from the left. Without trees there is nothing to join. -/
def joinAll (join : Expression → Expression → Expression) (nothing : Expression) : List Expression → Expression
  | [] => nothing
  | first :: others => others.foldl join first

mutual

/-- The tree built anew from its leaves by joining and negating. A single operand stands for itself. -/
def normalize : Expression → Expression
  | leaf text => leaf text
  | conjunction operands => joinAll and (conjunction []) (normalizeAll operands)
  | disjunction operands => joinAll or (disjunction []) (normalizeAll operands)
  | negation operand => negation operand.normalize

def normalizeAll : List Expression → List Expression
  | [] => []
  | first :: others => first.normalize :: normalizeAll others

end

theorem normalizeAll_eq_map (operands : List Expression) : normalizeAll operands = operands.map normalize := by
  induction operands with
  | nil => rfl
  | cons first others ih => rw [normalizeAll, ih, List.map_cons]

theorem anyHollow_eq_any (operands : List Expression) : anyHollow operands = operands.any hollow := by
  induction operands with
  | nil => rfl
  | cons first others ih => rw [anyHollow, ih, List.any_cons]

@[simp] theorem allLeaves_append (front back : List Expression) :
    allLeaves (front ++ back) = allLeaves front ++ allLeaves back := by
  induction front with
  | nil => rfl
  | cons first others ih => simp [allLeaves, ih]

@[simp] theorem allNegations_append (front back : List Expression) :
    allNegations (front ++ back) = allNegations front + allNegations back := by
  induction front with
  | nil => simp [allNegations]
  | cons first others ih => simp [allNegations, ih, Nat.add_assoc]

namespace Junction

variable (junction : Junction)

@[simp] theorem node_leaves (operands : List Expression) : (junction.node operands).leaves = allLeaves operands := by
  cases junction <;> simp [node, leaves]

@[simp] theorem node_negations (operands : List Expression) :
    (junction.node operands).negations = allNegations operands := by
  cases junction <;> simp [node, negations]

@[simp] theorem node_hollow (operands : List Expression) :
    (junction.node operands).hollow = (operands.isEmpty || anyHollow operands) := by
  cases junction <;> simp [node, hollow]

theorem node_normalize (operands : List Expression) :
    (junction.node operands).normalize = joinAll junction.join (junction.node []) (operands.map normalize) := by
  cases junction <;> simp [node, normalize, join, normalizeAll_eq_map]

@[simp] theorem operands_node (operands : List Expression) : junction.operands (junction.node operands) = operands := by
  cases junction <;> rfl

theorem join_eq (left right : Expression) :
    junction.join left right = junction.node (junction.operands left ++ junction.operands right) := by
  cases junction <;> rfl

theorem join_assoc (first second third : Expression) :
    junction.join (junction.join first second) third = junction.join first (junction.join second third) := by
  simp only [join_eq, operands_node, List.append_assoc]

variable {junction}

theorem eq_node {expression : Expression} (same : expression.junction? = some junction) :
    expression = junction.node (junction.operands expression) := by
  cases expression with
  | conjunction | disjunction => cases same; rfl
  | leaf | negation => cases same

theorem operands_of_ne {expression : Expression} (other : expression.junction? ≠ some junction) :
    junction.operands expression = [expression] := by
  cases junction <;> cases expression <;> first | rfl | exact (other rfl).elim

variable (junction)

@[simp] theorem operands_leaves (expression : Expression) :
    allLeaves (junction.operands expression) = expression.leaves := by
  by_cases same : expression.junction? = some junction
  · rw [← junction.node_leaves, ← eq_node same]
  · simp [operands_of_ne same, allLeaves]

@[simp] theorem operands_negations (expression : Expression) :
    allNegations (junction.operands expression) = expression.negations := by
  by_cases same : expression.junction? = some junction
  · rw [← junction.node_negations, ← eq_node same]
  · simp [operands_of_ne same, allNegations]

@[simp] theorem join_leaves (left right : Expression) :
    (junction.join left right).leaves = left.leaves ++ right.leaves := by
  simp [join_eq]

@[simp] theorem join_negations (left right : Expression) :
    (junction.join left right).negations = left.negations + right.negations := by
  simp [join_eq]

end Junction

@[simp] theorem leaves_and (left right : Expression) : (left.and right).leaves = left.leaves ++ right.leaves :=
  Junction.and.join_leaves left right

@[simp] theorem leaves_or (left right : Expression) : (left.or right).leaves = left.leaves ++ right.leaves :=
  Junction.or.join_leaves left right

@[simp] theorem negations_and (left right : Expression) :
    (left.and right).negations = left.negations + right.negations :=
  Junction.and.join_negations left right

@[simp] theorem negations_or (left right : Expression) :
    (left.or right).negations = left.negations + right.negations :=
  Junction.or.join_negations left right

namespace Canonical

theorem node {junction : Junction} {operands : List Expression} (many : 2 ≤ operands.length)
    (spliced : ∀ operand ∈ operands, operand.junction? ≠ some junction)
    (each : ∀ operand ∈ operands, Canonical operand) : Canonical (junction.node operands) := by
  cases junction with
  | and => exact .conjunction many spliced each
  | or => exact .disjunction many spliced each

theorem operands {expression : Expression} (canonical : Canonical expression) (junction : Junction) :
    1 ≤ (junction.operands expression).length ∧
      ∀ operand ∈ junction.operands expression, operand.junction? ≠ some junction ∧ Canonical operand := by
  by_cases same : expression.junction? = some junction
  · cases canonical with
    | conjunction many spliced each | disjunction many spliced each =>
      cases same
      refine ⟨Nat.le_of_succ_le many, ?_⟩
      intro operand member
      exact ⟨spliced operand member, each operand member⟩
    | leaf | negation => cases same
  · rw [Junction.operands_of_ne same]
    refine ⟨Nat.le_refl 1, ?_⟩
    intro operand member
    rw [List.mem_singleton.mp member]
    exact ⟨same, canonical⟩

theorem join {left right : Expression} (junction : Junction) (first : Canonical left) (second : Canonical right) :
    Canonical (junction.join left right) := by
  obtain ⟨begun, front⟩ := first.operands junction
  obtain ⟨more, back⟩ := second.operands junction
  have each : ∀ operand ∈ junction.operands left ++ junction.operands right,
      operand.junction? ≠ some junction ∧ Canonical operand := by
    intro operand member
    rcases List.mem_append.mp member with member | member
    · exact front operand member
    · exact back operand member
  rw [junction.join_eq]
  refine .node ?_ (fun _ member => (each _ member).1) (fun _ member => (each _ member).2)
  rw [List.length_append]
  omega

end Canonical

theorem Built.canonical {expression : Expression} (built : Built expression) : Canonical expression := by
  induction built with
  | leaf => exact .leaf
  | and _ _ first second => exact first.join .and second
  | or _ _ first second => exact first.join .or second
  | negation _ inner => exact .negation inner

/-- Joining operands of other kinds one by one splices nothing but the first. -/
theorem Junction.foldl_join {junction : Junction} {first : Expression} {others : List Expression} (more : others ≠ [])
    (spliced : ∀ operand ∈ others, operand.junction? ≠ some junction) :
    others.foldl junction.join first = junction.node (junction.operands first ++ others) := by
  induction others generalizing first with
  | nil => exact (more rfl).elim
  | cons second others ih =>
    have single := operands_of_ne (spliced second (List.mem_cons_self ..))
    rw [List.foldl_cons, junction.join_eq, single]
    by_cases last : others = []
    · rw [last, List.foldl_nil]
    · rw [ih last fun operand member => spliced operand (List.mem_cons_of_mem _ member), operands_node,
        List.append_assoc, List.singleton_append]

theorem Junction.joinAll_eq_node {junction : Junction} {operands : List Expression} (many : 2 ≤ operands.length)
    (spliced : ∀ operand ∈ operands, operand.junction? ≠ some junction) (nothing : Expression) :
    joinAll junction.join nothing operands = junction.node operands := by
  have begun := List.ne_nil_of_length_pos (Nat.lt_of_lt_of_le Nat.two_pos many)
  obtain ⟨first, others, rfl⟩ := List.exists_cons_of_ne_nil begun
  have single := operands_of_ne (spliced first (List.mem_cons_self ..))
  have more : others ≠ [] := by
    intro empty
    subst empty
    exact absurd many (by simp)
  rw [joinAll, foldl_join more fun operand member => spliced operand (List.mem_cons_of_mem _ member), single,
    List.singleton_append]

theorem Canonical.normalize {expression : Expression} (canonical : Canonical expression) :
    expression.normalize = expression := by
  have row {junction : Junction} {operands : List Expression} (many : 2 ≤ operands.length)
      (spliced : ∀ operand ∈ operands, operand.junction? ≠ some junction)
      (each : ∀ operand ∈ operands, operand.normalize = operand) :
      (junction.node operands).normalize = junction.node operands := by
    rw [junction.node_normalize, List.map_congr_left each, List.map_id', Junction.joinAll_eq_node many spliced]
  induction canonical with
  | leaf => rfl
  | conjunction many spliced _ ih | disjunction many spliced _ ih =>
    have rebuilt := row many spliced ih
    exact rebuilt
  | negation _ ih => rw [Expression.normalize, ih]

theorem Canonical.solid {expression : Expression} (canonical : Canonical expression) : expression.hollow = false := by
  induction canonical with
  | leaf => rfl
  | conjunction many _ _ ih | disjunction many _ _ ih =>
    rw [hollow, anyHollow_eq_any, Bool.or_eq_false_iff, List.isEmpty_eq_false_iff, List.any_eq_false]
    refine ⟨List.ne_nil_of_length_pos (Nat.lt_of_lt_of_le Nat.two_pos many), ?_⟩
    intro operand member
    rw [ih operand member]
    exact Bool.false_ne_true
  | negation _ ih => rw [hollow, ih]

end FieldLogic.Expression
