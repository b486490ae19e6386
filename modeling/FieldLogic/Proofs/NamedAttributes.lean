import FieldLogic.Proofs.SetOutcome

/-! The attributes on which a decision depends. A leaf names the attribute before its operator, wherever the operator is
found, and looks at no other. So records that agree on the names of all leaves take every operand down the same path, with
the same result and the same diagnostics, and what else they hold is never seen. -/

namespace FieldLogic

/-- Two records with the same value, or none in either, under each name. -/
def Record.Agree (names : List String) (first second : Record) : Prop :=
  ∀ name ∈ names, first.get? name = second.get? name

theorem Record.Agree.mono {names fewer : List String} {first second : Record} (agree : Agree names first second)
    (within : fewer ⊆ names) : Agree fewer first second :=
  fun name member => agree name (within member)

namespace Expression

/-- The attributes that the leaves of a tree name, from left to right. A leaf without an operator names none. -/
def names (expression : Expression) : List String :=
  expression.leaves.filterMap fun literal => (Condition.ofLiteral? literal).map Condition.attributeName

def namesIn (text : String) : List String :=
  match parse text with
  | .ok expression => expression.names
  | .error _ => []

theorem names_subset_node (junction : Junction) {operand : Expression} {operands : List Expression}
    (member : operand ∈ operands) : operand.names ⊆ (junction.node operands).names := by
  rw [names, names, junction.node_leaves]
  induction operands with
  | nil => cases member
  | cons first others ih =>
    rw [allLeaves, List.filterMap_append]
    rcases List.mem_cons.mp member with rfl | later
    · exact List.subset_append_left ..
    · exact List.Subset.trans (ih later) (List.subset_append_right ..)

variable {first second : Record}

theorem evaluateLeaf_agree {literal : String} (agree : Record.Agree (names (.leaf literal)) first second) :
    evaluateLeaf first literal = evaluateLeaf second literal := by
  rw [evaluateLeaf, evaluateLeaf]
  cases parts : Condition.ofLiteral? literal with
  | none => rfl
  | some condition =>
    have same : first.get? condition.attributeName = second.get? condition.attributeName :=
      agree _ (by simp [names, leaves, parts])
    simp only [same]

theorem evaluate_agree {expression : Expression} (agree : Record.Agree expression.names first second) :
    evaluate first expression = evaluate second expression := by
  induction expression using induct with
  | leaf literal => exact evaluateLeaf_agree agree
  | node junction operands ih =>
    have same : evaluateEach first junction (operands.map id) = evaluateEach second junction operands :=
      evaluateEach_congr junction fun operand member => ih operand member (agree.mono (names_subset_node junction member))
    rw [evaluate_node, evaluate_node, ← same, List.map_id]
  | negation operand ih => rw [evaluate, evaluate, ih agree]

end Expression

namespace ConditionSet
open Expression

/-- The attributes that the conditions of a set name, as the sources give them next. A malformed text names none. -/
def names (set : ConditionSet) : List String := set.texts.flatMap namesIn

variable {first second : Record}

theorem evaluateSources_agree {sources : List Source}
    (agree : ∀ source ∈ sources, Record.Agree (namesIn source.resolve.1) first second) :
    evaluateSources first sources = evaluateSources second sources := by
  induction sources with
  | nil => rfl
  | cons source rest ih =>
    rw [List.forall_mem_cons] at agree
    rw [evaluateSources, evaluateSources, ih agree.2]
    cases read : parse source.resolve.1 with
    | error error => rfl
    | ok expression =>
      have within : Record.Agree expression.names first second := by
        have named := agree.1
        rw [namesIn, read] at named
        exact named
      simp only [evaluate_agree within]

theorem evaluate_agree {set : ConditionSet} (agree : Record.Agree set.names first second) :
    set.evaluate first = set.evaluate second := by
  have same : evaluateSources first set.sources = evaluateSources second set.sources := by
    apply evaluateSources_agree
    intro source member
    have within : namesIn source.resolve.1 ⊆ set.names := by
      intro name named
      exact List.mem_flatMap.mpr ⟨_, List.mem_map_of_mem member, named⟩
    exact agree.mono within
  rw [ConditionSet.evaluate, ConditionSet.evaluate, same]

/-- Records that agree on the attributes a tree names, or the conditions of a set, are decided alike: with the same result
or error, and the same diagnostics on the way. -/
theorem decided_by_names {first second : Record} :
    (∀ {expression : Expression}, Record.Agree expression.names first second →
      Expression.evaluate first expression = Expression.evaluate second expression) ∧
    ∀ {set : ConditionSet}, Record.Agree set.names first second →
      (set.evaluate first).1 = (set.evaluate second).1 ∧ (set.evaluate first).2 = (set.evaluate second).2 := by
  refine ⟨Expression.evaluate_agree, ?_⟩
  intro set agree
  rw [evaluate_agree agree]
  exact ⟨rfl, rfl⟩

/-- A leaf whose operator is found in its operand, so that neither record has the attribute it names, and a set that goes on
to a malformed text. -/
theorem decided_by_names_overlooked :
    let first := Record.ofList [("note", .string "a=b"), ("age", .int 20)]
    let second := Record.ofList [("age", .int 20), ("name", .null)]
    let tree := Expression.disjunction [.leaf "note contains a=b", .negation (.leaf "age >= 18")]
    tree.names = ["note contains a", "age"] ∧ Record.Agree tree.names first second ∧
      Expression.evaluate first tree = Expression.evaluate second tree ∧
      (ConditionSet.evaluate ⟨[.fixed "note contains a=b", .fixed "(age"], .all⟩ first).1 =
        (ConditionSet.evaluate ⟨[.fixed "note contains a=b", .fixed "(age"], .all⟩ second).1 := by
  intro first second tree
  have named : tree.names = ["note contains a", "age"] := by decide +kernel
  have listed : ConditionSet.names ⟨[.fixed "note contains a=b", .fixed "(age"], .all⟩ = ["note contains a"] := by
    decide +kernel
  have agree : Record.Agree ["note contains a", "age"] first second := by
    simp [Record.Agree, first, second, Record.ofList, Record.get?_insert]
  obtain ⟨trees, sets⟩ := @decided_by_names first second
  refine ⟨named, named ▸ agree, trees (named ▸ agree), (sets ?_).1⟩
  rw [listed]
  exact agree.mono (by simp)

end ConditionSet

end FieldLogic
