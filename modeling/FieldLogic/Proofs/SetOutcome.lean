import FieldLogic.ConditionSet.Basic
import FieldLogic.Proofs.EvaluationOrder

/-! The outcome of a set of conditions. Each condition is read and evaluated whatever the ones before it came out as, so
the first malformed text is what a set reports, and only without one are the results combined. They come out as the one
tree of all conditions does, although that tree is left as soon as its outcome is known. -/

namespace FieldLogic

instance decidableEqExcept {ε α : Type} [DecidableEq ε] [DecidableEq α] : DecidableEq (Except ε α)
  | .ok first, .ok second => decidable_of_iff (first = second) (by simp)
  | .error first, .error second => decidable_of_iff (first = second) (by simp)
  | .ok _, .error _ | .error _, .ok _ => isFalse nofun

namespace Expression

variable (record : Record) (expressions : List Expression)

def resultsOf : List Bool := expressions.map fun expression => (evaluate record expression).result

/-- The diagnostics of trees that are all evaluated, one after the other. -/
def diagnosticsOf : List Diagnostic := expressions.flatMap fun expression => (evaluate record expression).diagnostics

theorem diagnosticsOf_cons (first : Expression) (others : List Expression) :
    diagnosticsOf record (first :: others) = (evaluate record first).diagnostics ++ diagnosticsOf record others :=
  List.flatMap_cons

theorem wellFormed_or_malformed (texts : List String) :
    (∃ expressions : List Expression, texts.map parse = expressions.map .ok) ∨
      ∃ (front rest : List String) (text : String) (expressions : List Expression) (error : ParseError),
        texts = front ++ text :: rest ∧ front.map parse = expressions.map .ok ∧ parse text = .error error := by
  induction texts with
  | nil => exact .inl ⟨[], rfl⟩
  | cons head tail ih =>
    cases first : parse head with
    | error error => exact .inr ⟨[], tail, head, [], error, rfl, rfl, first⟩
    | ok expression =>
      rcases ih with ⟨expressions, read⟩ | ⟨front, rest, text, expressions, error, rfl, read, malformed⟩
      · exact .inl ⟨expression :: expressions, by rw [List.map_cons, List.map_cons, first, read]⟩
      · refine .inr ⟨head :: front, rest, text, expression :: expressions, error, rfl, ?_, malformed⟩
        rw [List.map_cons, List.map_cons, first, read]

end Expression

namespace Mode
open Expression

def junction : Mode → Junction
  | any => .or
  | all => .and

theorem combine_resultsOf (mode : Mode) (record : Record) (expressions : List Expression) :
    mode.combine (resultsOf record expressions) = (evaluateEach record mode.junction expressions).result := by
  induction expressions with
  | nil => cases mode <;> simp [resultsOf, combine, junction, Traced.silent, Junction.goes]
  | cons first others ih =>
    rw [evaluateEach_cons]
    cases mode <;> cases outcome : (evaluate record first).result <;>
      simp_all [resultsOf, combine, junction, Junction.goes, Traced.chain, Traced.followedBy]

/-- The one tree of several conditions is true exactly if the mode finds their results so. -/
theorem combine_joined (mode : Mode) (record : Record) (first : Expression) (others : List Expression) :
    (evaluate record (others.foldl mode.junction.join first)).result =
      mode.combine (resultsOf record (first :: others)) := by
  rw [combine_resultsOf, ← evaluate_joinAll, joinAll]

end Mode

namespace ConditionSet
open Expression

/-- The texts that the sources of a set give next. -/
def texts (set : ConditionSet) : List String := set.sources.map fun source => source.resolve.1

theorem length_texts (set : ConditionSet) : set.texts.length = set.sources.length := List.length_map ..

/-- Sources whose texts are well-formed are all evaluated before those behind them. -/
theorem evaluateSources_append (record : Record) {front back : List Source} {expressions : List Expression}
    (read : front.map (fun source => parse source.resolve.1) = expressions.map .ok) :
    (evaluateSources record (front ++ back)).1 =
      ⟨(evaluateSources record back).1.result.map (resultsOf record expressions ++ ·),
        diagnosticsOf record expressions ++ (evaluateSources record back).1.diagnostics⟩ := by
  induction front generalizing expressions with
  | nil =>
    cases expressions with
    | nil =>
      have nothing (outcome : Except ParseError (List Bool)) : outcome.map (resultsOf record [] ++ ·) = outcome := by
        cases outcome <;> rfl
      rw [nothing]
      rfl
    | cons first others => cases read
  | cons source rest ih =>
    cases expressions with
    | nil => cases read
    | cons first others =>
      rw [List.map_cons, List.map_cons, List.cons.injEq] at read
      rw [List.cons_append, evaluateSources, read.1, diagnosticsOf_cons, List.append_assoc]
      simp only [ih read.2, Traced.followedBy, Traced.map]
      cases (evaluateSources record back).1.result <;> rfl

variable {set : ConditionSet} {record : Record}

theorem evaluate_of_error {error : ParseError} (first : (evaluateSources record set.sources).1.result = .error error) :
    (set.evaluate record).1 = ⟨.error error, (evaluateSources record set.sources).1.diagnostics⟩ := by
  have asked : set.isEmpty = false := by
    rw [isEmpty, List.isEmpty_eq_false_iff]
    intro none
    rw [none] at first
    cases first
  simp [evaluate, asked, first]

theorem evaluate_of_ok {results : List Bool} (some : set.sources ≠ [])
    (all : (evaluateSources record set.sources).1.result = .ok results) :
    (set.evaluate record).1 = ⟨.ok (set.mode.combine results), (evaluateSources record set.sources).1.diagnostics ++
      [.evaluatedSet set.mode results.length (set.mode.combine results)]⟩ := by
  simp [evaluate, isEmpty, some, all]

theorem evaluate_malformed {front rest : List String} {text : String} {expressions : List Expression}
    {error : ParseError} (texts : set.texts = front ++ text :: rest) (read : front.map parse = expressions.map .ok)
    (malformed : parse text = .error error) :
    (set.evaluate record).1 = ⟨.error error, diagnosticsOf record expressions⟩ := by
  obtain ⟨before, behind, sources, rfl, remaining⟩ := List.map_eq_append_iff.mp texts
  obtain ⟨source, after, rfl, rfl, _⟩ := List.map_eq_cons_iff.mp remaining
  rw [List.map_map] at read
  have stopped : (evaluateSources record (source :: after)).1 = .silent (.error error) := by
    rw [evaluateSources, malformed]
  have outcome : (evaluateSources record set.sources).1 = ⟨.error error, diagnosticsOf record expressions⟩ := by
    rw [sources, evaluateSources_append record read, stopped, Traced.silent, List.append_nil]
    rfl
  have failed : (evaluateSources record set.sources).1.result = .error error := by rw [outcome]
  rw [evaluate_of_error failed, outcome]

theorem evaluate_wellFormed {first : Expression} {others : List Expression}
    (read : set.texts.map parse = (first :: others).map .ok) :
    (set.evaluate record).1 = ⟨.ok (set.mode.combine (resultsOf record (first :: others))),
      diagnosticsOf record (first :: others) ++
        [.evaluatedSet set.mode set.sources.length (set.mode.combine (resultsOf record (first :: others)))]⟩ := by
  have size := congrArg List.length read
  rw [List.length_map, List.length_map, length_texts] at size
  rw [texts, List.map_map] at read
  have some : set.sources ≠ [] := by
    intro none
    rw [none] at size
    cases size
  have outcome : (evaluateSources record set.sources).1 =
      ⟨.ok (resultsOf record (first :: others)), diagnosticsOf record (first :: others)⟩ := by
    rw [← List.append_nil set.sources, evaluateSources_append record read]
    simp [evaluateSources, Traced.silent, Except.map]
  have all : (evaluateSources record set.sources).1.result = .ok (resultsOf record (first :: others)) := by rw [outcome]
  rw [evaluate_of_ok some all, outcome, size, resultsOf, List.length_map]

/-- What a set of a mode reports of a record when its sources give these texts: the first malformed text, or the truth of
the tree in which they are joined. -/
inductive Reports (mode : Mode) (record : Record) : List String → Traced (Except ParseError Bool) → Prop where
  | empty : Reports mode record [] ⟨.ok false, [.emptySet mode]⟩
  | malformed {front rest : List String} {text : String} {expressions : List Expression} {error : ParseError}
      (read : front.map parse = expressions.map .ok) (malformed : parse text = .error error) :
      Reports mode record (front ++ text :: rest) ⟨.error error, diagnosticsOf record expressions⟩
  | wellFormed {texts : List String} {first : Expression} {others : List Expression} {matched : Bool}
      (read : texts.map parse = (first :: others).map .ok)
      (joined : (Expression.evaluate record (others.foldl mode.junction.join first)).result = matched) :
      Reports mode record texts
        ⟨.ok matched, diagnosticsOf record (first :: others) ++ [.evaluatedSet mode texts.length matched]⟩

theorem evaluate_reports (set : ConditionSet) (record : Record) :
    Reports set.mode record set.texts (set.evaluate record).1 := by
  rcases wellFormed_or_malformed set.texts with
    ⟨expressions, read⟩ | ⟨front, rest, text, expressions, error, same, read, malformed⟩
  · cases expressions with
    | nil =>
      have none : set.texts = [] := List.map_eq_nil_iff.mp read
      have empty : set.isEmpty = true := List.isEmpty_iff.mpr (List.map_eq_nil_iff.mp none)
      rw [none, ConditionSet.evaluate, if_pos empty]
      exact .empty
    | cons first others =>
      rw [evaluate_wellFormed read, ← length_texts]
      exact .wellFormed read (Mode.combine_joined ..)
  · rw [evaluate_malformed same read malformed, same]
    exact .malformed read malformed

/-- What a set reports. If a text is malformed and none before it is, that is its error, behind the diagnostics of those
before. If all are well-formed, it is the truth of the tree in which they are joined, behind the diagnostics of them
all. Without sources it is false. -/
theorem evaluate_outcome (set : ConditionSet) (record : Record) :
    (∀ {front rest : List String} {text : String} {expressions : List Expression} {error : ParseError},
      set.texts = front ++ text :: rest → front.map parse = expressions.map .ok → parse text = .error error →
        (set.evaluate record).1 = ⟨.error error, diagnosticsOf record expressions⟩) ∧
    (∀ {first : Expression} {others : List Expression}, set.texts.map parse = (first :: others).map .ok →
      let matched := (Expression.evaluate record (others.foldl set.mode.junction.join first)).result
      (set.evaluate record).1 = ⟨.ok matched, diagnosticsOf record (first :: others) ++
        [.evaluatedSet set.mode set.sources.length matched]⟩) ∧
    (set.sources = [] → (set.evaluate record).1.result = .ok false) := by
  refine ⟨evaluate_malformed, ?_, ?_⟩
  · intro first others read
    rw [Mode.combine_joined]
    exact evaluate_wellFormed read
  · intro none
    simp [evaluate, isEmpty, none]

/-- A malformed text behind one that holds, and a producer whose text is read as two conditions. -/
theorem evaluate_outcome_mixed :
    parse "(b = 2" = .error ⟨"(b = 2", 6, 1⟩ ∧
      (evaluate ⟨[.fixed "NOT a = 1", .produced (.cycling "(b = 2" []), .fixed ")"], .any⟩ .empty).1 =
        ⟨.error ⟨"(b = 2", 6, 1⟩, diagnosticsOf .empty [.negation (.leaf "a = 1")]⟩ ∧
      (evaluate ⟨[.produced (.cycling "a = 1 OR b = 2" []), .fixed "NOT a = 1"], .any⟩ .empty).1 =
        ⟨.ok true, diagnosticsOf .empty [.disjunction [.leaf "a = 1", .leaf "b = 2"], .negation (.leaf "a = 1")] ++
          [.evaluatedSet .any 2 true]⟩ := by
  have malformed : parse "(b = 2" = .error ⟨"(b = 2", 6, 1⟩ := by decide +kernel
  have negated : parse "NOT a = 1" = .ok (.negation (.leaf "a = 1")) := by decide +kernel
  have either : parse "a = 1 OR b = 2" = .ok (.disjunction [.leaf "a = 1", .leaf "b = 2"]) := by decide +kernel
  have joined : (Expression.evaluate .empty ([.negation (.leaf "a = 1")].foldl Mode.any.junction.join
      (.disjunction [.leaf "a = 1", .leaf "b = 2"]))).result = true := by decide +kernel
  refine ⟨malformed, ?_, ?_⟩
  · obtain ⟨reported, _⟩ :=
      evaluate_outcome ⟨[.fixed "NOT a = 1", .produced (.cycling "(b = 2" []), .fixed ")"], .any⟩ .empty
    exact reported (rfl : _ = ["NOT a = 1"] ++ "(b = 2" :: [")"]) (congrArg ([·]) negated) malformed
  · obtain ⟨_, combined, _⟩ :=
      evaluate_outcome ⟨[.produced (.cycling "a = 1 OR b = 2" []), .fixed "NOT a = 1"], .any⟩ .empty
    have read : ["a = 1 OR b = 2", "NOT a = 1"].map parse =
        [.disjunction [.leaf "a = 1", .leaf "b = 2"], .negation (.leaf "a = 1")].map .ok := by
      simp only [List.map_cons, List.map_nil, either, negated]
    have outcome := combined read
    dsimp only at outcome
    rw [joined] at outcome
    exact outcome

end ConditionSet

end FieldLogic
