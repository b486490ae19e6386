import FieldLogic.Proofs.SourceCalls
import Mathlib.Data.Set.List

/-! What checking a config at its loading is good for. A set whose texts are fixed and well-formed stays so whatever mode
it is given, whatever well-formed texts are added and however often it is asked, so none of its evaluations fails. -/

namespace FieldLogic

section

variable {α β ε : Type} {read : α → Except ε β}

theorem exists_map_eq_iff {items : List α} :
    (∃ results : List β, items.map read = results.map .ok) ↔ ∀ item ∈ items, ∃ result, read item = .ok result := by
  have range := Set.ext_iff.mp (Set.range_list_map (Except.ok : β → Except ε β)) (items.map read)
  simpa only [Set.mem_range, Set.mem_ofPred_eq, List.forall_mem_map, @eq_comm _ (Except.ok _),
    @eq_comm _ (List.map Except.ok _)] using range

theorem mapM_eq_ok_iff {items : List α} {results : List β} :
    items.mapM read = .ok results ↔ items.map read = results.map .ok := by
  induction items generalizing results with
  | nil => cases results <;> simp [pure, Except.pure]
  | cons item rest ih =>
    rw [List.mapM_cons]
    cases first : read item with
    | error error => cases results <;> simp [bind, Except.bind, first]
    | ok result =>
      cases others : rest.mapM read with
      | error error => cases results <;> simp [bind, Except.bind, first, ← ih, others]
      | ok values => cases results <;> simp [bind, Except.bind, pure, Except.pure, first, ← ih, others]

theorem mapM_of_error {front rest : List α} {item : α} {results : List β} {error : ε}
    (all : front.map read = results.map .ok) (failed : read item = .error error) :
    (front ++ item :: rest).mapM read = .error error := by
  rw [List.mapM_append, mapM_eq_ok_iff.mpr all, List.mapM_cons, failed]
  rfl

end

namespace ConditionSet
open Expression

def Checked (set : ConditionSet) : Prop :=
  ∀ source ∈ set.sources, ∃ text, source = .fixed text ∧ ∃ expression, parse text = .ok expression

/-- What may be done with a set: it is given a mode or one more fixed text, or asked. -/
inductive Operation where
  | withMode (mode : Mode)
  | requireAll
  | add (text : String)
  | serve (request : Request)

def perform (set : ConditionSet) : Operation → ConditionSet
  | .withMode mode => set.withMode mode
  | .requireAll => set.requireAll
  | .add text => set.add (.fixed text)
  | .serve request => (set.serve request).2

theorem ofConfig_eq_ok_iff {config : Config} {set : ConditionSet} :
    ofConfig config = .ok set ↔
      (∀ text ∈ config.expressions, ∃ expression, parse text = .ok expression) ∧
        set = ⟨config.expressions.map .fixed, config.mode⟩ := by
  rw [← exists_map_eq_iff, ofConfig]
  cases outcome : config.expressions.mapM parse with
  | ok expressions =>
    constructor
    · intro same
      cases same
      exact ⟨⟨expressions, mapM_eq_ok_iff.mp outcome⟩, rfl⟩
    · rintro ⟨_, rfl⟩
      rfl
  | error error =>
    refine ⟨nofun, ?_⟩
    rintro ⟨⟨expressions, all⟩, _⟩
    rw [← mapM_eq_ok_iff, outcome] at all
    cases all

theorem snapshot_ofConfig {config : Config} {set : ConditionSet} (loaded : ofConfig config = .ok set) :
    set.snapshot.1 = config := by
  obtain ⟨_, rfl⟩ := ofConfig_eq_ok_iff.mp loaded
  simp [snapshot_fst, texts, Function.comp_def, Source.resolve_fixed]

namespace Checked

variable {set : ConditionSet}

theorem ofConfig {config : Config} (loaded : ofConfig config = .ok set) : Checked set := by
  obtain ⟨all, rfl⟩ := ofConfig_eq_ok_iff.mp loaded
  intro source member
  obtain ⟨text, inside, rfl⟩ := List.mem_map.mp member
  exact ⟨text, rfl, all text inside⟩

theorem fixed (checked : Checked set) : Fixed set := by
  intro source member
  obtain ⟨text, same, _⟩ := checked source member
  exact ⟨text, same⟩

theorem evaluate (checked : Checked set) (record : Record) :
    ∃ matched, (set.evaluate record).1.result = .ok matched := by
  have each : ∀ text ∈ set.texts, ∃ expression, parse text = .ok expression := by
    intro text member
    obtain ⟨source, inside, rfl⟩ := List.mem_map.mp member
    obtain ⟨text, rfl, wellFormed⟩ := checked source inside
    exact wellFormed
  obtain ⟨expressions, read⟩ := exists_map_eq_iff.mpr each
  cases expressions with
  | nil =>
    have none : set.sources = [] := by simpa [texts] using read
    exact ⟨false, by simp [ConditionSet.evaluate, isEmpty, none]⟩
  | cons first others => exact ⟨_, by rw [evaluate_wellFormed read]⟩

/-- No operation that adds only well-formed texts brings in a text that could fail. -/
theorem perform (checked : Checked set) {operation : Operation}
    (added : ∀ text, operation = .add text → ∃ expression, parse text = .ok expression) :
    Checked (set.perform operation) := by
  cases operation with
  | withMode | requireAll => exact checked
  | add text =>
    intro source member
    rcases List.mem_append.mp member with before | last
    · exact checked source before
    · exact ⟨text, List.mem_singleton.mp last, added text rfl⟩
  | serve request =>
    rw [ConditionSet.perform, serve_snd, checked.fixed.advanced]
    exact checked

theorem operations (checked : Checked set) {operations : List Operation}
    (added : ∀ text, .add text ∈ operations → ∃ expression, parse text = .ok expression) :
    Checked (operations.foldl ConditionSet.perform set) := by
  induction operations generalizing set with
  | nil => exact checked
  | cons operation rest ih =>
    have first : Checked (set.perform operation) := checked.perform fun text same => added text (by simp [same])
    exact ih first fun text member => added text (List.mem_cons_of_mem _ member)

end Checked

/-- A config loads exactly if all its texts are well-formed, and otherwise the first that is not is reported. The set
loaded has the mode and the texts of the config. From then on no evaluation fails, whatever mode the set is given,
whatever well-formed texts are added and whatever it is asked in between. -/
theorem ofConfig_checks (config : Config) :
    ((∃ set, ofConfig config = .ok set) ↔ ∀ text ∈ config.expressions, ∃ expression, parse text = .ok expression) ∧
      (∀ {front rest : List String} {text : String} {expressions : List Expression} {error : ParseError},
        config.expressions = front ++ text :: rest → front.map parse = expressions.map .ok →
          parse text = .error error → ofConfig config = .error error) ∧
      ∀ {set : ConditionSet}, ofConfig config = .ok set →
        set.snapshot.1 = config ∧
          ∀ {operations : List Operation}, (∀ text, .add text ∈ operations → ∃ expression, parse text = .ok expression) →
            ∀ record, ∃ matched, ((operations.foldl perform set).evaluate record).1.result = .ok matched := by
  refine ⟨?_, ?_, ?_⟩
  · simp only [ofConfig_eq_ok_iff, exists_and_left, exists_eq, and_true]
  · intro front rest text expressions error texts read malformed
    rw [ofConfig, texts, mapM_of_error read malformed]
    rfl
  · intro set loaded
    refine ⟨snapshot_ofConfig loaded, ?_⟩
    intro operations added record
    exact ((Checked.ofConfig loaded).operations added).evaluate record

/-- A malformed text between two others, and a set that is changed and asked after it was loaded. -/
theorem ofConfig_checks_changed :
    ofConfig ⟨.all, ["NOT a = 1", "(b", ")"]⟩ = .error ⟨"(b", 2, 1⟩ ∧
      ∃ set, ofConfig ⟨.all, ["NOT a = 1", "b"]⟩ = .ok set ∧ set.snapshot.1 = ⟨.all, ["NOT a = 1", "b"]⟩ ∧
        ∃ matched, (([.add "c OR d", .serve .snapshot, .withMode .any].foldl perform set).evaluate .empty).1.result =
          .ok matched := by
  have negated : parse "NOT a = 1" = .ok (.negation (.leaf "a = 1")) := by decide +kernel
  have malformed : parse "(b" = .error ⟨"(b", 2, 1⟩ := by decide +kernel
  have single : parse "b" = .ok (.leaf "b") := by decide +kernel
  have either : parse "c OR d" = .ok (.disjunction [.leaf "c", .leaf "d"]) := by decide +kernel
  have read : ["NOT a = 1"].map parse = [.negation (.leaf "a = 1")].map .ok := congrArg ([·]) negated
  have refused := (ofConfig_checks ⟨.all, ["NOT a = 1", "(b", ")"]⟩).2.1 rfl read malformed
  obtain ⟨loads, _, holds⟩ := ofConfig_checks ⟨.all, ["NOT a = 1", "b"]⟩
  obtain ⟨set, loaded⟩ := loads.mpr (by simp [negated, single])
  obtain ⟨snapshot, evaluates⟩ := holds loaded
  exact ⟨refused, set, loaded, snapshot, evaluates (by simp [either]) .empty⟩

end ConditionSet

end FieldLogic
