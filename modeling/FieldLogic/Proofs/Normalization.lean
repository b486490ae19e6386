import FieldLogic.Proofs.EvaluationOrder
import FieldLogic.Proofs.PrintedForm

/-! Printing and reading as normalization. Leaves that are closed disturb no leaf behind them, so a tree of closed
leaves, joined in whatever way, comes back as the tree built anew. Only a node without operands stops the reading, at
the place where its operand is due. -/

namespace FieldLogic.Expression
open Text

/-- A tree in which a node has no operands is refused wherever an operand is due. -/
def Refused (expression : Expression) : Prop :=
  ∀ after, expression.hollow = true → Readable expression.leaves after → Closes after →
    ∀ level outer, ∃ failure, (State.awaiting level outer).resume (expression.characters ++ after) = .error failure

theorem State.resume_separator (junction : Junction) (phrase : Phrase) (outer : Outer) (after : List Char) :
    ∃ level, (State.holding phrase outer).resume (junction.separator ++ after) =
      (State.awaiting level outer).resume after := by
  obtain ⟨word, same, found⟩ := junction.separator_word after
  have spaced : skipSpace (' ' :: word) = word := found.skipSpace_eq
  rw [same]
  rw [← spaced] at found
  cases junction with
  | and => exact ⟨phrase.andNext, (State.resume_and found).trans (State.resume_space ..)⟩
  | or => exact ⟨phrase.orNext, (State.resume_or found).trans (State.resume_space ..)⟩

theorem State.resume_nothing (level : Level) (outer : Outer) (after : List Char) :
    ∃ failure, (State.awaiting level outer).resume (')' :: after) = .error failure := by
  refine ⟨_, State.resume_stop ?_⟩
  rw [skipSpace_of_not_isSpace after (by decide)]
  intro token rest reads
  cases reads with
  | leaf captured =>
    obtain ⟨_, c, tail, same, ink⟩ := leaf?_start captured
    cases same
    exact ink (.inr rfl)
  | opening begins => cases begins
  | not word =>
    obtain ⟨c, tail, same, starts⟩ := word.head
    cases same
    revert starts
    decide

theorem refused_joined {junction : Junction} {operands : List Expression} {after : List Char}
    (each : ∀ operand ∈ operands, Refused operand) (gap : ∃ operand ∈ operands, operand.hollow = true)
    (readable : Readable (allLeaves operands) (')' :: after)) (level : Level) (outer : Outer) :
    ∃ failure, (State.awaiting level outer).resume (joined junction.separator operands ++ ')' :: after) =
      .error failure := by
  induction operands generalizing level with
  | nil =>
    obtain ⟨operand, member, _⟩ := gap
    cases member
  | cons first others ih =>
    rw [List.forall_mem_cons] at each
    rw [joined, List.append_assoc]
    have begun := readable.first junction
    have closes := closes_preceded junction others after
    by_cases here : first.hollow = true
    · exact each.1 _ here begun closes level outer
    · rw [Bool.not_eq_true] at here
      have passed := (readBack first _ here begun closes).consumed level outer
      have later : ∃ operand ∈ others, operand.hollow = true := by
        obtain ⟨operand, member, hollow⟩ := gap
        rcases List.mem_cons.mp member with rfl | member
        · rw [here] at hollow
          cases hollow
        · exact ⟨operand, member, hollow⟩
      cases others with
      | nil =>
        obtain ⟨operand, member, _⟩ := later
        cases member
      | cons second more =>
        obtain ⟨next, separated⟩ := State.resume_separator junction (level.add first.normalize) outer
          (joined junction.separator (second :: more) ++ ')' :: after)
        rw [passed, preceded_cons, List.append_assoc, separated]
        exact ih each.2 later readable.later next

theorem refused (expression : Expression) : Refused expression := by
  induction expression using induct with
  | leaf text => nofun
  | node junction operands each =>
    intro after hollow readable closes level outer
    rw [junction.node_characters]
    simp only [List.cons_append, List.append_assoc, List.nil_append]
    rw [State.resume_opening (skipSpace_of_not_isSpace _ (by decide))]
    cases operands with
    | nil => exact State.resume_nothing ..
    | cons first others =>
      rw [junction.node_leaves] at readable
      rw [junction.node_hollow, anyHollow_eq_any, List.isEmpty_cons, Bool.false_or, List.any_eq_true] at hollow
      exact refused_joined each hollow readable.close _ _
  | negation operand inner =>
    intro after hollow readable closes level outer
    have word := not_word (operand.characters ++ ')' :: after)
    simp only [characters, List.cons_append, List.append_assoc, List.nil_append]
    rw [State.resume_opening (skipSpace_of_not_isSpace _ (by decide)), State.resume_not word, State.resume_space]
    exact inner _ hollow readable.close (.parenthesis after) _ _

theorem Derives.leaf_captured {precedence : Precedence} {text rest : List Char} {literal : String}
    (derived : Derives Captured precedence text rest (.leaf literal)) :
    ∃ start after, start <:+ text ∧ Captured (skipSpace start) literal.toList after := by
  generalize single : Expression.leaf literal = expression at derived
  induction derived with
  | @leaf text literal rest captured =>
    cases single
    exact ⟨text, rest, List.suffix_refl text, by simpa using captured⟩
  | @group text inside ended rest expression opening inner closing ih =>
    obtain ⟨start, after, within, captured⟩ := ih single
    exact ⟨start, after, within.trans (suffix_of_skipSpace opening), captured⟩
  | not word inner => cases single
  | operand only ih | conjunction only ih => exact ih single
  | and first word next | or first word next => cases single

theorem parse_leaf_iff {literal : String} :
    parse literal = .ok (.leaf literal) ↔ Captured (skipSpace literal.toList) literal.toList [] := by
  rw [parse_eq_ok_iff]
  constructor
  · intro ⟨rest, derived, _⟩
    obtain ⟨start, after, within, captured⟩ := derived.leaf_captured
    have taken := congrArg List.length (leaf?_eq_some_iff.mp captured).1
    have skipped := skipSpace_length_le start
    have short := within.length_le
    rw [List.length_append] at taken
    have nothing : after = [] := List.eq_nil_of_length_eq_zero (by omega)
    have whole : start = literal.toList := within.eq_of_length (by omega)
    rw [nothing, whole] at captured
    exact captured
  · intro captured
    have derived := Derives.leaf captured
    rw [String.ofList_toList] at derived
    exact ⟨[], .conjunction (.operand derived), rfl⟩

/-- A leaf text that is read as itself and leaves no quote unpaired. -/
structure Closed (literal : String) : Prop where
  itself : parse literal = .ok (.leaf literal)
  paired : unpaired none true literal.toList = []

theorem Readable.of_closed {leaves : List String} (closed : ∀ literal ∈ leaves, Closed literal) (after : List Char) :
    Readable leaves after := by
  have clear (literal : String) (member : literal ∈ leaves) (text : List Char) : Clear literal text := by
    intro quote lone
    rw [(closed literal member).paired] at lone
    cases lone
  refine ⟨?_, ?_, ?_⟩
  · intro literal member
    exact parse_leaf_iff.mp (closed literal member).itself
  · exact List.pairwise_of_forall_mem_list fun literal member other _ => clear literal member other.toList
  · intro literal member
    exact clear literal member after

theorem parse_text_hollow {expression : Expression} (hollow : expression.hollow = true)
    (readable : Readable expression.leaves []) : ∃ error, parse expression.text = .error error := by
  obtain ⟨failure, refused⟩ := refused expression [] hollow readable .nil .empty []
  rw [List.append_nil] at refused
  have read : read expression.text.toList = .error failure := by
    rw [text, String.toList_ofList]
    exact refused
  rw [parse, read]
  exact ⟨_, rfl⟩

/-- Printing a tree whose leaves are closed and reading the text normalizes the tree. The normal form evaluates the same
with the same diagnostics, and a tree that was built by joining and negating is its own. A tree in which a node has no
operands has a text that cannot be read. -/
theorem parse_text_of_closed {expression : Expression} (closed : ∀ literal ∈ expression.leaves, Closed literal) :
    (expression.hollow = false → parse expression.text = .ok expression.normalize ∧
      ∀ record, evaluate record expression.normalize = evaluate record expression) ∧
    (expression.hollow = true → ∃ error, parse expression.text = .error error) ∧
    (Built expression → expression.normalize = expression) := by
  have readable := Readable.of_closed closed []
  refine ⟨?_, ?_, ?_⟩
  · intro solid
    exact ⟨parse_text solid readable, fun record => evaluate_normalize record expression⟩
  · intro hollow
    exact parse_text_hollow hollow readable
  · intro built
    exact built.canonical.normalize

theorem parse_text_of_closed_raw :
    (∀ literal ∈ ["x = 'or) y'", "é)", "b"], Closed literal) ∧
      parse "((x = 'or) y') OR (é) OR (NOT b)))" =
        .ok (.disjunction [.leaf "x = 'or) y'", .leaf "é)", .negation (.leaf "b")]) ∧
      ∃ error, parse "(x = 'or) y' AND (é) OR (NOT (b AND ()))))" = .error error := by
  have closed : ∀ literal ∈ ["x = 'or) y'", "é)", "b"], Closed literal := by
    simp only [List.forall_mem_cons, List.not_mem_nil, false_implies, implies_true, and_true]
    exact ⟨⟨parse_eq_ok_of_toOption (by decide +kernel), by decide +kernel⟩,
      ⟨parse_eq_ok_of_toOption (by decide +kernel), by decide +kernel⟩,
      ⟨parse_eq_ok_of_toOption (by decide +kernel), by decide +kernel⟩⟩
  have raw : ∀ literal ∈ (disjunction [conjunction [leaf "x = 'or) y'"],
      disjunction [leaf "é)", negation (leaf "b")]]).leaves, Closed literal := closed
  have hollow : ∀ literal ∈ (conjunction [leaf "x = 'or) y'",
      disjunction [leaf "é)", negation (conjunction [leaf "b", conjunction []])]]).leaves, Closed literal := closed
  have read := ((parse_text_of_closed raw).1 rfl).1
  have written : (disjunction [conjunction [leaf "x = 'or) y'"], disjunction [leaf "é)", negation (leaf "b")]]).text =
      "((x = 'or) y') OR (é) OR (NOT b)))" := by decide +kernel
  have unread := (parse_text_of_closed hollow).2.1 rfl
  have gap : (conjunction [leaf "x = 'or) y'",
      disjunction [leaf "é)", negation (conjunction [leaf "b", conjunction []])]]).text =
      "(x = 'or) y' AND (é) OR (NOT (b AND ()))))" := by decide +kernel
  rw [written] at read
  rw [gap] at unread
  exact ⟨closed, read, unread⟩

end FieldLogic.Expression
