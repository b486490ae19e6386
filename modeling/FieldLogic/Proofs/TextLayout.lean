import FieldLogic.Proofs.ReaderRun
import FieldLogic.Proofs.TreeShape

/-! A text that is read has its tree's leaves in order, each as it stands in the text, and between them nothing but
space, parentheses and words. Each connective of the text stands for one joining, each `NOT` for one negation. -/

namespace FieldLogic.Expression
open Text

/-- What stands between leaves. A word is kept as it is spelled. -/
inductive Mark where
  | space (c : Char) (space : isSpace c = true)
  | opening
  | closing
  | word (connective : Connective) (spelling : List Char) (spelled : spelling.map Char.toLower = connective.letters)

namespace Mark

def characters : Mark → List Char
  | space c _ => [c]
  | opening => ['(']
  | closing => [')']
  | word _ spelling _ => spelling

def isWord : Mark → Bool
  | word .. => true
  | _ => false

def joins : Mark → Bool
  | word connective _ _ => connective != .not
  | _ => false

def negates : Mark → Bool
  | word connective _ _ => connective == .not
  | _ => false

end Mark

inductive Piece where
  | leaf (text : String)
  | mark (mark : Mark)

namespace Piece

def leaf? : Piece → Option String
  | leaf text => some text
  | mark _ => none

def mark? : Piece → Option Mark
  | leaf _ => none
  | mark between => some between

end Piece

/-- The text is the pieces one after the other and then the rest. Words are whole words of the text. -/
inductive Laid (rest : List Char) : List Piece → List Char → Prop where
  | finished : Laid rest [] rest
  | leaf {pieces text} (literal : String) (later : Laid rest pieces text) :
    Laid rest (.leaf literal :: pieces) (literal.toList ++ text)
  | mark {pieces text} (mark : Mark) (apart : mark.isWord = true → ∀ c ∈ text.head?, Text.isWord c = false)
    (later : Laid rest pieces text) : Laid rest (.mark mark :: pieces) (mark.characters ++ text)

/-- The depth of parentheses behind the marks, if none closes that was not opened. -/
def nesting : Nat → List Mark → Option Nat
  | depth, [] => some depth
  | depth, .opening :: marks => nesting (depth + 1) marks
  | 0, .closing :: _ => none
  | depth + 1, .closing :: marks => nesting depth marks
  | depth, .space .. :: marks | depth, .word .. :: marks => nesting depth marks

theorem nesting_append (depth : Nat) (front back : List Mark) :
    nesting depth (front ++ back) = (nesting depth front).bind (nesting · back) := by
  fun_induction nesting depth front <;> simp_all [nesting]

theorem Laid.append {middle rest text : List Char} {front back : List Piece} (first : Laid middle front text)
    (later : Laid rest back middle) : Laid rest (front ++ back) text := by
  induction first with
  | finished => exact later
  | leaf literal _ ih => exact .leaf literal ih
  | mark mark apart _ ih => exact .mark mark apart ih

theorem Laid.subset {rest text : List Char} {pieces : List Piece} (laid : Laid rest pieces text) :
    rest ⊆ text ∧ ∀ literal ∈ pieces.filterMap Piece.leaf?, literal.toList ⊆ text := by
  induction laid with
  | finished => exact ⟨List.Subset.refl rest, by simp⟩
  | @leaf pieces text literal later ih =>
    have behind : text ⊆ literal.toList ++ text := List.subset_append_right _ _
    refine ⟨List.Subset.trans ih.1 behind, ?_⟩
    intro other member
    rcases List.mem_cons.mp member with rfl | member
    · exact List.subset_append_left _ _
    · exact List.Subset.trans (ih.2 other member) behind
  | @mark pieces text mark apart later ih =>
    have behind : text ⊆ mark.characters ++ text := List.subset_append_right _ _
    exact ⟨List.Subset.trans ih.1 behind, fun literal member => List.Subset.trans (ih.2 literal member) behind⟩

/-- What a stretch of text is laid out as: its leaves, how many words of either sort, and parentheses that match. -/
structure Layout (rest : List Char) (pieces : List Piece) (text : List Char) (leaves : List String)
    (joinings negations : Nat) : Prop where
  laid : Laid rest pieces text
  leaves : pieces.filterMap Piece.leaf? = leaves
  joinings : (pieces.filterMap Piece.mark?).countP Mark.joins = joinings
  negations : (pieces.filterMap Piece.mark?).countP Mark.negates = negations
  balanced : ∀ depth, nesting depth (pieces.filterMap Piece.mark?) = some depth

def LaidOut (rest text : List Char) (leaves : List String) (joinings negations : Nat) : Prop :=
  ∃ pieces, Layout rest pieces text leaves joinings negations

namespace LaidOut

theorem append {middle rest text : List Char} {front back : List String} {joinings negations others more : Nat}
    (first : LaidOut middle text front joinings negations) (later : LaidOut rest middle back others more) :
    LaidOut rest text (front ++ back) (joinings + others) (negations + more) := by
  obtain ⟨left, first⟩ := first
  obtain ⟨right, later⟩ := later
  refine ⟨left ++ right, first.laid.append later.laid, ?_, ?_, ?_, ?_⟩
  · rw [List.filterMap_append, first.leaves, later.leaves]
  · rw [List.filterMap_append, List.countP_append, first.joinings, later.joinings]
  · rw [List.filterMap_append, List.countP_append, first.negations, later.negations]
  · intro depth
    rw [List.filterMap_append, nesting_append, first.balanced, Option.bind_some, later.balanced]

theorem nothing (text : List Char) : LaidOut text text [] 0 0 := ⟨[], .finished, rfl, rfl, rfl, fun _ => rfl⟩

theorem leaf (literal rest : List Char) : LaidOut rest (literal ++ rest) [String.ofList literal] 0 0 := by
  have last : Laid rest [] rest := .finished
  refine ⟨[.leaf (String.ofList literal)], ?_, rfl, rfl, rfl, ?_⟩
  · simpa using last.leaf (String.ofList literal)
  · intro depth
    simp [List.filterMap_cons, Piece.mark?, nesting]

theorem space (text : List Char) : LaidOut (skipSpace text) text [] 0 0 := by
  induction text with
  | nil => exact nothing []
  | cons c text ih =>
    by_cases space : isSpace c = true
    · have skipped : skipSpace (c :: text) = skipSpace text := List.dropWhile_cons_of_pos space
      rw [skipped]
      have first : LaidOut text (c :: text) [] 0 0 :=
        ⟨[.mark (.space c space)], .mark (.space c space) (by simp [Mark.isWord]) .finished, rfl, rfl, rfl,
          by simp [Piece.mark?, nesting]⟩
      exact first.append ih
    · rw [Bool.not_eq_true] at space
      rw [skipSpace_of_not_isSpace text space]
      exact nothing _

theorem word {connective : Connective} {text rest : List Char} (found : Word connective.letters (skipSpace text) rest) :
    LaidOut rest text [] (if connective = .not then 0 else 1) (if connective = .not then 1 else 0) := by
  obtain ⟨spelling, same, spelled, apart⟩ := found
  have word : LaidOut rest (skipSpace text) [] (if connective = .not then 0 else 1)
      (if connective = .not then 1 else 0) := by
    refine ⟨[.mark (.word connective spelling spelled)], ?_, rfl, ?_, ?_, by simp [Piece.mark?, nesting]⟩
    · rw [same]
      exact .mark (.word connective spelling spelled) (fun _ => apart) .finished
    · cases connective <;> rfl
    · cases connective <;> rfl
  simpa using (space text).append word

theorem group {text inside ended rest : List Char} {leaves : List String} {joinings negations : Nat}
    (opening : skipSpace text = '(' :: inside) (inner : LaidOut ended inside leaves joinings negations)
    (closing : skipSpace ended = ')' :: rest) : LaidOut rest text leaves joinings negations := by
  have inner : LaidOut (')' :: rest) inside leaves joinings negations := by
    rw [← closing]
    simpa using inner.append (space ended)
  obtain ⟨pieces, inner⟩ := inner
  have wrapped : LaidOut rest ('(' :: inside) leaves joinings negations := by
    have closed : Laid rest [.mark .closing] (')' :: rest) := .mark .closing (by simp [Mark.isWord]) .finished
    refine ⟨.mark .opening :: (pieces ++ [.mark .closing]), ?_, ?_, ?_, ?_, ?_⟩
    · exact .mark .opening (by simp [Mark.isWord]) (inner.laid.append closed)
    · simpa [List.filterMap_cons, Piece.leaf?] using inner.leaves
    · simpa [Piece.mark?, Mark.joins] using inner.joinings
    · simpa [Piece.mark?, Mark.negates] using inner.negations
    · intro depth
      simp only [List.filterMap_cons, List.filterMap_append, Piece.mark?, nesting, nesting_append,
        inner.balanced (depth + 1), Option.bind_some, List.filterMap_nil]
  have before := space text
  rw [opening] at before
  simpa using before.append wrapped

end LaidOut

theorem Derives.laidOut {precedence : Precedence} {text rest : List Char} {expression : Expression}
    (derived : Derives Captured precedence text rest expression) :
    ∃ joinings, joinings + 1 = expression.leaves.length ∧
      LaidOut rest text expression.leaves joinings expression.negations := by
  induction derived with
  | @leaf text literal rest captured =>
    refine ⟨0, rfl, ?_⟩
    have before := LaidOut.space text
    rw [(leaf?_eq_some_iff.mp captured).1] at before
    exact before.append (.leaf literal rest)
  | group opening inner closing ih =>
    obtain ⟨joinings, count, laid⟩ := ih
    exact ⟨joinings, count, .group opening laid closing⟩
  | @not text after rest operand word inner ih =>
    obtain ⟨joinings, count, laid⟩ := ih
    refine ⟨joinings, count, ?_⟩
    simpa [leaves, negations, Nat.add_comm] using (LaidOut.word word).append laid
  | operand only ih | conjunction only ih => exact ih
  | and first word next before behind | or first word next before behind =>
    obtain ⟨joinings, count, left⟩ := before
    obtain ⟨others, more, right⟩ := behind
    refine ⟨joinings + 1 + others, ?_, ?_⟩
    · simp only [leaves_and, leaves_or, List.length_append]
      omega
    · simpa [Nat.add_assoc] using (left.append (.word word)).append right

theorem Derives.subset {precedence : Precedence} {text rest : List Char} {expression : Expression}
    (derived : Derives Captured precedence text rest expression) :
    rest ⊆ text ∧ ∀ literal ∈ expression.leaves, literal.toList ⊆ text := by
  obtain ⟨_, _, pieces, layout⟩ := derived.laidOut
  rw [← layout.leaves]
  exact layout.laid.subset

theorem Derives.canonical {captures : List Char → List Char → List Char → Prop} {precedence : Precedence}
    {text rest : List Char} {expression : Expression} (derived : Derives captures precedence text rest expression) :
    Canonical expression := by
  induction derived with
  | leaf captured => exact .leaf
  | group opening inner closing ih => exact ih
  | not word inner ih => exact .negation ih
  | operand only ih | conjunction only ih => exact ih
  | and first word next before behind => exact before.join .and behind
  | or first word next before behind => exact before.join .or behind

/-- What a leaf begins with: neither space nor a parenthesis. -/
def Starts (literal : List Char) : Prop :=
  ∃ c tail, literal = c :: tail ∧ isSpace c = false ∧ c ≠ '(' ∧ c ≠ ')'

theorem Captured.starts {text literal rest : List Char} (captured : Captured (skipSpace text) literal rest) :
    Starts literal := by
  obtain ⟨same, nonempty, _⟩ := leaf?_eq_some_iff.mp captured
  obtain ⟨_, c, tail, begins, parenthesis⟩ := leaf?_start captured
  obtain ⟨first, others, rfl⟩ := List.exists_cons_of_ne_nil nonempty
  rw [begins, List.cons_append, List.cons.injEq] at same
  obtain ⟨rfl, _⟩ := same
  have ink := List.head?_dropWhile_not isSpace text
  rw [← skipSpace, begins] at ink
  exact ⟨c, others, rfl, ink, not_or.mp parenthesis⟩

theorem Derives.starts {precedence : Precedence} {text rest : List Char} {expression : Expression}
    (derived : Derives Captured precedence text rest expression) :
    ∀ literal ∈ expression.leaves, Starts literal.toList := by
  induction derived with
  | leaf captured => simpa [leaves] using captured.starts
  | group opening inner closing ih => exact ih
  | not word inner ih => exact ih
  | operand only ih | conjunction only ih => exact ih
  | and first word next before behind | or first word next before behind =>
    intro literal member
    simp only [leaves_and, leaves_or, List.mem_append] at member
    rcases member with member | member
    · exact before literal member
    · exact behind literal member

/-- Every text that is read is laid out as the leaves of its tree in order, with only space, parentheses that match and
words between them, one joining word less than leaves and one `NOT` for each negation. The tree is canonical. -/
theorem parse_laid {text : String} {expression : Expression} (parsed : parse text = .ok expression) :
    (∃ pieces, Laid [] pieces text.toList ∧ pieces.filterMap Piece.leaf? = expression.leaves ∧
      nesting 0 (pieces.filterMap Piece.mark?) = some 0 ∧
      (pieces.filterMap Piece.mark?).countP Mark.joins + 1 = expression.leaves.length ∧
      (pieces.filterMap Piece.mark?).countP Mark.negates = expression.negations) ∧
    Canonical expression ∧ ∀ literal ∈ expression.leaves, Starts literal.toList := by
  obtain ⟨rest, derived, spaces⟩ := parse_eq_ok_iff.mp parsed
  obtain ⟨joinings, count, laid⟩ := derived.laidOut
  have all : LaidOut [] text.toList expression.leaves joinings expression.negations := by
    have behind := LaidOut.space rest
    rw [spaces] at behind
    simpa using laid.append behind
  obtain ⟨pieces, layout⟩ := all
  have joined : (pieces.filterMap Piece.mark?).countP Mark.joins + 1 = expression.leaves.length := by
    rw [layout.joinings, count]
  exact ⟨⟨pieces, layout.laid, layout.leaves, layout.balanced 0, joined, layout.negations⟩, derived.canonical,
    derived.starts⟩

/-- The leaf takes two characters for the two bytes of its first. -/
theorem parse_laid_accented :
    parse "(é) AND not b)" = .ok (.conjunction [.leaf "é)", .negation (.leaf "b")]) ∧
      (∃ pieces, Laid [] pieces "(é) AND not b)".toList ∧ pieces.filterMap Piece.leaf? = ["é)", "b"] ∧
        nesting 0 (pieces.filterMap Piece.mark?) = some 0 ∧
        (pieces.filterMap Piece.mark?).countP Mark.joins + 1 = 2 ∧
        (pieces.filterMap Piece.mark?).countP Mark.negates = 1) ∧
      Canonical (.conjunction [.leaf "é)", .negation (.leaf "b")]) ∧
      ∀ literal ∈ ["é)", "b"], Starts literal.toList := by
  have parsed : parse "(é) AND not b)" = .ok (.conjunction [.leaf "é)", .negation (.leaf "b")]) :=
    parse_eq_ok_of_toOption (by decide +kernel)
  exact ⟨parsed, parse_laid parsed⟩

end FieldLogic.Expression
