import FieldLogic.Proofs.Composition

/-! Where a text is at fault behind a part that would be accepted by itself. The reader takes that part at any depth of
parentheses and holds its tree, so nothing before is blamed: what is missing is missed at the end of the text, and what
is left over is refused where it stands. -/

namespace FieldLogic.Expression
open Text

theorem Word.alone {connective : Connective} {spelling : List Char}
    (spelled : spelling.map Char.toLower = connective.letters) : Word connective.letters spelling [] :=
  ⟨spelling, by simp, spelled, by simp⟩

theorem not_reads_nil {place : Place} {token : Token} {rest : List Char} : ¬Reads place [] token rest := by
  intro reads
  cases reads with
  | leaf captured => obtain ⟨_, _, _, same, _⟩ := leaf?_start captured; cases same
  | opening begins | closing begins => cases begins
  | not word | and word | or word => obtain ⟨_, _, same, _⟩ := word.head; cases same

theorem not_reads_not {text after rest : List Char} {token : Token} (word : Word Connective.not.letters text after) :
    ¬Reads .connective text token rest := by
  intro reads
  cases reads with
  | closing begins =>
    obtain ⟨c, tail, same, starts⟩ := word.head
    rw [same, List.cons.injEq] at begins
    rw [begins.1] at starts
    revert starts
    decide
  | and other | or other => cases (word.eq other).1

namespace State

theorem resume_skip {state : State} {text other : List Char} (same : skipSpace text = skipSpace other) :
    state.resume text = state.resume other := by
  have lexed : lexemes state.place text = lexemes state.place other := by
    rw [lexemes, same, ← lexemes]
  rw [resume, resume, lexed]

theorem resume_nil (state : State) : state.resume [] = state.finish [] := resume_stop fun _ _ => not_reads_nil

/-- Each opening parenthesis adds a level, in which nothing has been read yet. -/
theorem resume_openings (count : Nat) (outer : Outer) (text : List Char) :
    ∃ opened : Outer, opened.length = outer.length + count ∧
      (awaiting .empty outer).resume (List.replicate count '(' ++ text) = (awaiting .empty opened).resume text := by
  induction count generalizing outer with
  | zero => exact ⟨outer, rfl, rfl⟩
  | succ count ih =>
    have begins : skipSpace ('(' :: (List.replicate count '(' ++ text)) = '(' :: (List.replicate count '(' ++ text) :=
      skipSpace_of_not_isSpace _ (by decide)
    obtain ⟨opened, size, same⟩ := ih ((.empty, skipSpace ('(' :: (List.replicate count '(' ++ text))) :: outer)
    refine ⟨opened, ?_, ?_⟩
    · rw [size, List.length_cons]
      omega
    · rw [List.replicate_succ, List.cons_append, resume_opening begins, same]

end State

/-- An accepted text takes the reader at any depth to a state that holds its tree. -/
theorem Accepts.consumed {text after : List Char} {expression : Expression}
    (accepted : Accepts Captured text expression) (closes : Closes after) (apart : QuotesApart text after)
    (outer : Outer) : ∃ phrase : Phrase, phrase.value = expression ∧
      (State.awaiting .empty outer).resume (text ++ after) = (State.holding phrase outer).resume after := by
  obtain ⟨rest, derived, ends⟩ := accepted.append closes apart
  obtain ⟨phrase, same, consumed⟩ := derived.consumed outer
  exact ⟨phrase, same, consumed.trans (State.resume_skip ends)⟩

section

variable {text : List Char} {expression : Expression} (accepted : Accepts Captured text expression)
include accepted

theorem read_unclosed {count : Nat} (opened : 1 ≤ count) :
    read (List.replicate count '(' ++ text) = .error ⟨[], count⟩ := by
  obtain ⟨outer, size, passed⟩ := State.resume_openings count [] text
  obtain ⟨phrase, _, consumed⟩ := accepted.consumed .nil (.of_unquoted (by simp) text) outer
  rw [List.append_nil] at consumed
  have depth : outer.length = count := by simpa using size
  have inside : outer.isEmpty = false := by
    rw [List.isEmpty_eq_false_iff]
    exact List.ne_nil_of_length_pos (by omega)
  calc read (List.replicate count '(' ++ text)
    _ = (State.awaiting .empty outer).resume text := passed
    _ = (State.holding phrase outer).resume [] := consumed
    _ = (State.holding phrase outer).finish [] := State.resume_nil _
    _ = .error ⟨[], count⟩ := by simp [State.finish, inside, depth]

theorem read_overclosed : read (text ++ [')']) = .error ⟨[')'], 0⟩ := by
  obtain ⟨phrase, _, consumed⟩ := accepted.consumed (.parenthesis []) (.of_unquoted (by simp [isQuote]) text) []
  calc read (text ++ [')'])
    _ = (State.holding phrase []).resume [')'] := consumed
    _ = .error ⟨[')'], 0⟩ := State.resume_error (.closing rfl) rfl

variable {connective : Connective} {spelling : List Char} (spelled : spelling.map Char.toLower = connective.letters)
include spelled

theorem consumed_before_connective : ∃ phrase : Phrase,
    read (text ++ ' ' :: spelling) = (State.holding phrase []).resume spelling := by
  have plain : ∀ c ∈ ' ' :: spelling, isQuote c = false := by
    intro c member
    rcases List.mem_cons.mp member with rfl | member
    · rfl
    · exact isQuote_eq_false_of_isWord (isWord_of_mem_spelling spelled member)
  have starts : startsConnective spelling = true := startsConnective_iff.mpr ⟨_, _, .alone spelled⟩
  obtain ⟨phrase, _, consumed⟩ := accepted.consumed (.space (by decide) (.inr starts)) (.of_unquoted plain text) []
  exact ⟨phrase, consumed.trans (State.resume_skip rfl)⟩

theorem read_dangling (binary : connective ≠ .not) : read (text ++ ' ' :: spelling) = .error ⟨[], 1⟩ := by
  obtain ⟨phrase, consumed⟩ := consumed_before_connective accepted spelled
  have word : Word connective.letters (skipSpace spelling) [] := (Word.alone spelled).skipped
  rw [consumed]
  cases connective with
  | and => rw [State.resume_and word, State.resume_nil]; rfl
  | or => rw [State.resume_or word, State.resume_nil]; rfl
  | not => exact (binary rfl).elim

omit spelled in
theorem read_negation (negation : spelling.map Char.toLower = Connective.not.letters) :
    read (text ++ ' ' :: spelling) = .error ⟨spelling, 0⟩ := by
  obtain ⟨phrase, consumed⟩ := consumed_before_connective accepted negation
  have word : Word Connective.not.letters (skipSpace spelling) [] := (Word.alone negation).skipped
  have left : spelling ≠ [] := by
    intro empty
    subst empty
    cases negation
  calc read (text ++ ' ' :: spelling)
    _ = (State.holding phrase []).resume spelling := consumed
    _ = (State.holding phrase []).finish (skipSpace spelling) := State.resume_stop fun _ _ => not_reads_not word
    _ = .error ⟨spelling, 0⟩ := by simp [State.finish, (Word.alone negation).skipSpace_eq, left]

end

theorem parse_eq_error {text : String} {before here : List Char} {contexts : Nat} (split : text.toList = before ++ here)
    (refused : read text.toList = .error ⟨here, contexts⟩) :
    parse text = .error ⟨text, byteLength before, contexts⟩ := by
  rw [parse, refused]
  simp [split]

theorem parse_error_expression {text : String} {error : ParseError} (refused : parse text = .error error) :
    error.expression = text := by
  rw [parse] at refused
  split at refused
  next => cases refused
  next => cases refused; rfl

/-- Behind an accepted text what is missing is blamed at the end, once for every level that is open, and what is left
over where it stands. Every failure repeats its text. -/
theorem parse_unfinished {text : String} {expression : Expression} (accepted : parse text = .ok expression) :
    (∀ count, 1 ≤ count → parse (String.ofList (List.replicate count '(') ++ text) =
      .error ⟨String.ofList (List.replicate count '(') ++ text,
        byteLength (String.ofList (List.replicate count '(') ++ text).toList, count⟩) ∧
    parse (text ++ ")") = .error ⟨text ++ ")", byteLength text.toList, 0⟩ ∧
    parse (text ++ " AND") = .error ⟨text ++ " AND", byteLength (text ++ " AND").toList, 1⟩ ∧
    parse (text ++ " OR") = .error ⟨text ++ " OR", byteLength (text ++ " OR").toList, 1⟩ ∧
    parse (text ++ " NOT") = .error ⟨text ++ " NOT", byteLength (text ++ " ").toList, 0⟩ ∧
    ∀ (refused : String) (error : ParseError), parse refused = .error error → error.expression = refused := by
  rw [parse_eq_ok_iff] at accepted
  have ended (longer : String) : longer.toList = longer.toList ++ [] := (List.append_nil _).symm
  refine ⟨?_, ?_, ?_, ?_, ?_, fun refused error => parse_error_expression⟩
  · intro count opened
    apply parse_eq_error (ended _)
    rw [String.toList_append, String.toList_ofList]
    exact read_unclosed accepted opened
  · apply parse_eq_error String.toList_append
    rw [String.toList_append]
    exact read_overclosed accepted
  · have spelled : ['A', 'N', 'D'].map Char.toLower = Connective.and.letters := by decide
    apply parse_eq_error (ended _)
    rw [String.toList_append]
    exact read_dangling accepted spelled nofun
  · have spelled : ['O', 'R'].map Char.toLower = Connective.or.letters := by decide
    apply parse_eq_error (ended _)
    rw [String.toList_append]
    exact read_dangling accepted spelled nofun
  · have spelled : ['N', 'O', 'T'].map Char.toLower = Connective.not.letters := by decide
    have split : (text ++ " NOT").toList = (text ++ " ").toList ++ ['N', 'O', 'T'] := by simp
    apply parse_eq_error split
    rw [String.toList_append]
    exact read_negation accepted spelled

/-- The last leaf takes the parenthesis for the second byte of its first character. -/
theorem parse_unfinished_accented :
    parse "it's OR é)" = .ok (.disjunction [.leaf "it's", .leaf "é)"]) ∧
      parse "((it's OR é)" = .error ⟨"((it's OR é)", 13, 2⟩ ∧
      parse "it's OR é))" = .error ⟨"it's OR é))", 11, 0⟩ ∧
      parse "it's OR é) AND" = .error ⟨"it's OR é) AND", 15, 1⟩ ∧
      parse "it's OR é) NOT" = .error ⟨"it's OR é) NOT", 12, 0⟩ := by
  have accepted : parse "it's OR é)" = .ok (.disjunction [.leaf "it's", .leaf "é)"]) :=
    parse_eq_ok_of_toOption (by decide +kernel)
  obtain ⟨unclosed, overclosed, conjunction, _, negation, _⟩ := parse_unfinished accepted
  exact ⟨accepted, unclosed 2 (by decide), overclosed, conjunction, negation⟩

end FieldLogic.Expression
