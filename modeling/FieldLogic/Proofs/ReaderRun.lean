import FieldLogic.Expression.Reader
import FieldLogic.Proofs.Grammar
import FieldLogic.Proofs.LeafExtent

/-! The reader accepts exactly its grammar. A derivation drives the reader from a state in which an operand is due to
one that holds the derived expression; in the other direction every state that the reader reaches has derivations of
what it holds, at each level of parentheses, behind it. -/

namespace FieldLogic.Expression
open Text

/-- The leaves that the reader takes from the start of a text. -/
def Captured (text literal rest : List Char) : Prop := leaf? text = some (literal, rest)

/-- The tokens that can be read at a place. -/
inductive Reads : Place → List Char → Token → List Char → Prop where
  | leaf {text literal rest} (captured : Captured text literal rest) :
    Reads .operand text (.leaf (String.ofList literal)) rest
  | opening {text rest} (begins : text = '(' :: rest) : Reads .operand text .opening rest
  | not {text rest} (word : Word Connective.not.letters text rest) : Reads .operand text .not rest
  | closing {text rest} (begins : text = ')' :: rest) : Reads .connective text .closing rest
  | and {text rest} (word : Word Connective.and.letters text rest) : Reads .connective text .and rest
  | or {text rest} (word : Word Connective.or.letters text rest) : Reads .connective text .or rest

private theorem word?_eq_none {c : Char} (connective : Connective) (rest : List Char) (ink : isWord c = false) :
    word? connective.letters (c :: rest) = none := by
  rw [Option.eq_none_iff_forall_ne_some]
  intro after found
  obtain ⟨first, tail, same, word⟩ := (word?_eq_some_iff.mp found).head
  cases same
  rw [ink] at word
  cases word

private theorem word?_eq_none_of_startsConnective {text : List Char} (connective : Connective)
    (starts : startsConnective text = false) : word? connective.letters text = none := by
  rw [Option.eq_none_iff_forall_ne_some]
  intro after found
  rw [startsConnective_iff.mpr ⟨connective, after, word?_eq_some_iff.mp found⟩] at starts
  cases starts

private theorem Reads.of_read? {place : Place} {text rest : List Char} {token : Token}
    (found : Token.read? place text = some (token, rest)) : Reads place text token rest := by
  cases place with
  | operand =>
    simp only [Token.read?] at found
    split at found
    next after word => cases found; exact .not (word?_eq_some_iff.mp word)
    next =>
      split at found
      next => cases found; exact .opening rfl
      next =>
        obtain ⟨⟨literal, after⟩, captured, same⟩ := Option.map_eq_some_iff.mp found
        cases same
        exact .leaf captured
  | connective =>
    simp only [Token.read?] at found
    split at found
    next after word => cases found; exact .and (word?_eq_some_iff.mp word)
    next =>
      split at found
      next after word => cases found; exact .or (word?_eq_some_iff.mp word)
      next =>
        split at found
        next => cases found; exact .closing rfl
        next => cases found

private theorem Reads.read? {place : Place} {text rest : List Char} {token : Token}
    (reads : Reads place text token rest) : Token.read? place text = some (token, rest) := by
  cases reads with
  | @leaf _ literal _ captured =>
    obtain ⟨starts, c, tail, rfl, parenthesis⟩ := leaf?_start captured
    have notNot : notWord? (c :: tail) = none := word?_eq_none_of_startsConnective .not starts
    have other : ∀ rest, c :: tail = '(' :: rest → False := by
      intro rest same
      cases same
      exact parenthesis (.inl rfl)
    have captured : leaf? (c :: tail) = some (literal, rest) := captured
    simp only [Token.read?, notNot, captured]
    rfl
  | opening begins =>
    subst begins
    have notNot : notWord? ('(' :: rest) = none := word?_eq_none .not rest (by decide)
    simp only [Token.read?, notNot]
  | not word =>
    have found : notWord? text = some rest := word?_eq_some_iff.mpr word
    simp only [Token.read?, found]
  | closing begins =>
    subst begins
    have notAnd : andWord? (')' :: rest) = none := word?_eq_none .and rest (by decide)
    have notOr : orWord? (')' :: rest) = none := word?_eq_none .or rest (by decide)
    simp only [Token.read?, notAnd, notOr]
  | and word =>
    have found : andWord? text = some rest := word?_eq_some_iff.mpr word
    simp only [Token.read?, found]
  | or word =>
    have notAnd : andWord? text = none := by
      rw [Option.eq_none_iff_forall_ne_some]
      intro after found
      have found : Word Connective.and.letters text after := word?_eq_some_iff.mp found
      cases (Word.eq found word).1
    have found : orWord? text = some rest := word?_eq_some_iff.mpr word
    simp only [Token.read?, notAnd, found]

theorem read?_eq_some_iff {place : Place} {text rest : List Char} {token : Token} :
    Token.read? place text = some (token, rest) ↔ Reads place text token rest :=
  ⟨Reads.of_read?, Reads.read?⟩

namespace State

def place : State → Place
  | awaiting .. => .operand
  | holding .. => .connective

/-- The reader's result from a state on. -/
def resume (state : State) (text : List Char) : Except Failure Expression := do
  let reached ← (lexemes state.place text).1.foldlM State.step state
  reached.finish (lexemes state.place text).2

theorem step_place {state next : State} {token : Token} {here : List Char}
    (stepped : state.step ⟨token, here⟩ = .ok next) : next.place = token.follows := by
  cases state with
  | awaiting level outer => cases token <;> cases stepped <;> rfl
  | holding phrase outer =>
    cases token with
    | closing =>
      cases outer with
      | nil => cases stepped
      | cons => cases stepped; rfl
    | and | or => cases stepped; rfl
    | leaf | opening | not => cases outer <;> cases stepped

theorem resume_space (state : State) (text : List Char) : state.resume (' ' :: text) = state.resume text := by
  have same : skipSpace (' ' :: text) = skipSpace text := List.dropWhile_cons_of_pos (by decide)
  have lexed : lexemes state.place (' ' :: text) = lexemes state.place text := by
    rw [lexemes, same, ← lexemes]
  rw [resume, resume, lexed]

theorem resume_step {state next : State} {text rest : List Char} {token : Token}
    (reads : Reads state.place (skipSpace text) token rest) (stepped : state.step ⟨token, skipSpace text⟩ = .ok next) :
    state.resume text = next.resume rest := by
  have lexed : lexemes state.place text =
      (⟨token, skipSpace text⟩ :: (lexemes next.place rest).1, (lexemes next.place rest).2) := by
    rw [lexemes, step_place stepped]
    split
    next nothing => rw [read?_eq_some_iff.mpr reads] at nothing; cases nothing
    next found => rw [read?_eq_some_iff.mpr reads] at found; cases found; rfl
  rw [resume, lexed, List.foldlM_cons, stepped]
  rfl

theorem resume_opening {level : Level} {outer : Outer} {text inside : List Char}
    (opening : skipSpace text = '(' :: inside) :
    (awaiting level outer).resume text = (awaiting .empty ((level, skipSpace text) :: outer)).resume inside :=
  resume_step (.opening opening) rfl

theorem resume_not {level : Level} {outer : Outer} {text rest : List Char}
    (word : Word Connective.not.letters (skipSpace text) rest) :
    (awaiting level outer).resume text = (awaiting level.negate outer).resume rest :=
  resume_step (.not word) rfl

theorem resume_and {phrase : Phrase} {outer : Outer} {text rest : List Char}
    (word : Word Connective.and.letters (skipSpace text) rest) :
    (holding phrase outer).resume text = (awaiting phrase.andNext outer).resume rest :=
  resume_step (.and word) rfl

theorem resume_or {phrase : Phrase} {outer : Outer} {text rest : List Char}
    (word : Word Connective.or.letters (skipSpace text) rest) :
    (holding phrase outer).resume text = (awaiting phrase.orNext outer).resume rest :=
  resume_step (.or word) rfl

theorem resume_error {state : State} {text rest : List Char} {token : Token} {failure : Failure}
    (reads : Reads state.place (skipSpace text) token rest)
    (stepped : state.step ⟨token, skipSpace text⟩ = .error failure) : state.resume text = .error failure := by
  have lexed : ∃ later, (lexemes state.place text).1 = ⟨token, skipSpace text⟩ :: later := by
    rw [lexemes]
    split
    next nothing => rw [read?_eq_some_iff.mpr reads] at nothing; cases nothing
    next found => rw [read?_eq_some_iff.mpr reads] at found; cases found; exact ⟨_, rfl⟩
  obtain ⟨later, lexed⟩ := lexed
  rw [resume, lexed, List.foldlM_cons, stepped]
  rfl

theorem resume_stop {state : State} {text : List Char}
    (stops : ∀ token rest, ¬Reads state.place (skipSpace text) token rest) :
    state.resume text = state.finish (skipSpace text) := by
  have lexed : lexemes state.place text = ([], skipSpace text) := by
    rw [lexemes]
    split
    next => rfl
    next found => exact (stops _ _ (read?_eq_some_iff.mp found)).elim
  rw [resume, lexed]
  rfl

end State

@[simp] theorem negated_negation (count : Nat) (operand : Expression) :
    negated count (.negation operand) = negated (count + 1) operand := by
  induction count with
  | zero => rfl
  | succ count ih => exact congrArg negation ih

theorem Level.add_negate (level : Level) (operand : Expression) :
    level.negate.add operand = level.add (.negation operand) := by
  simp [Level.add, Level.negate]

/-- A derivation's text takes the reader from a state in which it is due to one in which it has been read. -/
def Consumed (text rest : List Char) (expression : Expression) : Precedence → Prop
  | .operand => ∀ level outer,
    (State.awaiting level outer).resume text = (State.holding (level.add expression) outer).resume rest
  | .conjunction => ∀ disjunction? outer,
    (State.awaiting ⟨disjunction?, none, 0⟩ outer).resume text =
      (State.holding ⟨disjunction?, expression⟩ outer).resume rest
  | .disjunction => ∀ outer, ∃ phrase : Phrase, phrase.value = expression ∧
    (State.awaiting .empty outer).resume text = (State.holding phrase outer).resume rest

theorem Derives.consumed {precedence : Precedence} {text rest : List Char} {expression : Expression}
    (derived : Derives Captured precedence text rest expression) : Consumed text rest expression precedence := by
  induction derived with
  | leaf captured =>
    intro level outer
    exact State.resume_step (.leaf captured) rfl
  | @group text inside ended rest expression opening inner closing ih =>
    intro level outer
    obtain ⟨phrase, rfl, consumed⟩ := ih ((level, skipSpace text) :: outer)
    calc (State.awaiting level outer).resume text
      _ = (State.awaiting .empty ((level, skipSpace text) :: outer)).resume inside := State.resume_opening opening
      _ = (State.holding phrase ((level, skipSpace text) :: outer)).resume ended := consumed
      _ = (State.holding (level.add phrase.value) outer).resume rest := State.resume_step (.closing closing) rfl
  | @not text after rest operand word inner ih =>
    intro level outer
    calc (State.awaiting level outer).resume text
      _ = (State.awaiting level.negate outer).resume after := State.resume_not word
      _ = (State.holding (level.negate.add operand) outer).resume rest := ih level.negate outer
      _ = (State.holding (level.add (.negation operand)) outer).resume rest := by rw [Level.add_negate]
  | operand only ih =>
    intro disjunction? outer
    exact ih ⟨disjunction?, none, 0⟩ outer
  | @and text ended after rest left right first word next before behind =>
    intro disjunction? outer
    calc (State.awaiting ⟨disjunction?, none, 0⟩ outer).resume text
      _ = (State.holding ⟨disjunction?, left⟩ outer).resume ended := before disjunction? outer
      _ = (State.awaiting ⟨disjunction?, some left, 0⟩ outer).resume after := State.resume_and word
      _ = (State.holding ⟨disjunction?, left.and right⟩ outer).resume rest := behind ⟨disjunction?, some left, 0⟩ outer
  | conjunction only ih =>
    intro outer
    exact ⟨⟨none, _⟩, rfl, ih none outer⟩
  | @or text ended after rest left right first word next before behind =>
    intro outer
    obtain ⟨phrase, rfl, consumed⟩ := before outer
    refine ⟨⟨some phrase.value, right⟩, rfl, ?_⟩
    calc (State.awaiting .empty outer).resume text
      _ = (State.holding phrase outer).resume ended := consumed
      _ = (State.awaiting phrase.orNext outer).resume after := State.resume_or word
      _ = (State.holding ⟨some phrase.value, right⟩ outer).resume rest := behind (some phrase.value) outer

/-- What a level holds of a disjunction or a conjunction whose next part is due: nothing yet, or all up to the
connective. -/
def Begun (precedence : Precedence) (connective : Connective) (start here : List Char) : Option Expression → Prop
  | none => start = here
  | some expression => ∃ ended, Derives Captured precedence start ended expression ∧
    Word connective.letters (skipSpace ended) here

/-- So many `NOT`s, one after the other. -/
inductive Negations : Nat → List Char → List Char → Prop where
  | none {text} : Negations 0 text text
  | not {count text before rest} (first : Negations count text before)
    (word : Word Connective.not.letters (skipSpace before) rest) : Negations (count + 1) text rest

def Level.Read (level : Level) (start here : List Char) : Prop :=
  ∃ conjunctionStart operandStart, Begun .disjunction .or start conjunctionStart level.disjunction? ∧
    Begun .conjunction .and conjunctionStart operandStart level.conjunction? ∧
    Negations level.negations operandStart here

def Phrase.Read (phrase : Phrase) (start here : List Char) : Prop :=
  ∃ conjunctionStart, Begun .disjunction .or start conjunctionStart phrase.disjunction? ∧
    Derives Captured .conjunction conjunctionStart here phrase.conjunction

theorem Level.empty_read (start : List Char) : Level.empty.Read start start := ⟨start, start, rfl, rfl, .none⟩

theorem Negations.derives {count : Nat} {start here rest : List Char} {operand : Expression}
    (negations : Negations count start here) (derived : Derives Captured .operand here rest operand) :
    Derives Captured .operand start rest (operand.negated count) := by
  induction negations generalizing operand with
  | none => exact derived
  | not first word ih => simpa using ih (.not word derived)

theorem Level.Read.negate {level : Level} {start here rest : List Char} (read : level.Read start here)
    (word : Word Connective.not.letters (skipSpace here) rest) : level.negate.Read start rest := by
  obtain ⟨conjunctionStart, operandStart, disjunction, conjunction, negations⟩ := read
  exact ⟨conjunctionStart, operandStart, disjunction, conjunction, negations.not word⟩

theorem Level.Read.add {level : Level} {start here rest : List Char} {operand : Expression}
    (read : level.Read start here) (derived : Derives Captured .operand here rest operand) :
    (level.add operand).Read start rest := by
  obtain ⟨conjunctionStart, operandStart, disjunction, conjunction, negations⟩ := read
  refine ⟨conjunctionStart, disjunction, ?_⟩
  have negated := negations.derives derived
  simp only [Level.add]
  cases before : level.conjunction? with
  | none =>
    rw [before] at conjunction
    cases conjunction
    exact .operand negated
  | some left =>
    rw [before] at conjunction
    obtain ⟨ended, first, word⟩ := conjunction
    exact .and first word negated

theorem Phrase.Read.value {phrase : Phrase} {start here : List Char} (read : phrase.Read start here) :
    Derives Captured .disjunction start here phrase.value := by
  obtain ⟨conjunctionStart, disjunction, derived⟩ := read
  simp only [Phrase.value]
  cases before : phrase.disjunction? with
  | none =>
    rw [before] at disjunction
    cases disjunction
    exact .conjunction derived
  | some left =>
    rw [before] at disjunction
    obtain ⟨ended, first, word⟩ := disjunction
    exact .or first word derived

theorem Phrase.Read.andNext {phrase : Phrase} {start here rest : List Char} (read : phrase.Read start here)
    (word : Word Connective.and.letters (skipSpace here) rest) : phrase.andNext.Read start rest := by
  obtain ⟨conjunctionStart, disjunction, derived⟩ := read
  exact ⟨conjunctionStart, rest, disjunction, ⟨here, derived, word⟩, .none⟩

theorem Phrase.Read.orNext {phrase : Phrase} {start here rest : List Char} (read : phrase.Read start here)
    (word : Word Connective.or.letters (skipSpace here) rest) : phrase.orNext.Read start rest :=
  ⟨rest, rest, ⟨here, read.value, word⟩, rfl, .none⟩

/-- The enclosing levels of the place at which a level begins, each read up to the parenthesis opened in it. -/
inductive Enclosed (whole : List Char) : Outer → List Char → Prop where
  | top : Enclosed whole [] whole
  | inner {level outer start here inside} (enclosing : Enclosed whole outer start) (read : level.Read start here)
    (opening : skipSpace here = '(' :: inside) : Enclosed whole ((level, skipSpace here) :: outer) inside

namespace State

/-- All that a state holds has been derived from the text before the place. -/
def Reached (whole : List Char) : State → List Char → Prop
  | awaiting level outer, here => ∃ start, Enclosed whole outer start ∧ level.Read start here
  | holding phrase outer, here => ∃ start, Enclosed whole outer start ∧ phrase.Read start here

theorem Reached.step {whole here rest : List Char} {state next : State} {token : Token}
    (reached : state.Reached whole here) (reads : Reads state.place (skipSpace here) token rest)
    (stepped : state.step ⟨token, skipSpace here⟩ = .ok next) : next.Reached whole rest := by
  cases state with
  | awaiting level outer =>
    obtain ⟨start, enclosed, read⟩ := reached
    cases reads with
    | leaf captured =>
      cases stepped
      exact ⟨start, enclosed, read.add (.leaf captured)⟩
    | opening begins =>
      cases stepped
      exact ⟨rest, .inner enclosed read begins, Level.empty_read rest⟩
    | not word =>
      cases stepped
      exact ⟨start, enclosed, read.negate word⟩
  | holding phrase outer =>
    obtain ⟨start, enclosed, read⟩ := reached
    cases reads with
    | closing begins =>
      cases enclosed with
      | top => cases stepped
      | inner enclosing outerRead opening =>
        cases stepped
        exact ⟨_, enclosing, outerRead.add (.group opening read.value begins)⟩
    | and word =>
      cases stepped
      exact ⟨start, enclosed, read.andNext word⟩
    | or word =>
      cases stepped
      exact ⟨start, enclosed, read.orNext word⟩

theorem Reached.accepts {whole here : List Char} {state : State} {expression : Expression}
    (reached : state.Reached whole here) (resumed : state.resume here = .ok expression) :
    Accepts Captured whole expression := by
  by_cases goes : ∃ token rest, Reads state.place (skipSpace here) token rest
  · obtain ⟨token, rest, reads⟩ := goes
    cases stepped : state.step ⟨token, skipSpace here⟩ with
    | error failure =>
      rw [resume_error reads stepped] at resumed
      cases resumed
    | ok next =>
      rw [resume_step reads stepped] at resumed
      exact (reached.step reads stepped).accepts resumed
  · rw [resume_stop fun token rest reads => goes ⟨token, rest, reads⟩] at resumed
    cases state with
    | awaiting level outer => cases resumed
    | holding phrase outer =>
      simp only [finish] at resumed
      split at resumed
      next ended =>
        cases resumed
        simp only [Bool.and_eq_true, List.isEmpty_iff] at ended
        obtain ⟨rfl, spaces⟩ := ended
        obtain ⟨start, enclosed, read⟩ := reached
        cases enclosed
        exact ⟨here, read.value, spaces⟩
      next => cases resumed
termination_by here.length
decreasing_by
  have shorter := Token.read?_length (read?_eq_some_iff.mpr reads)
  have := skipSpace_length_le here
  omega

end State

theorem read_eq_ok_iff {text : List Char} {expression : Expression} :
    read text = .ok expression ↔ Accepts Captured text expression := by
  have resumed : read text = State.start.resume text := rfl
  rw [resumed]
  constructor
  · intro accepted
    have reached : State.start.Reached text text := ⟨text, .top, Level.empty_read text⟩
    exact reached.accepts accepted
  · intro ⟨rest, derived, spaces⟩
    obtain ⟨phrase, rfl, consumed⟩ := derived.consumed []
    have nothing : ∀ token later, ¬Reads .connective (skipSpace rest) token later := by
      intro token later reads
      rw [spaces] at reads
      cases reads with
      | closing begins => cases begins
      | and word => obtain ⟨_, _, same, _⟩ := word.head; cases same
      | or word => obtain ⟨_, _, same, _⟩ := word.head; cases same
    calc State.start.resume text
      _ = (State.holding phrase []).resume rest := consumed
      _ = (State.holding phrase []).finish (skipSpace rest) := State.resume_stop nothing
      _ = .ok phrase.value := by rw [spaces]; rfl

theorem parse_eq_ok_iff {text : String} {expression : Expression} :
    parse text = .ok expression ↔ Accepts Captured text.toList expression := by
  rw [← read_eq_ok_iff, parse]
  cases read text.toList with
  | ok => simp
  | error => simp

theorem parse_eq_ok_of_toOption {text : String} {expression : Expression}
    (found : (parse text).toOption = some expression) : parse text = .ok expression := by
  cases outcome : parse text with
  | ok other =>
    rw [outcome] at found
    exact congrArg _ (Option.some.inj found)
  | error => rw [outcome] at found; cases found

end FieldLogic.Expression
