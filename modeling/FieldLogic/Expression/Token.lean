import FieldLogic.Text.Blank
import FieldLogic.Text.Utf8
import FieldLogic.Text.Word

/-! Tokens of a condition text. Which tokens can come next depends only on the place: where an operand is due,
`NOT`, an opening parenthesis or a leaf; after an operand, `AND`, `OR` or a closing parenthesis. `lexemes` reads
as many tokens as the text holds and gives the text at which it stopped. -/

namespace FieldLogic.Expression
open Text

inductive Token where
  | leaf (text : String)
  | opening
  | closing
  | and
  | or
  | not
deriving DecidableEq

inductive Place where
  | operand
  | connective
deriving DecidableEq

def Token.follows : Token → Place
  | .leaf _ | .closing => .connective
  | .opening | .and | .or | .not => .operand

structure Lexeme where
  token : Token
  here : List Char
deriving DecidableEq

/-- The text after a whole word. The word is given in lower case and matches in any case of the letters A to Z. -/
def word? : List Char → List Char → Option (List Char)
  | [], text => if text.head?.any isWord then none else some text
  | _ :: _, [] => none
  | letter :: word, c :: text => if c.toLower = letter then word? word text else none

def andWord? : List Char → Option (List Char) := word? ['a', 'n', 'd']

def orWord? : List Char → Option (List Char) := word? ['o', 'r']

def notWord? : List Char → Option (List Char) := word? ['n', 'o', 't']

def startsConnective (text : List Char) : Bool :=
  (andWord? text).isSome || (orWord? text).isSome || (notWord? text).isSome

def isQuote (c : Char) : Bool := c == '"' || c == '\''

/-- The text that can belong to one leaf. A quote opens a run if the same quote comes again, and the run ends
there; outside runs a parenthesis ends the leaf, and so does a connective at its start or after a blank. -/
def extent : (run : Option Char) → (afterBlank : Bool) → List Char → List Char
  | _, _, [] => []
  | some quote, _, c :: rest => c :: extent (if c = quote then none else some quote) false rest
  | none, afterBlank, c :: rest =>
    if isQuote c then c :: extent (if c ∈ rest then some c else none) false rest
    else if c = '(' ∨ c = ')' then []
    else if afterBlank && startsConnective (c :: rest) then []
    else c :: extent none (isBlank c) rest

/-- A leaf and the text after it. Its extent without trailing blanks, measured in bytes, is the number of
characters taken; a text too short for that has no leaf. -/
def leaf? (text : List Char) : Option (List Char × List Char) :=
  let size := byteLength (trimEnd (extent none true text))
  if size = 0 ∨ text.length < size then none else some (text.splitAt size)

def Token.read? : Place → List Char → Option (Token × List Char)
  | .operand, text =>
    match notWord? text with
    | some rest => some (.not, rest)
    | none =>
      match text with
      | '(' :: rest => some (.opening, rest)
      | _ => (leaf? text).map fun (literal, rest) => (.leaf (String.ofList literal), rest)
  | .connective, text =>
    match andWord? text with
    | some rest => some (.and, rest)
    | none =>
      match orWord? text with
      | some rest => some (.or, rest)
      | none =>
        match text with
        | ')' :: rest => some (.closing, rest)
        | _ => none

theorem word?_length {word text rest : List Char} (found : word? word text = some rest) :
    rest.length + word.length = text.length := by
  induction word generalizing text with
  | nil =>
    simp only [word?, Option.ite_none_left_eq_some, Option.some.injEq] at found
    simp [found.2]
  | cons letter word ih =>
    cases text with
    | nil => cases found
    | cons c text =>
      simp only [word?, Option.ite_none_right_eq_some] at found
      have := ih found.2
      simp only [List.length_cons]
      omega

theorem leaf?_length {text literal rest : List Char} (found : leaf? text = some (literal, rest)) :
    rest.length < text.length := by
  simp only [leaf?] at found
  split at found
  next => cases found
  next fits =>
    simp only [List.splitAt_eq, Option.some.injEq, Prod.mk.injEq] at found
    rw [← found.2, List.length_drop]
    omega

theorem Token.read?_length {place : Place} {text rest : List Char} {token : Token}
    (found : Token.read? place text = some (token, rest)) : rest.length < text.length := by
  cases place <;> simp only [Token.read?] at found
  case operand =>
    split at found
    next after word =>
      cases found
      have := word?_length word
      simp only [List.length_cons, List.length_nil] at this
      omega
    next =>
      split at found
      next => cases found; simp
      next =>
        obtain ⟨⟨literal, after⟩, leaf, same⟩ := Option.map_eq_some_iff.mp found
        cases same
        exact leaf?_length leaf
  case connective =>
    split at found
    next after word =>
      cases found
      have := word?_length word
      simp only [List.length_cons, List.length_nil] at this
      omega
    next =>
      split at found
      next after word =>
        cases found
        have := word?_length word
        simp only [List.length_cons, List.length_nil] at this
        omega
      next =>
        split at found
        next => cases found; simp
        next => cases found

/-- The tokens of a text, and the text at which no further token could be read. -/
def lexemes (place : Place) (text : List Char) : List Lexeme × List Char :=
  match _found : Token.read? place (skipSpace text) with
  | none => ([], skipSpace text)
  | some (token, rest) =>
    let (later, stop) := lexemes token.follows rest
    (⟨token, skipSpace text⟩ :: later, stop)
termination_by text.length
decreasing_by exact Nat.lt_of_lt_of_le (Token.read?_length _found) (skipSpace_length_le text)

end FieldLogic.Expression
