import FieldLogic.Expression.Basic
import FieldLogic.Proofs.WholeWords

/-! The grammar of condition texts, apart from what a leaf is. A derivation reads an expression off the front of a
text and leaves the rest, so the words and quotes behind a leaf can take part in where the leaf ends. Chains lean to
the left, which is the order in which operands are joined and spliced. -/

namespace FieldLogic.Expression
open Text

/-- From the tightest: an operand, operands joined by `AND`, and those joined by `OR`. -/
inductive Precedence where
  | operand
  | conjunction
  | disjunction
deriving DecidableEq

variable (captures : List Char → List Char → List Char → Prop)

/-- Space may stand before every token. `captures text literal rest` says which leaf a text begins with. -/
inductive Derives : Precedence → List Char → List Char → Expression → Prop where
  | leaf {text literal rest} (captured : captures (skipSpace text) literal rest) :
    Derives .operand text rest (.leaf (String.ofList literal))
  | group {text inside ended rest expression} (opening : skipSpace text = '(' :: inside)
    (inner : Derives .disjunction inside ended expression) (closing : skipSpace ended = ')' :: rest) :
    Derives .operand text rest expression
  | not {text after rest operand} (word : Word Connective.not.letters (skipSpace text) after)
    (inner : Derives .operand after rest operand) : Derives .operand text rest (.negation operand)
  | operand {text rest expression} (only : Derives .operand text rest expression) :
    Derives .conjunction text rest expression
  | and {text before after rest left right} (first : Derives .conjunction text before left)
    (word : Word Connective.and.letters (skipSpace before) after) (next : Derives .operand after rest right) :
    Derives .conjunction text rest (left.and right)
  | conjunction {text rest expression} (only : Derives .conjunction text rest expression) :
    Derives .disjunction text rest expression
  | or {text before after rest left right} (first : Derives .disjunction text before left)
    (word : Word Connective.or.letters (skipSpace before) after) (next : Derives .conjunction after rest right) :
    Derives .disjunction text rest (left.or right)

def Accepts (text : List Char) (expression : Expression) : Prop :=
  ∃ rest, Derives captures .disjunction text rest expression ∧ skipSpace rest = []

variable {captures}

theorem skipSpace_suffix (text : List Char) : skipSpace text <:+ text := List.dropWhile_suffix isSpace

theorem suffix_of_skipSpace {c : Char} {text rest : List Char} (begins : skipSpace text = c :: rest) :
    rest <:+ text := by
  have suffix := skipSpace_suffix text
  rw [begins] at suffix
  exact (List.suffix_cons c rest).trans suffix

theorem Word.suffix {word text rest : List Char} (found : Word word (skipSpace text) rest) : rest <:+ text := by
  obtain ⟨spelling, same, _⟩ := found
  have suffix := skipSpace_suffix text
  rw [same] at suffix
  exact (List.suffix_append spelling rest).trans suffix

theorem Derives.suffix (shorter : ∀ text literal rest, captures text literal rest → rest <:+ text)
    {precedence : Precedence} {text rest : List Char} {expression : Expression}
    (derived : Derives captures precedence text rest expression) : rest <:+ text := by
  induction derived with
  | leaf captured => exact (shorter _ _ _ captured).trans (skipSpace_suffix _)
  | group opening inner closing ih =>
    exact (suffix_of_skipSpace closing).trans (ih.trans (suffix_of_skipSpace opening))
  | not word inner ih => exact ih.trans word.suffix
  | operand only ih | conjunction only ih => exact ih
  | and first word next before after | or first word next before after => exact after.trans (word.suffix.trans before)

theorem Derives.skip {precedence : Precedence} {text other rest : List Char} {expression : Expression}
    (derived : Derives captures precedence text rest expression) (same : skipSpace other = skipSpace text) :
    Derives captures precedence other rest expression := by
  induction derived with
  | leaf captured => exact .leaf (same ▸ captured)
  | group opening inner closing _ => exact .group (same ▸ opening) inner closing
  | not word inner _ => exact .not (same ▸ word) inner
  | operand only ih => exact .operand (ih same)
  | and first word next before _ => exact .and (before same) word next
  | conjunction only ih => exact .conjunction (ih same)
  | or first word next before _ => exact .or (before same) word next

/-- Derivations of texts of a kind carry over to other leaves that agree on texts of that kind. -/
theorem Derives.mono {others : List Char → List Char → List Char → Prop} {kind : List Char → Prop}
    (ends : ∀ text rest, rest <:+ text → kind text → kind rest)
    (shorter : ∀ text literal rest, captures text literal rest → rest <:+ text)
    (same : ∀ text literal rest, kind text → captures text literal rest → others text literal rest)
    {precedence : Precedence} {text rest : List Char} {expression : Expression} (kept : kind text)
    (derived : Derives captures precedence text rest expression) : Derives others precedence text rest expression := by
  induction derived with
  | leaf captured => exact .leaf (same _ _ _ (ends _ _ (skipSpace_suffix _) kept) captured)
  | group opening inner closing ih =>
    exact .group opening (ih (ends _ _ (suffix_of_skipSpace opening) kept)) closing
  | not word inner ih => exact .not word (ih (ends _ _ word.suffix kept))
  | operand only ih => exact .operand (ih kept)
  | and first word next before behind =>
    have begun := word.suffix.trans (first.suffix shorter)
    exact .and (before kept) word (behind (ends _ _ begun kept))
  | conjunction only ih => exact .conjunction (ih kept)
  | or first word next before behind =>
    have begun := word.suffix.trans (first.suffix shorter)
    exact .or (before kept) word (behind (ends _ _ begun kept))

end FieldLogic.Expression
