import FieldLogic.Expression.Basic
import FieldLogic.Expression.ParseError
import FieldLogic.Expression.Token

/-! Condition trees from their text. `NOT` binds tighter than `AND`, and `AND` tighter than `OR`. The reader goes
through the tokens once, with the levels of parentheses that are open on a stack. -/

namespace FieldLogic.Expression
open Text

/-- What has been read at one level of parentheses when an operand is due: the disjunction before the last `OR`,
the conjunction since, and the `NOT`s before the operand. -/
structure Level where
  disjunction? : Option Expression
  conjunction? : Option Expression
  negations : Nat
deriving DecidableEq

/-- What has been read at one level when an operand has just ended. -/
structure Phrase where
  disjunction? : Option Expression
  conjunction : Expression
deriving DecidableEq

namespace Level

def empty : Level := ⟨none, none, 0⟩

def isEmpty (level : Level) : Bool :=
  level.disjunction?.isNone && level.conjunction?.isNone && level.negations == 0

def negate (level : Level) : Level := { level with negations := level.negations + 1 }

def add (level : Level) (operand : Expression) : Phrase where
  disjunction? := level.disjunction?
  conjunction :=
    match level.conjunction? with
    | none => operand.negated level.negations
    | some before => before.and (operand.negated level.negations)

end Level

namespace Phrase

def value (phrase : Phrase) : Expression :=
  match phrase.disjunction? with
  | none => phrase.conjunction
  | some before => before.or phrase.conjunction

def andNext (phrase : Phrase) : Level := ⟨phrase.disjunction?, some phrase.conjunction, 0⟩

def orNext (phrase : Phrase) : Level := ⟨some phrase.value, none, 0⟩

end Phrase

abbrev Outer := List (Level × List Char)

inductive State where
  | awaiting (level : Level) (outer : Outer)
  | holding (phrase : Phrase) (outer : Outer)
deriving DecidableEq

/-- A failure at a place in the text, given as the text from there on. -/
structure Failure where
  here : List Char
  contexts : Nat
deriving DecidableEq

/-- The failure for a missing operand. A level that has begun is to blame where the operand is due; one in which
nothing has been read is to blame at the parenthesis that opened it, as an operand missing outside. -/
def missingOperand : Level → Outer → List Char → Failure
  | _, [], here => ⟨here, 1⟩
  | level, (enclosing, opened) :: further, here =>
    if level.isEmpty then missingOperand enclosing further opened else ⟨here, further.length + 2⟩

namespace State

def start : State := awaiting .empty []

def step : State → Lexeme → Except Failure State
  | awaiting level outer, ⟨token, here⟩ =>
    match token with
    | .leaf text => .ok (holding (level.add (.leaf text)) outer)
    | .opening => .ok (awaiting .empty ((level, here) :: outer))
    | .not => .ok (awaiting level.negate outer)
    | .closing | .and | .or => .error (missingOperand level outer here)
  | holding phrase outer, ⟨token, here⟩ =>
    match token, outer with
    | .and, outer => .ok (awaiting phrase.andNext outer)
    | .or, outer => .ok (awaiting phrase.orNext outer)
    | .closing, (level, _) :: further => .ok (holding (level.add phrase.value) further)
    | .closing, [] | .leaf _, _ | .opening, _ | .not, _ => .error ⟨here, outer.length⟩

/-- The tree once no token can be read: the text must have ended with every parenthesis closed. -/
def finish (stop : List Char) : State → Except Failure Expression
  | awaiting level outer => .error (missingOperand level outer stop)
  | holding phrase outer => if outer.isEmpty && stop.isEmpty then .ok phrase.value else .error ⟨stop, outer.length⟩

end State

def ofLexemes (tokens : List Lexeme) (stop : List Char) : Except Failure Expression := do
  let state ← tokens.foldlM State.step State.start
  state.finish stop

def read (text : List Char) : Except Failure Expression :=
  let (tokens, stop) := lexemes .operand text
  ofLexemes tokens stop

def parse (text : String) : Except ParseError Expression :=
  match read text.toList with
  | .ok expression => .ok expression
  | .error failure => .error ⟨text, byteLength text.toList - byteLength failure.here, failure.contexts⟩

end FieldLogic.Expression
