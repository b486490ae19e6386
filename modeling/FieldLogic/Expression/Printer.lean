import FieldLogic.Expression.Basic

/-! The written form of a condition tree: every node but a leaf stands between parentheses, so reading the
form again needs no precedence. -/

namespace FieldLogic.Expression

mutual

def characters : Expression → List Char
  | leaf text => text.toList
  | conjunction operands => '(' :: joined [' ', 'A', 'N', 'D', ' '] operands ++ [')']
  | disjunction operands => '(' :: joined [' ', 'O', 'R', ' '] operands ++ [')']
  | negation operand => ['(', 'N', 'O', 'T', ' '] ++ operand.characters ++ [')']

def joined (separator : List Char) : List Expression → List Char
  | [] => []
  | first :: others => first.characters ++ preceded separator others

/-- The operands with a separator before each. -/
def preceded (separator : List Char) : List Expression → List Char
  | [] => []
  | first :: others => separator ++ first.characters ++ preceded separator others

end

def text (expression : Expression) : String := String.ofList expression.characters

instance : ToString Expression := ⟨text⟩

end FieldLogic.Expression
