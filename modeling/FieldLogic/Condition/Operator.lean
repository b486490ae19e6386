/-! Comparison operators. Their tokens overlap, as `>=` holds `>` and `===` holds `==`, so a literal is searched
for them in a fixed order, a longer token before those it contains. -/

namespace FieldLogic

inductive Operator where
  | atLeast
  | atMost
  | below
  | above
  | notIdentical
  | notEqual
  | identical
  | equal
  | assign
  | includes
  | contains
  | endsWith
  | startsWith
  | startsWithWord
  | endsWithWord
  | boolean
  | truthy
deriving DecidableEq, Repr

namespace Operator

/-- Every operator, in the order of search. -/
def all : List Operator :=
  [atLeast, atMost, below, above, notIdentical, notEqual, identical, equal, assign, includes, contains, endsWith,
   startsWith, startsWithWord, endsWithWord, boolean, truthy]

def token : Operator → String
  | atLeast => ">="
  | atMost => "<="
  | below => "<"
  | above => ">"
  | notIdentical => "!=="
  | notEqual => "!="
  | identical => "==="
  | equal => "=="
  | assign => "="
  | includes => "includes"
  | contains => "contains"
  | endsWith => "ends with"
  | startsWith => "starts with"
  | startsWithWord => "startsWith"
  | endsWithWord => "endsWith"
  | boolean => "boolean"
  | truthy => "truthy"

def ofToken? (text : String) : Option Operator := all.find? fun operator => operator.token == text

def rank (operator : Operator) : Nat := all.idxOf operator

/-- The operators of order, which compare whole numbers. -/
def isRelational : Operator → Bool
  | atLeast | atMost | below | above => true
  | _ => false

theorem mem_all (operator : Operator) : operator ∈ all := by
  cases operator <;> decide

theorem ofToken?_token (operator : Operator) : ofToken? operator.token = some operator := by
  cases operator <;> decide

end Operator

end FieldLogic
