import FieldLogic.Value.Basic

/-! Equality and order of values. Strict equality asks for the same type; loose equality and order convert: a boolean
compares by truth, null is the empty text and is false, numbers and numeric texts compare as numbers, and what is
left as texts. Lists are equal item by item and have no order. -/

namespace FieldLogic.Value

mutual

/-- The same type and the same content; a number that is not a number equals nothing. -/
def identical : Value → Value → Bool
  | null, null => true
  | int first, int second => first == second
  | float first, float second => first.equals second
  | bool first, bool second => first == second
  | string first, string second => first == second
  | list first, list second => allIdentical first second
  | _, _ => false

def allIdentical : List Value → List Value → Bool
  | [], [] => true
  | first :: others, second :: more => identical first second && allIdentical others more
  | _, _ => false

end

mutual

def looselyEqual : Value → Value → Bool
  | null, null => true
  | bool truth, other | other, bool truth => truth == other.isTruthy
  | null, string text | string text, null => text == ""
  | null, other | other, null => !other.isTruthy
  | list first, list second => allLooselyEqual first second
  | list _, _ | _, list _ => false
  | first, second =>
    match first.asNumber?, second.asNumber? with
    | some left, some right => left.equals right
    | _, _ => first.asText? == second.asText?

def allLooselyEqual : List Value → List Value → Bool
  | [], [] => true
  | first :: others, second :: more => looselyEqual first second && allLooselyEqual others more
  | _, _ => false

end

def compareTexts? (first second : Value) : Option Ordering :=
  match first.asText?, second.asText? with
  | some left, some right => some (compare left right)
  | _, _ => none

def looseOrder? : Value → Value → Option Ordering
  | list _, _ | _, list _ => none
  | bool truth, other => some (compare truth other.isTruthy)
  | other, bool truth => some (compare other.isTruthy truth)
  | null, string text => compareTexts? null (string text)
  | string text, null => compareTexts? (string text) null
  | null, other => some (compare false other.isTruthy)
  | other, null => some (compare other.isTruthy false)
  | first, second =>
    match first.asNumber?, second.asNumber? with
    | some left, some right => left.compare? right
    | _, _ => compareTexts? first second

end FieldLogic.Value
