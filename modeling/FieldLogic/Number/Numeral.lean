import FieldLogic.Number.Binary64
import FieldLogic.Number.Digits

/-! Plain decimal numerals: an optional sign, digits with an optional fraction on either side of the point, and an
optional exponent. `scan` reads the longest numeral a text begins with. -/

namespace FieldLogic.Number

/-- The number `digits * 10 ^ exponent`, with its sign. -/
structure Numeral where
  negative : Bool
  digits : Nat
  exponent : Int
deriving DecidableEq, Repr

namespace Numeral

def value (numeral : Numeral) : Binary64 := .ofDecimal numeral.negative numeral.digits numeral.exponent

def scanSign : List Char → Bool × List Char
  | '-' :: rest => (true, rest)
  | '+' :: rest => (false, rest)
  | text => (false, text)

def scanDigits (text : List Char) : List Char × List Char :=
  (text.takeWhile Char.isDigit, text.dropWhile Char.isDigit)

def scanFraction : List Char → List Char × List Char
  | '.' :: rest => scanDigits rest
  | text => ([], text)

/-- The exponent and the text after it; without digits there is no exponent, and nothing is read. -/
def scanExponent : List Char → Int × List Char
  | [] => (0, [])
  | c :: rest =>
    if c = 'e' ∨ c = 'E' then
      let (negative, unsigned) := scanSign rest
      let (digits, after) := scanDigits unsigned
      if digits.isEmpty then (0, c :: rest) else (signed negative (ofDigits digits), after)
    else (0, c :: rest)

def scan (text : List Char) : Option (Numeral × List Char) :=
  let (negative, unsigned) := scanSign text
  let (whole, afterWhole) := scanDigits unsigned
  let (fraction, afterFraction) := scanFraction afterWhole
  if whole.isEmpty && fraction.isEmpty then none
  else
    let (exponent, rest) := scanExponent afterFraction
    some (⟨negative, ofDigits (whole ++ fraction), exponent - fraction.length⟩, rest)

def ofCharacters? (text : List Char) : Option Numeral :=
  match scan text with
  | some (numeral, []) => some numeral
  | _ => none

end Numeral

namespace Binary64

/-- A number written as a numeral or by name, the names in any case of their letters. -/
def ofText? (text : String) : Option Binary64 :=
  match Numeral.ofCharacters? text.toList with
  | some numeral => some numeral.value
  | none =>
    let (negative, name) := Numeral.scanSign text.toList
    match String.ofList (name.map Char.toLower) with
    | "nan" => some nan
    | "inf" | "infinity" => some (infinite negative)
    | _ => none

end Binary64

end FieldLogic.Number
