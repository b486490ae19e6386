import FieldLogic.Number.Digits
import FieldLogic.Number.Shortest

/-! Decimals as text. Positional notation writes every place; scientific notation one digit before the point and a
power of ten. -/

namespace FieldLogic.Number

namespace Decimal

def zeros (count : Nat) : List Char := List.replicate count '0'

def positional (decimal : Decimal) : List Char :=
  let digits := digitsOf decimal.digits
  if 0 ≤ decimal.exponent then digits ++ zeros decimal.exponent.toNat
  else
    let places := (-decimal.exponent).toNat
    if places < digits.length then
      digits.take (digits.length - places) ++ '.' :: digits.drop (digits.length - places)
    else '0' :: '.' :: zeros (places - digits.length) ++ digits

def leadingExponent (decimal : Decimal) : Int := (digitsOf decimal.digits).length - 1 + decimal.exponent

def scientific (decimal : Decimal) : List Char :=
  let power := decimal.leadingExponent
  let exponent := (if power < 0 then '-' else '+') :: digitsOf power.natAbs
  match digitsOf decimal.digits with
  | [] => 'e' :: exponent
  | [single] => single :: 'e' :: exponent
  | first :: others => first :: '.' :: others ++ 'e' :: exponent

end Decimal

namespace Binary64

def signCharacters (negative : Bool) : List Char := if negative then ['-'] else []

/-- Positional notation of the shortest decimal, never with an exponent; a tie goes up. -/
def plainCharacters : Binary64 → List Char
  | nan => ['N', 'a', 'N']
  | infinite negative => signCharacters negative ++ ['i', 'n', 'f']
  | finite negative magnitude =>
    signCharacters negative ++
      if magnitude.units = 0 then ['0'] else (magnitude.shortest .up).positional

def plainText (number : Binary64) : String := String.ofList number.plainCharacters

/-- The layout of numbers in JSON: positional from 10^-5 to below 10^16 and then always with a fraction, otherwise
scientific. -/
def jsonLayout (decimal : Decimal) : List Char :=
  if -5 ≤ decimal.leadingExponent ∧ decimal.leadingExponent < 16 then
    if 0 ≤ decimal.exponent then decimal.positional ++ ['.', '0'] else decimal.positional
  else decimal.scientific

/-- The text in JSON, where only finite numbers have one; a tie between shortest decimals goes to the even digit. -/
def jsonCharacters : Binary64 → List Char
  | nan | infinite _ => ['n', 'u', 'l', 'l']
  | finite negative magnitude =>
    signCharacters negative ++
      if magnitude.units = 0 then ['0', '.', '0'] else jsonLayout (magnitude.shortest .even)

end Binary64

end FieldLogic.Number
