import FieldLogic.Json.Scanner
import FieldLogic.Number.Numeral

/-! The numbers of a JSON text. A decimal is read exactly, as the number nearest to what is written. This is the reading
assumed of the JSON library, which with its default features reads decimals with best effort. In a skipped value no number
is too large, but one cut off at the end of the text is malformed rather than unfinished. -/

namespace FieldLogic.Json
open Number Text

structure Written where
  negative : Bool
  whole : List Char
  fraction : List Char
  exponent : Int
  /-- Neither a fraction nor an exponent is written. -/
  integral : Bool

def scanSomeDigits (manner : Manner) (text : List Char) : Except Fault (List Char × List Char) :=
  match Numeral.scanDigits text with
  | ([], rest) => .error (if manner = .checked ∧ rest = [] then .unfinished else .malformed)
  | read => .ok read

/-- The digits before the point; a leading zero stands alone. -/
def scanWhole (manner : Manner) : List Char → Except Fault (List Char × List Char)
  | '0' :: rest => if rest.head?.any Char.isDigit then .error .malformed else .ok (['0'], rest)
  | text => scanSomeDigits manner text

def scanPoint (manner : Manner) : List Char → Except Fault (Option (List Char) × List Char)
  | '.' :: rest => (scanSomeDigits manner rest).map fun (digits, after) => (some digits, after)
  | text => .ok (none, text)

def scanPower (manner : Manner) : List Char → Except Fault (Option Int × List Char)
  | [] => .ok (none, [])
  | c :: rest =>
    if c = 'e' ∨ c = 'E' then
      let (negative, unsigned) := Numeral.scanSign rest
      (scanSomeDigits manner unsigned).map fun (digits, after) => (some (signed negative (ofDigits digits)), after)
    else .ok (none, c :: rest)

def scanWritten (manner : Manner) (text : List Char) : Except Fault (Written × List Char) := do
  let (negative, unsigned) := match text with
    | '-' :: rest => (true, rest)
    | text => (false, text)
  let (whole, afterWhole) ← scanWhole manner unsigned
  let (fraction?, afterPoint) ← scanPoint manner afterWhole
  let (exponent?, rest) ← scanPower manner afterPoint
  return (⟨negative, whole, fraction?.getD [], exponent?.getD 0, fraction?.isNone && exponent?.isNone⟩, rest)

/-- How many digits of a number are weighed. No midpoint of two neighbouring numbers has more. -/
def weighed : Nat := 768

def withoutEndingZeros (digits : List Char) : List Char := (digits.reverse.dropWhile (· = '0')).reverse

/-- The number as digits and a power of ten. Digits past the weighed ones only tell that the number is a little larger
than those before them say: a one stands for them all, even if they are zeros. Zeros that begin the number or end its
fraction do not count. -/
def Written.decimal (written : Written) : Nat × Int :=
  let fraction := withoutEndingZeros written.fraction
  let digits := (written.whole ++ fraction).dropWhile (· = '0')
  if digits.length ≤ weighed then
    (ofDigits (written.whole ++ written.fraction), written.exponent - written.fraction.length)
  else
    (10 * ofDigits (digits.take weighed) + 1,
      written.exponent - fraction.length + (digits.length - (weighed + 1)))

theorem withoutEndingZeros_length_le (digits : List Char) :
    (withoutEndingZeros digits).length ≤ digits.length := by
  have := (List.dropWhile_suffix (l := digits.reverse) (· = '0')).length_le
  simpa [withoutEndingZeros] using this

theorem Written.decimal_of_length_le {written : Written}
    (short : (written.whole ++ written.fraction).length ≤ weighed) :
    written.decimal = (ofDigits (written.whole ++ written.fraction), written.exponent - written.fraction.length) := by
  have trimmed := withoutEndingZeros_length_le written.fraction
  have dropped := (List.dropWhile_suffix (l := written.whole ++ withoutEndingZeros written.fraction)
    (· = '0')).length_le
  rw [List.length_append] at short dropped
  exact if_pos (by omega)

/-- What a written number stands for. Integers that fit in 64 bits with or without a sign stay exact, save negative
zero; other numbers are rounded, and one too large for that stands for nothing. -/
def Written.document? (written : Written) : Option Document :=
  let size := ofDigits written.whole
  if written.integral ∧ (if written.negative then 0 < size ∧ size ≤ 1 <<< 63 else size < 1 <<< 64) then
    some (.integer (signed written.negative size))
  else
    let (digits, exponent) := written.decimal
    match Binary64.ofDecimal written.negative digits exponent with
    | .finite negative magnitude => some (.number (.finite negative magnitude))
    | _ => none

def scanNumber (manner : Manner) (text : List Char) : Except Fault (Document × List Char) :=
  match scanWritten manner text with
  | .error fault => .error fault
  | .ok (written, rest) =>
    match written.document?, manner with
    | some document, _ => .ok (document, rest)
    | none, .skipped => .ok (.null, rest)
    | none, .checked => .error .malformed

end FieldLogic.Json
