import FieldLogic.Text.Printable

/-! A text shown between double quotes, so that every character of it can be told: quotes, backslashes and the
common controls have short escapes, other characters that do not stand for themselves give their code point. -/

namespace FieldLogic.Text

/-- The code point in lower-case hexadecimal, without leading zeros. -/
def hexadecimal (point : Nat) : String := String.ofList (Nat.toDigits 16 point)

def shown (c : Char) : String :=
  if c = '"' then "\\\""
  else if c = '\\' then "\\\\"
  else if c = '\n' then "\\n"
  else if c = '\t' then "\\t"
  else if c = '\r' then "\\r"
  else if c = '\x00' then "\\0"
  else if isPrintable c then String.singleton c
  else "\\u\x7b" ++ hexadecimal c.toNat ++ "\x7d"

def quoted (text : String) : String := "\"" ++ String.join (text.toList.map shown) ++ "\""

end FieldLogic.Text
