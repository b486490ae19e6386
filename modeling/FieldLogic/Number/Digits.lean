/-! Decimal digits of natural numbers and integers. -/

namespace FieldLogic.Number

def digitValue (c : Char) : Nat := c.toNat - '0'.toNat

def ofDigits (digits : List Char) : Nat := digits.foldl (fun value c => 10 * value + digitValue c) 0

/-- The digits of a natural number, without leading zeros. -/
def digitsOf (value : Nat) : List Char := Nat.toDigits 10 value

theorem ofDigits_append_singleton (digits : List Char) (c : Char) :
    ofDigits (digits ++ [c]) = 10 * ofDigits digits + digitValue c := by
  simp [ofDigits]

private theorem digitValue_digitChar {digit : Nat} (small : digit < 10) : digitValue digit.digitChar = digit := by
  have every : ∀ digit < 10, digitValue (Nat.digitChar digit) = digit := by decide
  exact every digit small

theorem ofDigits_digitsOf (value : Nat) : ofDigits (digitsOf value) = value := by
  induction value using Nat.strongRecOn with
  | ind value ih =>
    by_cases small : value < 10
    · rw [digitsOf, Nat.toDigits_of_lt_base small]
      simp [ofDigits, digitValue_digitChar small]
    · have parts : 10 * (value / 10) + value % 10 = value := Nat.div_add_mod value 10
      have last : value % 10 < 10 := Nat.mod_lt _ (by decide)
      have split : digitsOf value = digitsOf (value / 10) ++ [Nat.digitChar (value % 10)] := by
        rw [digitsOf, digitsOf, ← Nat.toDigits_of_lt_base last,
          Nat.toDigits_append_toDigits (by decide) (by omega) last, parts]
      rw [split, ofDigits_append_singleton, ih (value / 10) (by omega), digitValue_digitChar last, parts]

theorem isDigit_of_mem_digitsOf {value : Nat} {c : Char} (member : c ∈ digitsOf value) : c.isDigit = true :=
  Nat.isDigit_of_mem_toDigits (by decide) (by decide) member

theorem digitsOf_ne_nil (value : Nat) : digitsOf value ≠ [] := Nat.toDigits_ne_nil

def integerCharacters (value : Int) : List Char :=
  if value < 0 then '-' :: digitsOf value.natAbs else digitsOf value.natAbs

def integerText (value : Int) : String := String.ofList (integerCharacters value)

end FieldLogic.Number
