import FieldLogic.Proofs.ComparisonOrder
import FieldLogic.Proofs.Rounding
import Mathlib.Data.List.TakeWhile

/-! Integers compared with the decimal text of an integer. The text is read as the number nearest to it, so loose
comparisons tell integers apart only as far as their nearest numbers differ, and a strict one compares with the integer
that the nearest number is read as. Integers below 2^53 are exact. -/

namespace FieldLogic
open Number Text

namespace Text

theorem trimStart_of_ink {text : List Char} (ink : ∀ c ∈ text, isBlank c = false) : trimStart text = text := by
  cases text with
  | nil => rfl
  | cons c rest => exact List.dropWhile_cons_of_neg (by simp [ink c (List.mem_cons_self ..)])

theorem trim_of_ink {text : List Char} (ink : ∀ c ∈ text, isBlank c = false) : trim text = text := by
  have back : trimStart text.reverse = text.reverse :=
    trimStart_of_ink fun c member => ink c (List.mem_reverse.mp member)
  rw [trim, trimStart_of_ink ink, trimEnd, ← trimStart, back, List.reverse_reverse]

end Text

theorem unquoted_eq_self {operand : String} (start : ∀ c ∈ operand.toList.head?, c ≠ '"' ∧ c ≠ '\'')
    (finish : ∀ c ∈ operand.toList.getLast?, c ≠ '"' ∧ c ≠ '\'') : unquoted operand = operand := by
  rw [unquoted]
  cases chars : operand.toList with
  | nil => exact (String.toList_eq_nil_iff.mp chars).symm
  | cons c rest =>
    rw [chars] at start finish
    have first := start c rfl
    have ends := List.getLast?_eq_some_getLast (List.cons_ne_nil c rest)
    have last := finish _ ends
    simp only [first, beq_iff_eq, Bool.or_eq_true, or_self, if_false, ends, last]
    rw [← chars, String.ofList_toList]

namespace Number

theorem digit_bounds {c : Char} (digit : c.isDigit = true) : 48 ≤ c.toNat ∧ c.toNat ≤ 57 := by
  simp only [Char.isDigit, Bool.and_eq_true, decide_eq_true_eq] at digit
  exact digit

theorem numeral_characters {value : Int} {c : Char} (member : c ∈ integerCharacters value) :
    c = '-' ∨ c.isDigit = true := by
  rw [integerCharacters] at member
  split at member
  · rcases List.mem_cons.mp member with sign | digit
    · exact .inl sign
    · exact .inr (isDigit_of_mem_digitsOf digit)
  · exact .inr (isDigit_of_mem_digitsOf member)

namespace Numeral

theorem scanSign_integerCharacters (value : Int) :
    scanSign (integerCharacters value) = (decide (value < 0), digitsOf value.natAbs) := by
  rw [integerCharacters]
  split
  next negative => simp [scanSign, negative]
  next nonneg =>
    obtain ⟨c, rest, digits⟩ := List.exists_cons_of_ne_nil (digitsOf_ne_nil value.natAbs)
    have digit := digit_bounds (isDigit_of_mem_digitsOf (digits ▸ List.mem_cons_self ..))
    rw [digits, scanSign, decide_eq_false nonneg]
    · rintro _ ⟨⟩
      exact absurd digit (by decide)
    · rintro _ ⟨⟩
      exact absurd digit (by decide)

theorem scanDigits_digitsOf (value : Nat) : scanDigits (digitsOf value) = (digitsOf value, []) := by
  have digits : ∀ c ∈ digitsOf value, c.isDigit = true := fun _ => isDigit_of_mem_digitsOf
  rw [scanDigits, List.takeWhile_eq_self_iff.mpr digits, List.dropWhile_eq_nil_iff.mpr digits]

theorem scan_integerCharacters (value : Int) :
    scan (integerCharacters value) = some (⟨decide (value < 0), value.natAbs, 0⟩, []) := by
  simp [scan, scanSign_integerCharacters, scanDigits_digitsOf, scanFraction, scanExponent, digitsOf_ne_nil,
    ofDigits_digitsOf]

theorem value_integer (value : Int) : Numeral.value ⟨decide (value < 0), value.natAbs, 0⟩ = .ofInt value := by
  simp only [Numeral.value, Binary64.ofDecimal]
  split
  next zero =>
    obtain rfl := Int.natAbs_eq_zero.mp zero
    exact Binary64.ofInt_zero.symm
  next nonzero =>
    have small : ¬(309 : Int) < 0 := by decide
    have large : ¬(value.natAbs.log2 : Int) + 3 * 0 < -(places + 2 : Nat) := by omega
    rw [if_neg small, if_neg large]
    simp [Binary64.ofInt]

end Numeral

theorem isBlank_eq_false_of_isDigit {c : Char} (digit : c.isDigit = true) : isBlank c = false := by
  have bounds := digit_bounds digit
  rw [← Bool.not_eq_true, isBlank, inRanges_iff]
  simp only [blankRanges, List.mem_cons, List.not_mem_nil, or_false, exists_eq_or_imp, exists_eq_left]
  omega

theorem isBlank_integerCharacters {value : Int} : ∀ c ∈ integerCharacters value, isBlank c = false := by
  intro c member
  rcases numeral_characters member with rfl | digit
  · decide
  · exact isBlank_eq_false_of_isDigit digit

end Number

section

variable (value : Int)

@[simp] theorem toList_integerText : (integerText value).toList = integerCharacters value := by simp [integerText]

theorem numeralOf?_integerText :
    Value.numeralOf? (integerText value) = some ⟨decide (value < 0), value.natAbs, 0⟩ := by
  rw [Value.numeralOf?, toList_integerText, trim_of_ink isBlank_integerCharacters, Numeral.ofCharacters?,
    Numeral.scan_integerCharacters]

theorem isNumeric_integerText : (Value.string (integerText value)).isNumeric = true := by
  rw [Value.isNumeric, numeralOf?_integerText]
  rfl

theorem asNumber?_integerText : (Value.string (integerText value)).asNumber? = some (.ofInt value) := by
  rw [Value.asNumber?, numeralOf?_integerText, Option.map_some, Numeral.value_integer]

theorem toInt_integerText : (Value.string (integerText value)).toInt = (Binary64.ofInt value).truncate := by
  rw [Value.toInt, Value.leadingNumeral?, toList_integerText, trimStart_of_ink isBlank_integerCharacters,
    Numeral.scan_integerCharacters]
  exact congrArg Binary64.truncate (Numeral.value_integer value)

theorem unquoted_integerText : unquoted (integerText value) = integerText value := by
  have plain : ∀ c ∈ (integerText value).toList, c ≠ '"' ∧ c ≠ '\'' := by
    intro c member
    rw [toList_integerText] at member
    rcases numeral_characters member with rfl | digit
    · decide
    · have bounds := digit_bounds digit
      refine ⟨?_, ?_⟩ <;> rintro rfl <;> exact absurd bounds (by decide)
  exact unquoted_eq_self (fun c first => plain c (List.mem_of_mem_head? first))
    fun c last => plain c (List.mem_of_mem_getLast? last)

theorem wordValue_numeric {text : String} (numeric : (Value.string text).isNumeric = true) :
    wordValue text = .string text := by
  rw [wordValue, if_neg, if_neg]
  · rintro rfl
    rw [Value.isNumeric_false] at numeric
    cases numeric
  · rintro rfl
    rw [Value.isNumeric_true] at numeric
    cases numeric

/-- An integer and the text of one become two integers, whatever operator stands between them. -/
theorem coerce_integer (operator : Operator) (number : Int64) :
    coerce (.int number) operator (integerText value) = ⟨.int number, .int (Binary64.ofInt value).truncate⟩ := by
  have numeric := isNumeric_integerText value
  rw [← unquoted_integerText] at numeric
  rw [coerce_numeric operator rfl numeric, unquoted_integerText, toInt_integerText]
  rfl

end

theorem bounded_toInt (number : Int64) : number.toInt.natAbs ≤ 1 <<< 63 := by
  have upper := number.toInt_lt
  have lower := number.le_toInt
  omega

namespace Operator

/-- Two integers with the same nearest number. -/
def Near (first second : Int64) : Prop := Binary64.ofInt first.toInt = .ofInt second.toInt

variable (value operand : Int64)

theorem equal_integer : equal.holds (.int value) (integerText operand.toInt) = true ↔ Near value operand := by
  rw [holds, coerce_integer, holdsBetween, Value.looselyEqual_int, Near,
    ← Binary64.equals_ofInt (bounded_toInt _) (bounded_toInt _), Binary64.ofInt_truncate (bounded_toInt _)]

theorem identical_integer :
    identical.holds (.int value) (integerText operand.toInt) = true ↔
      value = (Binary64.ofInt operand.toInt).truncate := by
  rw [holds, coerce_integer, holdsBetween, Value.identical, beq_iff_eq]

theorem includes_integer (items : List Int64) :
    includes.holds (.list (items.map .int)) (integerText operand.toInt) = true ↔ ∃ item ∈ items, Near item operand := by
  have same (item : Int64) : (Value.int item).looselyEqual (.string (integerText operand.toInt)) = true ↔ Near item operand := by
    rw [Value.looselyEqual_numbers rfl (asNumber?_integerText operand.toInt), Near,
      ← Binary64.equals_ofInt (bounded_toInt _) (bounded_toInt _)]
  have sides : coerce (.list (items.map .int)) includes (integerText operand.toInt) =
      ⟨.list (items.map .int), .string (integerText operand.toInt)⟩ := by
    rw [coerce, unquoted_integerText, wordValue_numeric (isNumeric_integerText _)]
    rfl
  rw [holds, sides, holdsBetween, Value.includes, List.any_map, List.any_eq_true]
  simp only [Function.comp_apply, same]

theorem near_small {value operand : Int64} (small : operand.toInt.natAbs < 1 <<< 53) :
    Near value operand ↔ value = operand := by
  rw [Near, Binary64.ofInt_eq_small_iff (bounded_toInt value) small, Int64.toInt_inj]

theorem truncate_small {operand : Int64} (small : operand.toInt.natAbs < 1 <<< 53) :
    (Binary64.ofInt operand.toInt).truncate = operand := by
  have again := Binary64.ofInt_truncate (bounded_toInt operand)
  exact (near_small small).mp again

/-- An integer is loosely equal to the text of one, and a list of integers includes it, exactly if the nearest numbers are
the same; strictly equal is the one integer that the number nearest to the text's is read as. So below 2^53, where every
integer is its own nearest number, all comparisons are exact. -/
theorem holds_integer (value operand : Int64) (items : List Int64) :
    (∀ operator ∈ [assign, equal],
      operator.holds (.int value) (integerText operand.toInt) = true ↔ Near value operand) ∧
    (identical.holds (.int value) (integerText operand.toInt) = true ↔
      value = (Binary64.ofInt operand.toInt).truncate) ∧
    (∀ operator ∈ [includes, contains],
      operator.holds (.list (items.map .int)) (integerText operand.toInt) = true ↔ ∃ item ∈ items, Near item operand) ∧
    (operand.toInt.natAbs < 1 <<< 53 →
      (∀ operator ∈ [assign, equal, identical],
        operator.holds (.int value) (integerText operand.toInt) = true ↔ value = operand) ∧
      ∀ operator ∈ [includes, contains],
        operator.holds (.list (items.map .int)) (integerText operand.toInt) = true ↔ operand ∈ items) := by
  have loose := equal_integer value operand
  have strict := identical_integer value operand
  have listed := includes_integer operand items
  have assigned : assign.holds (.int value) (integerText operand.toInt) = true ↔ Near value operand := loose
  have contained : contains.holds (.list (items.map .int)) (integerText operand.toInt) = true ↔
      ∃ item ∈ items, Near item operand := listed
  refine ⟨by simp [loose, assigned], strict, by simp [listed, contained], ?_⟩
  intro small
  simp only [near_small small, exists_eq_right] at loose assigned listed contained
  rw [truncate_small small] at strict
  exact ⟨by simp [loose, assigned, strict], by simp [listed, contained]⟩

/-- The largest integer below 2^53, next to a list that holds it and the one above. -/
theorem holds_integer_largest :
    (9007199254740991 : Int64).toInt.natAbs < 1 <<< 53 ∧
      (identical.holds (.int (-9007199254740991)) (integerText (9007199254740991 : Int64).toInt) = true ↔
        (-9007199254740991 : Int64) = 9007199254740991) ∧
      (contains.holds (.list (([9007199254740992, 9007199254740991] : List Int64).map .int))
        (integerText (9007199254740991 : Int64).toInt) = true ↔
          9007199254740991 ∈ ([9007199254740992, 9007199254740991] : List Int64)) := by
  have small : (9007199254740991 : Int64).toInt.natAbs < 1 <<< 53 := by decide +kernel
  obtain ⟨_, _, _, exact⟩ :=
    holds_integer (-9007199254740991) 9007199254740991 [9007199254740992, 9007199254740991]
  obtain ⟨single, listed⟩ := exact small
  exact ⟨small, single identical (by simp), listed contains (by simp)⟩

/-- From 2^53 on, two integers have one nearest number: the greater is taken for the smaller, in lists as well, and is not
strictly equal to its own text. -/
theorem holds_integer_ambiguous :
    (9007199254740993 : Int64) ≠ 9007199254740992 ∧
      assign.holds (.int 9007199254740993) (integerText (9007199254740992 : Int64).toInt) = true ∧
      equal.holds (.int 9007199254740993) (integerText (9007199254740992 : Int64).toInt) = true ∧
      identical.holds (.int 9007199254740993) (integerText (9007199254740993 : Int64).toInt) = false ∧
      includes.holds (.list [.int 9007199254740993]) (integerText (9007199254740992 : Int64).toInt) = true := by
  decide +kernel

theorem order?_integer : order? (.int value) (integerText operand.toInt) =
    some (compare (Binary64.wholePlace value.toInt) (Binary64.wholePlace operand.toInt)) := by
  rw [order?, coerce_integer, Value.looseOrder?_int, Binary64.ofInt_truncate (bounded_toInt operand)]
  exact Binary64.compare?_ofInt (bounded_toInt value) (bounded_toInt operand)

theorem above_integer :
    above.holds (.int value) (integerText operand.toInt) = true ↔ operand < value ∧ ¬Near value operand := by
  have further := Binary64.wholePlace_lt_iff (bounded_toInt operand) (bounded_toInt value)
  rw [above_holds, order?_integer, beq_iff_eq, Option.some.injEq, Int.compare_eq_gt, further, Int64.lt_iff_toInt_lt, Near,
    ne_comm]

theorem below_integer :
    below.holds (.int value) (integerText operand.toInt) = true ↔ value < operand ∧ ¬Near value operand := by
  have further := Binary64.wholePlace_lt_iff (bounded_toInt value) (bounded_toInt operand)
  rw [below_holds, order?_integer, beq_iff_eq, Option.some.injEq, Int.compare_eq_lt, further, Int64.lt_iff_toInt_lt, Near]

theorem not_apart_int (text : String) : ¬Apart (.int value) text := by
  rintro ⟨⟨items, same⟩, _⟩
  cases same

/-- Comparisons of order err on one side only. An integer is above or below the text of one only if it is the greater or the
smaller, and it is within a bound whenever it does not pass it; all that is missed is the difference of integers that have the
same nearest number. -/
theorem holds_integer_order (value operand : Int64) :
    (above.holds (.int value) (integerText operand.toInt) = true ↔ operand < value ∧ ¬Near value operand) ∧
    (below.holds (.int value) (integerText operand.toInt) = true ↔ value < operand ∧ ¬Near value operand) ∧
    (atLeast.holds (.int value) (integerText operand.toInt) = true ↔ operand ≤ value ∨ Near value operand) ∧
    (atMost.holds (.int value) (integerText operand.toInt) = true ↔ value ≤ operand ∨ Near value operand) := by
  have greater := above_integer value operand
  have smaller := below_integer value operand
  refine ⟨greater, smaller, ?_, ?_⟩
  · have bound := atLeast_eq _ _ (not_apart_int value (integerText operand.toInt))
    rw [bound, Bool.not_eq_true', ← Bool.not_eq_true, smaller, not_and_or, not_not, Int64.not_lt]
  · have bound := atMost_eq _ _ (not_apart_int value (integerText operand.toInt))
    rw [bound, Bool.not_eq_true', ← Bool.not_eq_true, greater, not_and_or, not_not, Int64.not_lt]

example : [above, atLeast, atMost].map (fun operator => operator.holds (.int 9007199254740993) (integerText 9007199254740992)) =
    [false, true, true] := by
  decide +kernel

end Operator

end FieldLogic
