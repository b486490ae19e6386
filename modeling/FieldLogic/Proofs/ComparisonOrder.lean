import FieldLogic.Condition.Comparison

/-! Comparisons of one value with one operand. The operators of order share the coerced sides, so they all read one order,
and an order is missing only where a list stands against the empty text. Numeric sides become whole numbers for every
operator, whose order and equality agree. -/

namespace FieldLogic

namespace Number.Binary64

theorem place?_eq_none_iff {number : Binary64} : number.place? = none ↔ number = nan := by
  cases number <;> simp [place?]

theorem ofQuotient_ne_nan (negative : Bool) (numerator denominator : Nat) :
    ofQuotient negative numerator denominator ≠ nan := by
  unfold ofQuotient
  split <;> simp

theorem compare?_eq_none_iff {first second : Binary64} :
    first.compare? second = none ↔ first = nan ∨ second = nan := by
  rw [← place?_eq_none_iff, ← place?_eq_none_iff, compare?]
  cases first.place? <;> cases second.place? <;> simp

theorem equals_eq (first second : Binary64) : first.equals second = (first.compare? second == some .eq) := by
  rw [equals, compare?]
  cases first.place? with
  | none => rfl
  | some left =>
    cases second.place? with
    | none => rfl
    | some right => rw [Bool.eq_iff_iff]; simp

end Number.Binary64

open Number

namespace Value

variable {first second : Value} {left right : Binary64}

theorem looseOrder?_numbers (numeric : first.asNumber? = some left) (also : second.asNumber? = some right) :
    first.looseOrder? second = left.compare? right := by
  cases first <;> cases second <;>
    first | (simp only [looseOrder?, numeric, also]; done) | simp only [asNumber?, reduceCtorEq] at numeric also

theorem looselyEqual_numbers (numeric : first.asNumber? = some left) (also : second.asNumber? = some right) :
    first.looselyEqual second = left.equals right := by
  cases first <;> cases second <;>
    first | (simp only [looselyEqual, numeric, also]; done) | simp only [asNumber?, reduceCtorEq] at numeric also

theorem looseOrder?_eq_none (unordered : first.looseOrder? second = none) :
    (∃ items, first = list items) ∨ (∃ items, second = list items) ∨
      ∃ left right, first.asNumber? = some left ∧ second.asNumber? = some right ∧ left.compare? right = none := by
  by_cases numbers : ∃ left right, first.asNumber? = some left ∧ second.asNumber? = some right
  · obtain ⟨left, right, numeric, also⟩ := numbers
    rw [looseOrder?_numbers numeric also] at unordered
    exact .inr (.inr ⟨left, right, numeric, also, unordered⟩)
  · cases first <;> cases second <;> simp_all [looseOrder?, compareTexts?, asText?]

theorem looseOrder?_int (first second : Int64) :
    (int first).looseOrder? (int second) = (Binary64.ofInt first.toInt).compare? (.ofInt second.toInt) := rfl

theorem looselyEqual_int (first second : Int64) :
    (int first).looselyEqual (int second) = (Binary64.ofInt first.toInt).equals (.ofInt second.toInt) :=
  looselyEqual_numbers rfl rfl

theorem isNumeric_empty : (string "").isNumeric = false := by decide +kernel

theorem isNumeric_true : (string "true").isNumeric = false := by decide +kernel

theorem isNumeric_false : (string "false").isNumeric = false := by decide +kernel

theorem asNumber?_empty : (string "").asNumber? = none := by decide +kernel

end Value

/-- Coercion asks an operator only whether it is one of order. -/
theorem coerce_congr {operator other : Operator} (alike : operator.isRelational = other.isRelational) (value : Value)
    (operand : String) : coerce value operator operand = coerce value other operand := by
  rw [coerce, coerce, alike]

theorem coerce_numeric {value : Value} {operand : String} (operator : Operator) (numeric : value.isNumeric = true)
    (also : (Value.string (unquoted operand)).isNumeric = true) :
    coerce value operator operand = ⟨.int value.toInt, .int (Value.string (unquoted operand)).toInt⟩ := by
  simp [coerce, numeric, also]

theorem coerce_apart {value : Value} {operator : Operator} {operand : String} (equating : operator.isRelational = false)
    (apart : ¬(value.isNumeric = true ∧ (Value.string (unquoted operand)).isNumeric = true)) :
    coerce value operator operand = ⟨value, wordValue (unquoted operand)⟩ := by
  simp [coerce, equating, apart]

theorem coerce_relational {operator : Operator} {operand : String} (value : Value) (relational : operator.isRelational = true)
    (filled : unquoted operand ≠ "") :
    coerce value operator operand = ⟨.int value.toInt, .int (Value.string (unquoted operand)).toInt⟩ := by
  simp [coerce, relational, filled]

theorem coerce_empty {operand : String} (value : Value) (operator : Operator) (empty : unquoted operand = "") :
    coerce value operator operand = ⟨value, .string ""⟩ := by
  simp [coerce, empty, Value.isNumeric_empty, wordValue]

namespace Operator

/-- A list and an operand with nothing between its quotes, which have no order. -/
def Apart (value : Value) (operand : String) : Prop := (∃ items, value = .list items) ∧ unquoted operand = ""

def order? (value : Value) (operand : String) : Option Ordering :=
  (coerce value .above operand).value.looseOrder? (coerce value .above operand).operand

variable (value : Value) (operand : String)

theorem holds_relational {operator : Operator} (relational : operator.isRelational = true) :
    operator.holds value operand = operator.holdsBetween (coerce value .above operand) := by
  have same : coerce value operator operand = coerce value above operand := coerce_congr relational value operand
  rw [holds, same]

theorem above_holds : above.holds value operand = (order? value operand == some .gt) := rfl

theorem below_holds : below.holds value operand = (order? value operand == some .lt) :=
  holds_relational value operand rfl

theorem atLeast_holds : atLeast.holds value operand = (order? value operand).any Ordering.isGE :=
  holds_relational value operand rfl

theorem atMost_holds : atMost.holds value operand = (order? value operand).any Ordering.isLE :=
  holds_relational value operand rfl

theorem order?_eq_none_iff : order? value operand = none ↔ Apart value operand := by
  by_cases empty : unquoted operand = ""
  · rw [order?, coerce_empty value above empty, Apart, and_iff_left empty]
    constructor
    · intro unordered
      rcases Value.looseOrder?_eq_none unordered with list | ⟨items, text⟩ | ⟨left, right, _, number, _⟩
      · exact list
      · cases text
      · rw [Value.asNumber?_empty] at number
        cases number
    · rintro ⟨items, rfl⟩
      rfl
  · rw [order?, coerce_relational value rfl empty]
    simp [Apart, empty, Value.looseOrder?_int, Binary64.compare?_eq_none_iff, Binary64.ofInt, Binary64.ofQuotient_ne_nan]

theorem atLeast_eq (ordered : ¬Apart value operand) : atLeast.holds value operand = !below.holds value operand := by
  obtain ⟨order, same⟩ := Option.ne_none_iff_exists'.mp (mt (order?_eq_none_iff value operand).mp ordered)
  rw [atLeast_holds, below_holds, same]
  cases order <;> rfl

theorem atMost_eq (ordered : ¬Apart value operand) : atMost.holds value operand = !above.holds value operand := by
  obtain ⟨order, same⟩ := Option.ne_none_iff_exists'.mp (mt (order?_eq_none_iff value operand).mp ordered)
  rw [atMost_holds, above_holds, same]
  cases order <;> rfl

/-- Numeric sides are whole numbers whichever operator compares them, and equal exactly if neither comes before the
other. -/
theorem equal_holds {value : Value} {operand : String} (numeric : value.isNumeric = true)
    (also : (Value.string (unquoted operand)).isNumeric = true) :
    equal.holds value operand = (order? value operand == some .eq) := by
  rw [holds, order?, coerce_numeric equal numeric also, coerce_numeric above numeric also, holdsBetween]
  exact (Value.looselyEqual_int ..).trans (Binary64.equals_eq ..)

/-- Every value stands in exactly one order to every operand: before it, behind it, or within both bounds, and each bound
excludes the strict comparison with the other side. Only a list and nothing have no order, and no operator of order holds
between them. The two inequalities negate the equalities, and numeric sides are equal exactly within both bounds. -/
theorem holds_ordered (value : Value) (operand : String) :
    (¬Apart value operand →
      [below.holds value operand, above.holds value operand,
        atMost.holds value operand && atLeast.holds value operand].count true = 1 ∧
      atLeast.holds value operand = !below.holds value operand ∧
      atMost.holds value operand = !above.holds value operand) ∧
    (Apart value operand → ∀ operator : Operator, operator.isRelational = true → operator.holds value operand = false) ∧
    notEqual.holds value operand = !equal.holds value operand ∧
    notIdentical.holds value operand = !identical.holds value operand ∧
    (value.isNumeric = true → (Value.string (unquoted operand)).isNumeric = true →
      equal.holds value operand = (atMost.holds value operand && atLeast.holds value operand)) := by
  rw [← order?_eq_none_iff]
  refine ⟨?_, ?_, rfl, rfl, ?_⟩
  · intro ordered
    obtain ⟨order, same⟩ := Option.ne_none_iff_exists'.mp ordered
    rw [below_holds, above_holds, atLeast_holds, atMost_holds, same]
    cases order <;> decide
  · intro unordered operator relational
    cases operator with
    | above => rw [above_holds, unordered]; rfl
    | below => rw [below_holds, unordered]; rfl
    | atLeast => rw [atLeast_holds, unordered]; rfl
    | atMost => rw [atMost_holds, unordered]; rfl
    | _ => cases relational
  · intro numeric also
    rw [equal_holds numeric also, atLeast_holds, atMost_holds]
    cases order? value operand with
    | none => rfl
    | some order => cases order <;> rfl

/-- A number that is none against nothing, a nested list against a lone quote, and two texts that are the same whole
number. -/
theorem holds_ordered_extremes :
    ¬Apart (.float .nan) "''" ∧
      [below.holds (.float .nan) "''", above.holds (.float .nan) "''",
        atMost.holds (.float .nan) "''" && atLeast.holds (.float .nan) "''"].count true = 1 ∧
      Apart (.list [.list []]) "'" ∧
      (∀ operator : Operator, operator.isRelational = true → operator.holds (.list [.list []]) "'" = false) ∧
      equal.holds (.string " -7.9 ") "'-7'" =
        (atMost.holds (.string " -7.9 ") "'-7'" && atLeast.holds (.string " -7.9 ") "'-7'") := by
  have ordered : ¬Apart (.float .nan) "''" := by
    rintro ⟨⟨_, same⟩, _⟩
    cases same
  have apart : Apart (.list [.list []]) "'" := ⟨⟨_, rfl⟩, by decide +kernel⟩
  refine ⟨ordered, ((holds_ordered (.float .nan) "''").1 ordered).1, apart,
    (holds_ordered (.list [.list []]) "'").2.1 apart, ?_⟩
  exact (holds_ordered (.string " -7.9 ") "'-7'").2.2.2.2 (by decide +kernel) (by decide +kernel)

end Operator

end FieldLogic
