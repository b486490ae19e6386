import FieldLogic.Proofs.TextNumbers
import Mathlib.Data.List.Basic

/-! Operators that ask for truth. They compare the truth of the value with that of the operand, so an operand that is false
turns the answer around. Coercion comes first here as well: of a numeric value and a numeric operand only the whole numbers
are asked, and a fraction or a longer spelling of zero is then false although it was true before. -/

namespace FieldLogic
open Number Text

namespace Number.Binary64

/-- Nearer to zero than one is, or no number at all. -/
def Fractional (number : Binary64) : Prop := ∀ units ∈ number.place?, units.natAbs < unitsInOne

theorem ofIntClamp_eq_zero_iff {whole : Int} : Int64.ofIntClamp whole = 0 ↔ whole = 0 := by
  constructor
  · intro zero
    by_cases lower : Int64.minValue.toInt ≤ whole
    · by_cases upper : whole ≤ Int64.maxValue.toInt
      · have inside := Int64.toInt_ofIntClamp lower upper
        rw [zero] at inside
        exact inside.symm
      · rw [Int64.ofIntClamp, dif_pos lower, dif_neg upper] at zero
        exact absurd zero (by decide)
    · rw [Int64.ofIntClamp, dif_neg lower] at zero
      exact absurd zero (by decide)
  · intro zero
    subst zero
    decide

theorem tdiv_unitsInOne_eq_zero_iff {units : Int} : units.tdiv unitsInOne = 0 ↔ units.natAbs < unitsInOne := by
  have positive := unitsInOne_pos
  rw [← Int.natAbs_eq_zero, Int.natAbs_tdiv, Int.natAbs_natCast]
  exact Nat.div_eq_zero_iff.trans (or_iff_right (Nat.ne_of_gt positive))

theorem truncate_eq_zero_iff (number : Binary64) : number.truncate = 0 ↔ number.Fractional := by
  unfold truncate Fractional
  cases number.place? with
  | none => simp
  | some units => simp [ofIntClamp_eq_zero_iff, tdiv_unitsInOne_eq_zero_iff]

theorem fractional_ofInt_iff {value : Int} (bounded : value.natAbs ≤ 1 <<< 63) : (ofInt value).Fractional ↔ value = 0 := by
  have place : (ofInt value).Fractional ↔ (wholePlace value).natAbs < unitsInOne := by
    simp [Fractional, place?_ofInt bounded]
  rw [place, natAbs_wholePlace]
  have positive := unitsInOne_pos
  constructor
  · intro small
    apply Int.natAbs_eq_zero.mp
    by_contra nonzero
    have exact : spacing (1 * unitsInOne) ∣ 1 * unitsInOne := exact_small (by decide)
    have least := le_roundUnits exact (Nat.mul_le_mul_right unitsInOne (Nat.pos_of_ne_zero nonzero))
    omega
  · rintro rfl
    have none : roundUnits (0 * unitsInOne) 1 = 0 * unitsInOne := roundUnits_of_exact (exact_small (by decide))
    rw [Int.natAbs_zero, none, Nat.zero_mul]
    exact positive

end Number.Binary64

namespace Value

variable {value : Value} {text : String} {number : Binary64}

theorem toInt_eq_zero_iff (numeric : value.asNumber? = some number) : value.toInt = 0 ↔ number.Fractional := by
  cases value with
  | int whole =>
    have same := Option.some.inj numeric
    rw [← same, Binary64.fractional_ofInt_iff (bounded_toInt whole), ← Int64.toInt_inj]
    rfl
  | float stored =>
    have same := Option.some.inj numeric
    rw [← same]
    exact Binary64.truncate_eq_zero_iff stored
  | string text =>
    obtain ⟨numeral, read, same⟩ := Option.map_eq_some_iff.mp numeric
    rw [toInt_of_leading (leadingNumeral?_of_written (numeralOf?_eq_some_iff.mp read)), same]
    exact Binary64.truncate_eq_zero_iff number
  | null | bool | list => simp only [asNumber?, reduceCtorEq] at numeric

theorem isTruthy_text (text : String) : (string text).isTruthy = (text != "" && text != "0") := rfl

theorem isTruthy_wordValue (text : String) : (wordValue text).isTruthy = !(["", "0", "false"].contains text) := by
  unfold wordValue
  split
  next same => subst same; decide
  next =>
    split
    next same => subst same; decide
    next other => simp [isTruthy, bne, other, beq_eq_decide]

theorem toInt_zero : (string "0").toInt = 0 := by decide +kernel

theorem isTruthy_of_toInt_ne_zero (whole : value.toInt ≠ 0) : value.isTruthy = true := by
  cases value with
  | null => exact absurd rfl whole
  | int stored => exact bne_iff_ne.mpr whole
  | bool truth => cases truth with
    | false => exact absurd rfl whole
    | true => rfl
  | list items => cases items with
    | nil => exact absurd rfl whole
    | cons => rfl
  | float stored =>
    rw [isTruthy, Binary64.isZero, Bool.not_eq_true', beq_eq_false_iff_ne]
    intro zero
    apply whole
    apply (Binary64.truncate_eq_zero_iff stored).mpr
    intro units place
    rw [Option.mem_def, zero] at place
    cases place
    exact unitsInOne_pos
  | string text =>
    rw [isTruthy_text, Bool.and_eq_true, bne_iff_ne, bne_iff_ne]
    refine ⟨?_, ?_⟩
    · intro empty
      subst empty
      exact whole (by decide +kernel)
    · intro zero
      subst zero
      exact whole toInt_zero

/-- True, but false when cut off to a whole number. -/
def CutToZero (value : Value) : Prop := value.isTruthy = true ∧ value.toInt = 0

end Value

namespace Operator

variable {value : Value} {operand : String}

theorem truthy_eq_boolean (value : Value) (operand : String) : truthy.holds value operand = boolean.holds value operand := by
  have sides : coerce value truthy operand = coerce value boolean operand := coerce_congr rfl value operand
  rw [holds, sides]
  rfl

theorem boolean_apart (apart : ¬(value.isNumeric = true ∧ (Value.string (unquoted operand)).isNumeric = true)) :
    boolean.holds value operand =
      if unquoted operand ∈ ["", "0", "false"] then !value.isTruthy else value.isTruthy := by
  rw [holds, coerce_apart rfl apart, holdsBetween, Value.isTruthy_wordValue]
  by_cases negated : unquoted operand ∈ ["", "0", "false"]
  · simp [negated]
  · simp [negated]

theorem boolean_numeric (numeric : value.isNumeric = true)
    (also : (Value.string (unquoted operand)).isNumeric = true) :
    boolean.holds value operand = ((value.toInt != 0) == ((Value.string (unquoted operand)).toInt != 0)) := by
  rw [holds, coerce_numeric boolean numeric also]
  rfl

theorem negated_numeric {text : String} (numeric : (Value.string text).isNumeric = true) :
    text ∈ ["", "0", "false"] ↔ (Value.string text).isTruthy = false := by
  have filled : text ≠ "" := by
    intro empty
    rw [empty, Value.isNumeric_empty] at numeric
    cases numeric
  have other : text ≠ "false" := by
    intro word
    rw [word, Value.isNumeric_false] at numeric
    cases numeric
  simp [Value.isTruthy, filled, other]

/-- Two outcomes of which some are turned off agree as before exactly if one is turned off when the other is. -/
theorem agreement_kept (first second kept keptSecond : Bool) :
    (kept = true → first = true) → (keptSecond = true → second = true) →
      (((kept == keptSecond) = (first == second)) ↔
        (first = true ∧ kept = false ↔ second = true ∧ keptSecond = false)) := by
  cases first <;> cases second <;> cases kept <;> cases keptSecond <;> decide

/-- The answer for two numbers is the one for other texts unless cutting off makes one of them false, and not both. -/
theorem boolean_numeric_iff (numeric : value.isNumeric = true)
    (also : (Value.string (unquoted operand)).isNumeric = true) :
    (boolean.holds value operand = if unquoted operand ∈ ["", "0", "false"] then !value.isTruthy else value.isTruthy) ↔
      (value.CutToZero ↔ (Value.string (unquoted operand)).CutToZero) := by
  have turned : (if unquoted operand ∈ ["", "0", "false"] then !value.isTruthy else value.isTruthy) =
      (value.isTruthy == (Value.string (unquoted operand)).isTruthy) := by
    simp only [negated_numeric also]
    cases value.isTruthy <;> cases (Value.string (unquoted operand)).isTruthy <;> rfl
  have first (whole : (value.toInt != 0) = true) : value.isTruthy = true :=
    Value.isTruthy_of_toInt_ne_zero (bne_iff_ne.mp whole)
  have second (whole : ((Value.string (unquoted operand)).toInt != 0) = true) :
      (Value.string (unquoted operand)).isTruthy = true := Value.isTruthy_of_toInt_ne_zero (bne_iff_ne.mp whole)
  have kept := agreement_kept _ _ _ _ first second
  rw [boolean_numeric numeric also, turned, kept]
  simp only [Value.CutToZero, bne_eq_false_iff_eq]

theorem boolean_numeric_holds (numeric : value.isNumeric = true)
    (also : (Value.string (unquoted operand)).isNumeric = true) :
    boolean.holds value operand = true ↔ (value.toInt = 0 ↔ (Value.string (unquoted operand)).toInt = 0) := by
  rw [boolean_numeric numeric also, beq_iff_eq, Bool.eq_iff_iff, bne_iff_ne, bne_iff_ne]
  exact not_iff_not

/-- An operator that asks for truth tells the truth of the value, and the opposite where the operand is empty, zero or false,
unless value and operand are both numeric. Then it tells whether their whole numbers are both zero or neither is, which is the
same answer unless exactly one of the two is true but cut to zero. The whole number of a number is zero if it is fractional. -/
theorem holds_truth :
    (∀ (value : Value) (operand : String), ∀ operator ∈ [boolean, truthy],
      (¬(value.isNumeric = true ∧ (Value.string (unquoted operand)).isNumeric = true) →
        operator.holds value operand =
          if unquoted operand ∈ ["", "0", "false"] then !value.isTruthy else value.isTruthy) ∧
      (value.isNumeric = true → (Value.string (unquoted operand)).isNumeric = true →
        (operator.holds value operand = true ↔
          (value.toInt = 0 ↔ (Value.string (unquoted operand)).toInt = 0)) ∧
        ((operator.holds value operand =
            if unquoted operand ∈ ["", "0", "false"] then !value.isTruthy else value.isTruthy) ↔
          (value.CutToZero ↔ (Value.string (unquoted operand)).CutToZero)))) ∧
    ∀ {value : Value} {number : Binary64}, value.asNumber? = some number → (value.toInt = 0 ↔ number.Fractional) := by
  refine ⟨?_, Value.toInt_eq_zero_iff⟩
  intro value operand operator member
  have same : operator.holds value operand = boolean.holds value operand := by
    rcases List.mem_pair.mp member with first | second
    · rw [first]
    · rw [second, truthy_eq_boolean]
  rw [same]
  exact ⟨boolean_apart, fun numeric also => ⟨boolean_numeric_holds numeric also, boolean_numeric_iff numeric also⟩⟩

/-- A list with a long zero, which is a text there, and two fractions, which are both cut to zero. -/
theorem holds_truth_fractions :
    truthy ∈ [boolean, truthy] ∧
      (¬((Value.list [.null]).isNumeric = true ∧ (Value.string (unquoted "'0.0'")).isNumeric = true) ∧
        truthy.holds (.list [.null]) "'0.0'" =
          if unquoted "'0.0'" ∈ ["", "0", "false"] then !(Value.list [.null]).isTruthy else (Value.list [.null]).isTruthy) ∧
      ((Value.string ".75").isNumeric = true ∧ (Value.string (unquoted "-0.5")).isNumeric = true ∧
        (truthy.holds (.string ".75") "-0.5" = true ↔
          ((Value.string ".75").toInt = 0 ↔ (Value.string (unquoted "-0.5")).toInt = 0))) ∧
      (Value.float .nan).asNumber? = some .nan ∧ ((Value.float .nan).toInt = 0 ↔ Binary64.nan.Fractional) := by
  obtain ⟨truth, cut⟩ := holds_truth
  have member : truthy ∈ [boolean, truthy] := by decide
  have apart : ¬((Value.list [.null]).isNumeric = true ∧ (Value.string (unquoted "'0.0'")).isNumeric = true) := nofun
  have numeric : (Value.string ".75").isNumeric = true := by decide +kernel
  have also : (Value.string (unquoted "-0.5")).isNumeric = true := by decide +kernel
  obtain ⟨whole, _⟩ := (truth (.string ".75") "-0.5" truthy member).2 numeric also
  exact ⟨member, ⟨apart, (truth (.list [.null]) "'0.0'" truthy member).1 apart⟩, ⟨numeric, also, whole⟩, rfl, cut rfl⟩

/-- One half is true and does not hold against a one; five is true and does not hold against a zero written as a fraction. -/
theorem not_holds_truth_as_written :
    (unquoted "1" ∉ ["", "0", "false"] ∧ (Value.float (Numeral.value ⟨false, 5, -1⟩)).isTruthy = true ∧
      boolean.holds (.float (Numeral.value ⟨false, 5, -1⟩)) "1" = false) ∧
    (unquoted "0.0" ∉ ["", "0", "false"] ∧ (Value.int 5).isTruthy = true ∧ truthy.holds (.int 5) "0.0" = false) := by
  decide +kernel

end Operator

end FieldLogic
