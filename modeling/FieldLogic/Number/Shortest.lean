import FieldLogic.Number.Binary64

/-! The shortest decimal that reads back as a given magnitude. Decimals with a common power of ten form a grid; of
the grids from coarse to fine, the first on which a neighbour of the magnitude reads back gives the digits, and of
two such neighbours the nearer. On the finest grid, 10^-1074, every magnitude lies itself. -/

namespace FieldLogic.Number

/-- The number `digits * 10 ^ exponent`. -/
structure Decimal where
  digits : Nat
  exponent : Int
deriving DecidableEq, Repr

inductive Tie where
  | up
  | even
deriving DecidableEq

namespace Magnitude

/-- The count of 10^-1074 in a magnitude, which is exact. -/
def decimalUnits (magnitude : Magnitude) : Nat := magnitude.units * Nat.pow 5 places

def readsBack (magnitude : Magnitude) (decimal : Decimal) : Bool :=
  Binary64.ofDecimal false decimal.digits decimal.exponent == .finite false magnitude

/-- The neighbours of a magnitude on the grid of 10^(level - places), the nearer first. -/
def neighbours (tie : Tie) (magnitude : Magnitude) (level : Nat) : List Decimal :=
  let step := Nat.pow 10 level
  let floor := magnitude.decimalUnits / step
  let twice := 2 * (magnitude.decimalUnits % step)
  let lower : Decimal := ⟨floor, level - places⟩
  let upper : Decimal := ⟨floor + 1, level - places⟩
  if twice < step ∨ twice = step ∧ tie = .even ∧ floor % 2 = 0 then [lower, upper] else [upper, lower]

def onGrid? (tie : Tie) (magnitude : Magnitude) (level : Nat) : Option Decimal :=
  (magnitude.neighbours tie level).find? magnitude.readsBack

def shortestFrom (tie : Tie) (magnitude : Magnitude) : Nat → Decimal
  | 0 => ⟨magnitude.decimalUnits, -places⟩
  | level + 1 => (magnitude.onGrid? tie (level + 1)).getD (shortestFrom tie magnitude level)

/-- The shortest decimal of a magnitude. The search starts at a power of ten above the magnitude. -/
def shortest (tie : Tie) (magnitude : Magnitude) : Decimal :=
  shortestFrom tie magnitude ((magnitude.decimalUnits.log2 + 1) * 30103 / 100000 + 1)

private theorem log2_decimalUnits {magnitude : Magnitude} (nonzero : magnitude.units ≠ 0) :
    2 * places ≤ magnitude.decimalUnits.log2 := by
  have powers : 2 ^ (2 * places) ≤ 5 ^ places := by
    rw [Nat.pow_mul]
    exact Nat.pow_le_pow_left (by decide) places
  have large : 2 ^ (2 * places) ≤ magnitude.decimalUnits :=
    Nat.le_trans powers (Nat.le_mul_of_pos_left _ (Nat.pos_of_ne_zero nonzero))
  exact (Nat.le_log2 (Nat.ne_of_gt (Nat.lt_of_lt_of_le (Nat.two_pow_pos _) large))).mpr large

private theorem readsBack_finest {magnitude : Magnitude} (nonzero : magnitude.units ≠ 0) :
    magnitude.readsBack ⟨magnitude.decimalUnits, -places⟩ = true := by
  have bits := log2_decimalUnits nonzero
  have positive : magnitude.decimalUnits ≠ 0 :=
    Nat.mul_ne_zero nonzero (Nat.ne_of_gt (Nat.pow_pos (by decide)))
  have scaled : magnitude.decimalUnits * Nat.pow 10 (-(places : Int)).toNat * unitsInOne =
      magnitude.units * Nat.pow 10 places := by
    rw [show (-(places : Int)).toNat = 0 by omega, decimalUnits, unitsInOne, Nat.one_shiftLeft, Nat.pow_eq, Nat.pow_eq,
      Nat.pow_eq, Nat.pow_zero, Nat.mul_one, Nat.mul_assoc, ← Nat.mul_pow]
  have exponent : (-(-(places : Int))).toNat = places := by omega
  have above : ¬ ((magnitude.decimalUnits.log2 : Int) + 3 * -(places : Int) < -(places + 2 : Nat)) := by omega
  rw [readsBack, Binary64.ofDecimal, if_neg positive, if_neg (by simp only []; omega), if_neg above, scaled, exponent,
    Nat.pow_eq, Binary64.ofQuotient_mul _ _ (Nat.pow_pos (by decide)), beq_self_eq_true]

private theorem readsBack_shortestFrom (tie : Tie) {magnitude : Magnitude} (nonzero : magnitude.units ≠ 0)
    (level : Nat) : magnitude.readsBack (magnitude.shortestFrom tie level) = true := by
  induction level with
  | zero => exact readsBack_finest nonzero
  | succ level ih =>
    rw [shortestFrom]
    cases found : magnitude.onGrid? tie (level + 1) with
    | none => exact ih
    | some decimal => exact List.find?_some found

theorem readsBack_shortest (tie : Tie) {magnitude : Magnitude} (nonzero : magnitude.units ≠ 0) :
    magnitude.readsBack (magnitude.shortest tie) = true :=
  readsBack_shortestFrom tie nonzero _

end Magnitude

end FieldLogic.Number
