/-! Binary floating-point numbers of 64 bits, held exactly. A finite magnitude is counted in units of 2^-1074, the
smallest positive one, and at most 53 binary digits of the count are significant. A quotient rounds to the nearest
magnitude and a tie to the even one; what would exceed the largest is infinite. -/

namespace FieldLogic.Number

/-- The binary places after the point that a unit takes. -/
@[irreducible] def places : Nat := 1074

def unitsInOne : Nat := 1 <<< places

def unitLimit : Nat := 1 <<< (places + 1024)

theorem one_shiftLeft_pos (count : Nat) : 0 < 1 <<< count := by
  rw [Nat.one_shiftLeft]
  exact Nat.two_pow_pos count

theorem unitLimit_pos : 0 < unitLimit := one_shiftLeft_pos _

/-- The distance of the magnitudes around a count of units. -/
def spacing (units : Nat) : Nat := 1 <<< (units.log2 - 52)

def Representable (units : Nat) : Prop := units < unitLimit ∧ spacing units ∣ units

/-- The integer nearest to a quotient; a half goes to the even neighbour. -/
def roundQuotient (numerator denominator : Nat) : Nat :=
  let floor := numerator / denominator
  let twice := 2 * (numerator % denominator)
  if twice < denominator then floor
  else if twice = denominator then floor + floor % 2
  else floor + 1

/-- The count of units nearest to a quotient of units, in steps of the spacing there. -/
def roundUnits (numerator denominator : Nat) : Nat :=
  let step := spacing (numerator / denominator)
  roundQuotient numerator (denominator * step) * step

theorem roundQuotient_le (numerator denominator : Nat) :
    roundQuotient numerator denominator ≤ numerator / denominator + 1 := by
  simp only [roundQuotient]
  split
  · omega
  · split <;> omega

theorem spacing_dvd_scaled {count : Nat} (exponent : Nat) (significant : count ≤ 1 <<< 53) :
    spacing (count * 1 <<< exponent) ∣ count * 1 <<< exponent := by
  rw [spacing]
  simp only [Nat.one_shiftLeft] at significant ⊢
  by_cases zero : count = 0
  · simp [zero]
  have positive := Nat.two_pow_pos exponent
  have nonzero : count * 2 ^ exponent ≠ 0 := Nat.mul_ne_zero zero (by omega)
  by_cases full : count = 2 ^ 53
  · subst full
    rw [← Nat.pow_add, Nat.log2_two_pow]
    exact Nat.pow_dvd_pow 2 (by omega)
  · have bounded : count * 2 ^ exponent < 2 ^ (53 + exponent) := by
      rw [Nat.pow_add]
      exact Nat.mul_lt_mul_of_pos_right (by omega) positive
    have small := (Nat.log2_lt nonzero).mpr bounded
    exact Nat.dvd_trans (Nat.pow_dvd_pow 2 (by omega)) (Nat.dvd_mul_left _ _)

theorem quotient_spacing_le (units : Nat) : units / spacing units + 1 ≤ 1 <<< 53 := by
  have upper := Nat.lt_log2_self (n := units)
  have below : units < 1 <<< 53 * spacing units := by
    rw [spacing, Nat.one_shiftLeft, Nat.one_shiftLeft, ← Nat.pow_add]
    exact Nat.lt_of_lt_of_le upper (Nat.pow_le_pow_right (by decide) (by omega))
  exact (Nat.div_lt_iff_lt_mul (one_shiftLeft_pos _)).mpr below

theorem roundQuotient_mul {count scale : Nat} (positive : 0 < scale) : roundQuotient (count * scale) scale = count := by
  simp [roundQuotient, Nat.mul_div_cancel _ positive, positive]

theorem roundUnits_mul {units scale : Nat} (representable : Representable units) (positive : 0 < scale) :
    roundUnits (units * scale) scale = units := by
  obtain ⟨count, same⟩ := representable.2
  have step : 0 < spacing units := one_shiftLeft_pos _
  have scaled : units * scale = count * (scale * spacing units) := by
    conv => lhs; rw [same]
    rw [Nat.mul_comm (spacing units) count, Nat.mul_assoc, Nat.mul_comm (spacing units) scale]
  rw [roundUnits, Nat.mul_div_cancel _ positive]
  show roundQuotient (units * scale) (scale * spacing units) * spacing units = units
  rw [scaled, roundQuotient_mul (Nat.mul_pos positive step), Nat.mul_comm]
  exact same.symm

theorem representable_roundUnits {numerator denominator : Nat}
    (finite : roundUnits numerator denominator < unitLimit) : Representable (roundUnits numerator denominator) := by
  refine ⟨finite, spacing_dvd_scaled _ ?_⟩
  refine Nat.le_trans (roundQuotient_le _ _) ?_
  rw [← Nat.div_div_eq_div_mul]
  exact quotient_spacing_le _

structure Magnitude where
  units : Nat
  representable : Representable units

namespace Magnitude

def zero : Magnitude := ⟨0, unitLimit_pos, Nat.dvd_zero _⟩

theorem eq_of_units {first second : Magnitude} (same : first.units = second.units) : first = second := by
  cases first
  cases second
  cases same
  rfl

instance : DecidableEq Magnitude := fun first second =>
  decidable_of_iff (first.units = second.units) ⟨eq_of_units, congrArg units⟩

end Magnitude

inductive Binary64 where
  | nan
  | infinite (negative : Bool)
  | finite (negative : Bool) (magnitude : Magnitude)
deriving DecidableEq

def signed (negative : Bool) (size : Nat) : Int := if negative then -(size : Int) else size

namespace Binary64

def zero : Binary64 := finite false .zero

def ofQuotient (negative : Bool) (numerator denominator : Nat) : Binary64 :=
  if bounded : roundUnits numerator denominator < unitLimit then
    finite negative ⟨roundUnits numerator denominator, representable_roundUnits bounded⟩
  else infinite negative

theorem ofQuotient_mul (negative : Bool) (magnitude : Magnitude) {scale : Nat} (positive : 0 < scale) :
    ofQuotient negative (magnitude.units * scale) scale = finite negative magnitude := by
  have same := roundUnits_mul magnitude.representable positive
  rw [ofQuotient, dif_pos (by rw [same]; exact magnitude.representable.1)]
  exact congrArg (finite negative) (Magnitude.eq_of_units same)

def ofInt (value : Int) : Binary64 := ofQuotient (value < 0) (value.natAbs * unitsInOne) 1

/-- The number nearest to `digits * 10 ^ exponent`. Beyond 10^309 every such number is infinite, and below half a
unit it is zero, so the powers formed stay small. -/
def ofDecimal (negative : Bool) (digits : Nat) (exponent : Int) : Binary64 :=
  if digits = 0 then finite negative .zero
  else if 309 < exponent then infinite negative
  else if (digits.log2 : Int) + 3 * exponent < -(places + 2 : Nat) then finite negative .zero
  else ofQuotient negative (digits * Nat.pow 10 exponent.toNat * unitsInOne) (Nat.pow 10 (-exponent).toNat)

/-- Where a number lies among all others, in units; the infinities lie just outside the finite ones. -/
def place? : Binary64 → Option Int
  | nan => none
  | infinite negative => some (signed negative unitLimit)
  | finite negative magnitude => some (signed negative magnitude.units)

/-- The order of two numbers, unless one is not a number. The two zeros are equal. -/
def compare? (first second : Binary64) : Option Ordering :=
  match first.place?, second.place? with
  | some left, some right => some (compare left right)
  | _, _ => none

def equals (first second : Binary64) : Bool :=
  match first.place?, second.place? with
  | some left, some right => left == right
  | _, _ => false

def isZero (number : Binary64) : Bool := number.place? == some 0

/-- The integer part, kept within 64 bits; not-a-number has the integer part zero. -/
def truncate (number : Binary64) : Int64 :=
  match number.place? with
  | some units => Int64.ofIntClamp (units.tdiv unitsInOne)
  | none => 0

end Binary64

end FieldLogic.Number
