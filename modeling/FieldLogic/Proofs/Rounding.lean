import FieldLogic.Number.Binary64

/-! Rounding of whole numbers. A number that is not exact goes to the nearest that is, and what is nearest keeps the order:
of two numbers the greater never comes out below the other. Every whole number below 2^53 is exact, and above that all
exact numbers are whole, so a whole number stays whole. -/

namespace FieldLogic.Number

theorem unitsInOne_pos : 0 < unitsInOne := one_shiftLeft_pos _

theorem spacing_pos (units : Nat) : 0 < spacing units := one_shiftLeft_pos _

theorem spacing_dvd_spacing {first second : Nat} (order : first.log2 ≤ second.log2) : spacing first ∣ spacing second := by
  rw [spacing, spacing, Nat.one_shiftLeft, Nat.one_shiftLeft]
  exact Nat.pow_dvd_pow 2 (by omega)

/-- No multiple of the denominator is nearer than the one that the nearest integer gives. -/
theorem roundQuotient_nearest {denominator : Nat} (numerator : Nat) (positive : 0 < denominator) (other : Nat) :
    ((numerator : Int) - (roundQuotient numerator denominator * denominator : Nat)).natAbs ≤
      ((numerator : Int) - (other * denominator : Nat)).natAbs := by
  have parts := Nat.div_add_mod numerator denominator
  have small := Nat.mod_lt numerator positive
  rw [Nat.mul_comm] at parts
  have above : (numerator / denominator + 1) * denominator = numerator / denominator * denominator + denominator :=
    Nat.succ_mul ..
  have side : other * denominator ≤ numerator / denominator * denominator ∨
      numerator / denominator * denominator + denominator ≤ other * denominator := by
    rcases Nat.lt_or_ge (numerator / denominator) other with more | less
    · exact .inr (above ▸ Nat.mul_le_mul_right denominator more)
    · exact .inl (Nat.mul_le_mul_right denominator less)
  simp only [roundQuotient]
  split
  next => omega
  next =>
    split
    next =>
      rcases Nat.mod_two_eq_zero_or_one (numerator / denominator) with even | odd
      · rw [even, Nat.add_zero]
        omega
      · rw [odd, above]
        omega
    next =>
      rw [above]
      omega

/-- Rounding goes to the nearest of the magnitudes. -/
theorem roundUnits_nearest (units : Nat) {other : Nat} (exact : spacing other ∣ other) :
    ((units : Int) - roundUnits units 1).natAbs ≤ ((units : Int) - other).natAbs := by
  have nearest (count : Nat) := roundQuotient_nearest units (spacing_pos units) count
  simp only [roundUnits, Nat.div_one, Nat.one_mul]
  rcases Nat.lt_or_ge other.log2 units.log2 with below | above
  · by_cases coarse : 52 ≤ units.log2
    · have nonzero : units ≠ 0 := by
        rintro rfl
        exact Nat.not_lt_zero _ below
      have under := Nat.log2_self_le nonzero
      have past : other < 2 ^ units.log2 := Nat.lt_of_lt_of_le Nat.lt_log2_self (Nat.pow_le_pow_right (by decide) below)
      have pivot : 2 ^ 52 * spacing units = 2 ^ units.log2 := by
        rw [spacing, Nat.one_shiftLeft, ← Nat.pow_add, Nat.add_sub_cancel' coarse]
      have near := nearest (2 ^ 52)
      rw [pivot] at near
      omega
    · have single : spacing units = 1 := by rw [spacing, Nat.sub_eq_zero_of_le (by omega), Nat.shiftLeft_zero]
      have near := nearest other
      simp only [single, Nat.mul_one] at near ⊢
      exact near
  · obtain ⟨count, same⟩ := Nat.dvd_trans (spacing_dvd_spacing above) exact
    have near := nearest count
    rw [Nat.mul_comm count, ← same] at near
    exact near

theorem roundUnits_le {units bound : Nat} (exact : spacing bound ∣ bound) (below : units ≤ bound) :
    roundUnits units 1 ≤ bound := by
  have near := roundUnits_nearest units exact
  omega

theorem le_roundUnits {units bound : Nat} (exact : spacing bound ∣ bound) (above : bound ≤ units) :
    bound ≤ roundUnits units 1 := by
  have near := roundUnits_nearest units exact
  omega

theorem roundUnits_of_exact {units : Nat} (exact : spacing units ∣ units) : roundUnits units 1 = units :=
  Nat.le_antisymm (roundUnits_le exact (Nat.le_refl _)) (le_roundUnits exact (Nat.le_refl _))

/-- The whole numbers that no rounding changes: at most 53 significant digits, and zeros. -/
theorem exact_whole {count : Nat} (exponent : Nat) (significant : count ≤ 1 <<< 53) :
    spacing (count * 1 <<< exponent * unitsInOne) ∣ count * 1 <<< exponent * unitsInOne := by
  have same : count * 1 <<< exponent * unitsInOne = count * 1 <<< (exponent + places) := by
    simp only [unitsInOne, Nat.one_shiftLeft, Nat.pow_add, Nat.mul_assoc]
  rw [same]
  exact spacing_dvd_scaled (exponent + places) significant

theorem exact_small {whole : Nat} (small : whole ≤ 1 <<< 53) : spacing (whole * unitsInOne) ∣ whole * unitsInOne := by
  have exact := exact_whole 0 small
  rw [Nat.shiftLeft_zero, Nat.mul_one] at exact
  exact exact

theorem unitsInOne_dvd_roundUnits (whole : Nat) : unitsInOne ∣ roundUnits (whole * unitsInOne) 1 := by
  by_cases small : whole ≤ 1 <<< 53
  · rw [roundUnits_of_exact (exact_small small)]
    exact Nat.dvd_mul_left ..
  · have large : 2 ^ (52 + places) ≤ whole * unitsInOne := by
      rw [Nat.pow_add, unitsInOne, Nat.one_shiftLeft]
      exact Nat.mul_le_mul_right _ (by omega)
    have nonzero : whole * unitsInOne ≠ 0 := Nat.mul_ne_zero (by omega) (Nat.ne_of_gt unitsInOne_pos)
    have digits := (Nat.le_log2 nonzero).mpr large
    have coarse : unitsInOne ∣ spacing (whole * unitsInOne) := by
      rw [unitsInOne, spacing, Nat.one_shiftLeft, Nat.one_shiftLeft]
      exact Nat.pow_dvd_pow 2 (by rw [unitsInOne, Nat.one_shiftLeft] at digits; omega)
    rw [roundUnits, Nat.div_one]
    exact Nat.dvd_trans coarse (Nat.dvd_mul_left ..)

namespace Binary64

theorem ofInt_zero : ofInt 0 = zero := by
  have rounded := ofQuotient_mul false Magnitude.zero Nat.one_pos
  rw [Nat.mul_one] at rounded
  rw [ofInt, Int.natAbs_zero, Nat.zero_mul]
  exact rounded

/-- Where the number nearest to a whole number lies, in units. -/
def wholePlace (value : Int) : Int := signed (value < 0) (roundUnits (value.natAbs * unitsInOne) 1)

theorem wholePlace_of_nonneg {value : Int} (nonneg : 0 ≤ value) :
    wholePlace value = roundUnits (value.natAbs * unitsInOne) 1 := by
  simp [wholePlace, signed, Int.not_lt.mpr nonneg]

theorem wholePlace_of_neg {value : Int} (negative : value < 0) :
    wholePlace value = -(roundUnits (value.natAbs * unitsInOne) 1 : Int) := by
  simp [wholePlace, signed, negative]

theorem natAbs_wholePlace (value : Int) : (wholePlace value).natAbs = roundUnits (value.natAbs * unitsInOne) 1 := by
  rcases Int.lt_or_le value 0 with negative | nonneg
  · rw [wholePlace_of_neg negative, Int.natAbs_neg, Int.natAbs_natCast]
  · rw [wholePlace_of_nonneg nonneg, Int.natAbs_natCast]

theorem wholePlace_nearest (value : Int) {other : Int} (exact : spacing other.natAbs ∣ other.natAbs) :
    (value * unitsInOne - wholePlace value).natAbs ≤ (value * unitsInOne - other).natAbs := by
  have near := roundUnits_nearest (value.natAbs * unitsInOne) exact
  have origin := roundUnits_nearest (value.natAbs * unitsInOne) (Nat.dvd_zero (spacing 0))
  rcases Int.lt_or_le value 0 with negative | nonneg
  · have size : value * unitsInOne = -(value.natAbs * unitsInOne : Nat) := by
      rw [Int.natCast_mul, Int.ofNat_natAbs_of_nonpos (Int.le_of_lt negative), Int.neg_mul, Int.neg_neg]
    rw [wholePlace_of_neg negative, size]
    omega
  · have size : value * unitsInOne = (value.natAbs * unitsInOne : Nat) := by
      rw [Int.natCast_mul, Int.natAbs_of_nonneg nonneg]
    rw [wholePlace_of_nonneg nonneg, size]
    omega

theorem wholePlace_of_exact {value : Int} (exact : spacing (value.natAbs * unitsInOne) ∣ value.natAbs * unitsInOne) :
    wholePlace value = value * unitsInOne := by
  have size : (value * unitsInOne).natAbs = value.natAbs * unitsInOne := by rw [Int.natAbs_mul, Int.natAbs_natCast]
  have near := wholePlace_nearest value (size ▸ exact)
  omega

theorem wholePlace_small {value : Int} (small : value.natAbs ≤ 1 <<< 53) : wholePlace value = value * unitsInOne :=
  wholePlace_of_exact (exact_small small)

theorem roundUnits_bounded {whole bits : Nat} (bounded : whole ≤ 1 <<< bits) :
    roundUnits (whole * unitsInOne) 1 ≤ 1 <<< bits * unitsInOne := by
  have exact : spacing (1 * 1 <<< bits * unitsInOne) ∣ 1 * 1 <<< bits * unitsInOne := exact_whole bits (by decide)
  rw [Nat.one_mul] at exact
  exact roundUnits_le exact (Nat.mul_le_mul_right _ bounded)

theorem bounded_lt_unitLimit {bits : Nat} (small : bits < 1024) : 1 <<< bits * unitsInOne < unitLimit := by
  have wide (exponent : Nat) : 1 <<< bits * 1 <<< exponent < 1 <<< (exponent + 1024) := by
    simp only [Nat.one_shiftLeft, ← Nat.pow_add]
    exact Nat.pow_lt_pow_right Nat.one_lt_two (by omega)
  exact wide places

theorem ofInt_finite {value : Int} {bits : Nat} (bounded : value.natAbs ≤ 1 <<< bits) (small : bits < 1024) :
    ∃ magnitude, ofInt value = finite (value < 0) magnitude := by
  have inside := Nat.lt_of_le_of_lt (roundUnits_bounded bounded) (bounded_lt_unitLimit small)
  rw [ofInt, ofQuotient, dif_pos inside]
  exact ⟨_, rfl⟩

section

variable {value : Int}

theorem place?_ofInt (bounded : value.natAbs ≤ 1 <<< 63) : (ofInt value).place? = some (wholePlace value) := by
  have finite := Nat.lt_of_le_of_lt (roundUnits_bounded bounded) (bounded_lt_unitLimit (by decide))
  rw [ofInt, ofQuotient, dif_pos finite]
  rfl

theorem exact_wholePlace (bounded : value.natAbs ≤ 1 <<< 63) :
    spacing (wholePlace value).natAbs ∣ (wholePlace value).natAbs := by
  rw [natAbs_wholePlace]
  exact (representable_roundUnits (Nat.lt_of_le_of_lt (roundUnits_bounded bounded) (bounded_lt_unitLimit (by decide)))).2

theorem wholePlace_mono {other : Int} (bounded : value.natAbs ≤ 1 <<< 63) (also : other.natAbs ≤ 1 <<< 63)
    (order : value ≤ other) : wholePlace value ≤ wholePlace other := by
  have near := wholePlace_nearest value (exact_wholePlace also)
  have back := wholePlace_nearest other (exact_wholePlace bounded)
  rcases Int.lt_or_eq_of_le order with before | rfl
  · have apart : value * unitsInOne < other * unitsInOne :=
      Int.mul_lt_mul_of_pos_right before (Int.natCast_pos.mpr unitsInOne_pos)
    omega
  · exact Int.le_refl _

theorem wholePlace_neg_iff : wholePlace value < 0 ↔ value < 0 := by
  rcases Int.lt_or_le value 0 with negative | nonneg
  · have unit : unitsInOne ≤ roundUnits (value.natAbs * unitsInOne) 1 := by
      have exact : spacing (1 * unitsInOne) ∣ 1 * unitsInOne := exact_small (by decide)
      rw [Nat.one_mul] at exact
      exact le_roundUnits exact (Nat.le_mul_of_pos_left _ (by omega))
    have positive := unitsInOne_pos
    rw [wholePlace_of_neg negative]
    omega
  · rw [wholePlace_of_nonneg nonneg]
    omega

theorem ofInt_eq_iff {other : Int} (bounded : value.natAbs ≤ 1 <<< 63) (also : other.natAbs ≤ 1 <<< 63) :
    ofInt value = ofInt other ↔ wholePlace value = wholePlace other := by
  constructor
  · intro same
    have places := congrArg place? same
    rw [place?_ofInt bounded, place?_ofInt also, Option.some.injEq] at places
    exact places
  · intro same
    have sign : (value < 0) = (other < 0) := propext (by rw [← wholePlace_neg_iff, same, wholePlace_neg_iff])
    have size := congrArg Int.natAbs same
    rw [natAbs_wholePlace, natAbs_wholePlace] at size
    simp only [ofInt, ofQuotient, sign, size]

/-- What lies further up is greater, and greater numbers lie further up unless they are rounded to the same. -/
theorem wholePlace_lt_iff {other : Int} (bounded : value.natAbs ≤ 1 <<< 63) (also : other.natAbs ≤ 1 <<< 63) :
    wholePlace value < wholePlace other ↔ value < other ∧ ofInt value ≠ ofInt other := by
  have apart := not_congr (ofInt_eq_iff bounded also)
  constructor
  · intro before
    refine ⟨?_, apart.mpr (Int.ne_of_lt before)⟩
    apply Int.not_le.mp
    intro order
    exact Int.not_lt.mpr (wholePlace_mono also bounded order) before
  · rintro ⟨before, distinct⟩
    exact Int.lt_iff_le_and_ne.mpr ⟨wholePlace_mono bounded also (Int.le_of_lt before), apart.mp distinct⟩

theorem compare?_ofInt {other : Int} (bounded : value.natAbs ≤ 1 <<< 63) (also : other.natAbs ≤ 1 <<< 63) :
    (ofInt value).compare? (ofInt other) = some (compare (wholePlace value) (wholePlace other)) := by
  rw [compare?, place?_ofInt bounded, place?_ofInt also]

theorem equals_ofInt {other : Int} (bounded : value.natAbs ≤ 1 <<< 63) (also : other.natAbs ≤ 1 <<< 63) :
    (ofInt value).equals (ofInt other) = true ↔ ofInt value = ofInt other := by
  rw [ofInt_eq_iff bounded also, equals, place?_ofInt bounded, place?_ofInt also]
  exact beq_iff_eq

theorem ofInt_eq_small_iff {other : Int} (bounded : value.natAbs ≤ 1 <<< 63) (small : other.natAbs < 1 <<< 53) :
    ofInt value = ofInt other ↔ value = other := by
  have also : other.natAbs ≤ 1 <<< 63 := by omega
  constructor
  · intro same
    have place : wholePlace value = other * unitsInOne := by
      rw [(ofInt_eq_iff bounded also).mp same, wholePlace_small (Nat.le_of_lt small)]
    have positive := unitsInOne_pos
    rcases Int.lt_trichotomy value other with before | equal | behind
    · have below : wholePlace value ≤ wholePlace (other - 1) := wholePlace_mono bounded (by omega) (by omega)
      have step : wholePlace (other - 1) = (other - 1) * unitsInOne := wholePlace_small (by omega)
      rw [Int.sub_mul] at step
      omega
    · exact equal
    · have above : wholePlace (other + 1) ≤ wholePlace value := wholePlace_mono (by omega) bounded (by omega)
      have step : wholePlace (other + 1) = (other + 1) * unitsInOne := wholePlace_small (by omega)
      rw [Int.add_mul] at step
      omega
  · rintro rfl
    rfl

/-- A whole number that was rounded is whole still, and is cut off where the integers end. -/
theorem truncate_ofInt (bounded : value.natAbs ≤ 1 <<< 63) :
    ∃ whole : Int, wholePlace value = whole * unitsInOne ∧ whole.natAbs ≤ 1 <<< 63 ∧
      (ofInt value).truncate = Int64.ofIntClamp whole := by
  have divides : (unitsInOne : Int) ∣ wholePlace value := by
    rw [← Int.dvd_natAbs, natAbs_wholePlace]
    exact Int.natCast_dvd_natCast.mpr (unitsInOne_dvd_roundUnits _)
  obtain ⟨whole, same⟩ := divides
  rw [Int.mul_comm] at same
  have positive := unitsInOne_pos
  have size : whole.natAbs * unitsInOne ≤ 1 <<< 63 * unitsInOne := by
    have most := roundUnits_bounded bounded
    rw [← natAbs_wholePlace, same, Int.natAbs_mul, Int.natAbs_natCast] at most
    exact most
  refine ⟨whole, same, Nat.le_of_mul_le_mul_right size positive, ?_⟩
  rw [truncate, place?_ofInt bounded, same]
  show Int64.ofIntClamp ((whole * unitsInOne).tdiv unitsInOne) = Int64.ofIntClamp whole
  rw [Int.mul_tdiv_cancel whole (by omega)]

/-- Rounding what a rounded number is read as again changes nothing. -/
theorem ofInt_truncate (bounded : value.natAbs ≤ 1 <<< 63) : ofInt (ofInt value).truncate.toInt = ofInt value := by
  obtain ⟨whole, same, size, read⟩ := truncate_ofInt bounded
  have exact := exact_wholePlace bounded
  rw [same, Int.natAbs_mul, Int.natAbs_natCast] at exact
  rw [read]
  have lowest : Int64.minValue.toInt = -(1 <<< 63) := by decide
  have highest : Int64.maxValue.toInt = 1 <<< 63 - 1 := by decide
  by_cases last : whole = 1 <<< 63
  · subst last
    have again : wholePlace (Int64.ofIntClamp (1 <<< 63)).toInt = 1 <<< 63 * unitsInOne := by decide +kernel
    rw [ofInt_eq_iff (by decide) bounded, again, same]
  · have inside : (Int64.ofIntClamp whole).toInt = whole := Int64.toInt_ofIntClamp (by omega) (by omega)
    rw [inside, ofInt_eq_iff size bounded, wholePlace_of_exact exact, same]

end

end Binary64

end FieldLogic.Number
