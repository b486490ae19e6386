import FieldLogic.Number.Shortest
import FieldLogic.Proofs.Rounding
import Mathlib.Data.List.Basic
import Mathlib.Tactic.Ring

/-! Rounding of decimals. What a decimal is rounded to depends on the number it stands for and not on how it is scaled, and
what lies near enough to a magnitude is rounded to it. So the search for the shortest decimal ends on a grid that is not
much finer than the magnitudes, and the decimal it finds has few digits. -/

namespace FieldLogic.Number

theorem roundQuotient_of_near {numerator denominator count : Nat}
    (near : 2 * ((numerator : Int) - (count * denominator : Nat)).natAbs < denominator) :
    roundQuotient numerator denominator = count := by
  have positive : 0 < denominator := by omega
  have nearest := roundQuotient_nearest numerator positive count
  rcases Nat.lt_trichotomy (roundQuotient numerator denominator) count with below | same | above
  · have step := Nat.mul_le_mul_right denominator (Nat.succ_le_of_lt below)
    rw [Nat.succ_mul] at step
    omega
  · exact same
  · have step := Nat.mul_le_mul_right denominator (Nat.succ_le_of_lt above)
    rw [Nat.succ_mul] at step
    omega

theorem log2_le_of_lt {first second : Nat} (below : first < 2 ^ (second.log2 + 1)) : first.log2 ≤ second.log2 := by
  by_cases zero : first = 0
  · subst zero
    exact Nat.zero_le _
  · exact Nat.le_of_lt_succ ((Nat.log2_lt zero).mpr below)

theorem add_spacing_le {units : Nat} (exact : spacing units ∣ units) : units + spacing units ≤ 2 ^ (units.log2 + 1) := by
  have grid : spacing units ∣ 2 ^ (units.log2 + 1) := by
    rw [spacing, Nat.one_shiftLeft]
    exact Nat.pow_dvd_pow 2 (by omega)
  obtain ⟨count, same⟩ := exact
  obtain ⟨limit, power⟩ := grid
  have below : spacing units * count < spacing units * limit := by
    rw [← same, ← power]
    exact Nat.lt_log2_self
  have next := Nat.mul_le_mul_left (spacing units) (Nat.succ_le_of_lt (Nat.lt_of_mul_lt_mul_left below))
  rw [Nat.mul_succ, ← same, ← power] at next
  exact next

/-- Down to the next magnitude at most one power of two is passed, where the spacing is halved. -/
theorem spacing_le_of_le {units below : Nat} (near : units - spacing units ≤ below) : spacing units ≤ 2 * spacing below := by
  have digits : units.log2 - 52 ≤ below.log2 - 52 + 1 := by
    by_cases coarse : units.log2 ≤ 53
    · omega
    · have nonzero : units ≠ 0 := by
        rintro rfl
        exact coarse (by decide)
      have least := Nat.log2_self_le nonzero
      have half : 2 * 2 ^ (units.log2 - 1) = 2 ^ units.log2 := by
        rw [← Nat.pow_succ']
        exact congrArg (2 ^ ·) (by omega)
      have small : spacing units ≤ 2 ^ (units.log2 - 1) := by
        rw [spacing, Nat.one_shiftLeft]
        exact Nat.pow_le_pow_right (by decide) (by omega)
      have large : 2 ^ (units.log2 - 1) ≤ below := by omega
      have positive := Nat.two_pow_pos (units.log2 - 1)
      have bits := (Nat.le_log2 (show below ≠ 0 by omega)).mpr large
      omega
  have powers := Nat.pow_le_pow_right (show 0 < 2 by decide) digits
  rw [Nat.pow_succ, Nat.mul_comm] at powers
  rw [spacing, spacing, Nat.one_shiftLeft, Nat.one_shiftLeft]
  exact powers

/-- What lies less than a quarter of the spacing from a magnitude is rounded to it, even if the spacing is halved below. -/
theorem roundUnits_of_near {units numerator denominator : Nat} (exact : spacing units ∣ units)
    (near : 4 * ((numerator : Int) - (units * denominator : Nat)).natAbs < spacing units * denominator) :
    roundUnits numerator denominator = units := by
  have positive : 0 < denominator := by
    by_contra none
    obtain rfl : denominator = 0 := by omega
    simp at near
  have above : numerator / denominator < units + spacing units := by
    apply (Nat.div_lt_iff_lt_mul positive).mpr
    rw [Nat.add_mul]
    omega
  have below : units - spacing units ≤ numerator / denominator := by
    apply (Nat.le_div_iff_mul_le positive).mpr
    rw [Nat.sub_mul]
    omega
  have grid : spacing (numerator / denominator) ∣ spacing units :=
    spacing_dvd_spacing (log2_le_of_lt (Nat.lt_of_lt_of_le above (add_spacing_le exact)))
  have halved := Nat.mul_le_mul_right denominator (spacing_le_of_le below)
  obtain ⟨count, same⟩ := Nat.dvd_trans grid exact
  have scaled : count * (denominator * spacing (numerator / denominator)) = units * denominator := by
    conv => rhs; rw [same]
    ring
  have nearest : roundQuotient numerator (denominator * spacing (numerator / denominator)) = count := by
    apply roundQuotient_of_near
    rw [scaled]
    have order : 2 * spacing (numerator / denominator) * denominator =
        2 * (denominator * spacing (numerator / denominator)) := by ring
    omega
  show roundQuotient numerator (denominator * spacing (numerator / denominator)) * spacing (numerator / denominator) = units
  rw [nearest, Nat.mul_comm]
  exact same.symm

theorem roundQuotient_scale (numerator denominator : Nat) {scale : Nat} (positive : 0 < scale) :
    roundQuotient (numerator * scale) (denominator * scale) = roundQuotient numerator denominator := by
  have twice : 2 * (numerator % denominator * scale) = 2 * (numerator % denominator) * scale := by ring
  have less : 2 * (numerator % denominator) * scale < denominator * scale ↔ 2 * (numerator % denominator) < denominator :=
    Nat.mul_lt_mul_right positive
  have same : 2 * (numerator % denominator) * scale = denominator * scale ↔ 2 * (numerator % denominator) = denominator :=
    Nat.mul_left_inj (Nat.ne_of_gt positive)
  simp only [roundQuotient, Nat.mul_div_mul_right _ _ positive, Nat.mul_mod_mul_right, twice, less, same]

theorem roundUnits_scale (numerator denominator : Nat) {scale : Nat} (positive : 0 < scale) :
    roundUnits (numerator * scale) (denominator * scale) = roundUnits numerator denominator := by
  have order : denominator * scale * spacing (numerator / denominator) =
      denominator * spacing (numerator / denominator) * scale := by ring
  simp only [roundUnits, Nat.mul_div_mul_right _ _ positive, order, roundQuotient_scale _ _ positive]

theorem roundUnits_zero (denominator : Nat) : roundUnits 0 denominator = 0 := by
  have none : roundQuotient 0 (denominator * spacing 0) = 0 := by
    simp only [roundQuotient, Nat.zero_div, Nat.zero_mod, Nat.mul_zero]
    split
    next => rfl
    next => exact if_pos (by omega)
  simp only [roundUnits, Nat.zero_div, none, Nat.zero_mul]

theorem roundUnits_of_small {numerator denominator : Nat} (small : 2 * numerator < denominator) :
    roundUnits numerator denominator = 0 := by
  have floor : numerator / denominator = 0 := Nat.div_eq_of_lt (by omega)
  have single : spacing 0 = 1 := by decide
  have none : roundQuotient numerator denominator = 0 := roundQuotient_of_near (by simpa using small)
  simp only [roundUnits, floor, single, Nat.mul_one, none]

theorem two_pow_lt_ten_pow_of_ratio {many few : Nat} (positive : 0 < many) (ratio : 2 ^ many ≤ 10 ^ few) (count : Nat) :
    2 ^ count < 10 ^ (count * few / many + 1) := by
  apply (Nat.pow_lt_pow_iff_left (Nat.ne_of_gt positive)).mp
  have past : few * count < (count * few / many + 1) * many := by
    rw [Nat.mul_comm few, Nat.mul_comm _ many]
    exact Nat.lt_mul_div_succ _ positive
  calc
    (2 ^ count) ^ many = (2 ^ many) ^ count := Nat.pow_right_comm 2 count many
    _ ≤ (10 ^ few) ^ count := Nat.pow_le_pow_left ratio count
    _ = 10 ^ (few * count) := (Nat.pow_mul 10 few count).symm
    _ < 10 ^ ((count * few / many + 1) * many) := Nat.pow_lt_pow_right (by decide) past
    _ = (10 ^ (count * few / many + 1)) ^ many := Nat.pow_mul ..

/-- The common logarithm of two is less than 0.30103. -/
theorem two_pow_lt_ten_pow (count : Nat) : 2 ^ count < 10 ^ (count * 30103 / 100000 + 1) :=
  two_pow_lt_ten_pow_of_ratio (by decide) (by decide +kernel) count

namespace Binary64

variable (negative : Bool)

theorem ofQuotient_congr {numerator denominator other scale : Nat} (positive : 0 < denominator) (also : 0 < scale)
    (same : numerator * scale = other * denominator) :
    ofQuotient negative numerator denominator = ofQuotient negative other scale := by
  have rounded : roundUnits numerator denominator = roundUnits other scale := by
    rw [← roundUnits_scale numerator denominator also, same, Nat.mul_comm denominator, roundUnits_scale other scale positive]
  simp only [ofQuotient, rounded]

theorem ofQuotient_of_roundUnits {numerator denominator : Nat} (magnitude : Magnitude)
    (rounded : roundUnits numerator denominator = magnitude.units) :
    ofQuotient negative numerator denominator = finite negative magnitude := by
  rw [ofQuotient, dif_pos (rounded ▸ magnitude.representable.1)]
  exact congrArg (finite negative) (Magnitude.eq_of_units rounded)

theorem ofQuotient_large {units : Nat} (large : unitLimit ≤ units) : ofQuotient negative units 1 = infinite negative := by
  have power (exponent : Nat) : spacing (1 <<< exponent) ∣ 1 <<< exponent := by
    have scaled := spacing_dvd_scaled exponent (show 1 ≤ 1 <<< 53 by decide)
    rw [Nat.one_mul] at scaled
    exact scaled
  have exact : spacing unitLimit ∣ unitLimit := power _
  exact dif_neg (Nat.not_lt.mpr (le_roundUnits exact large))

theorem large_power {exponent : Nat} (large : 309 < exponent) : unitLimit ≤ 10 ^ exponent * unitsInOne := by
  have wide (low high : Nat) (bounded : high * 30103 / 100000 < exponent) :
      1 <<< (low + high) ≤ 10 ^ exponent * 1 <<< low := by
    have power : 2 ^ high ≤ 10 ^ exponent :=
      Nat.le_of_lt (Nat.lt_of_lt_of_le (two_pow_lt_ten_pow high) (Nat.pow_le_pow_right (by decide) bounded))
    rw [Nat.one_shiftLeft, Nat.one_shiftLeft, Nat.add_comm, Nat.pow_add]
    exact Nat.mul_le_mul_right _ power
  exact wide places 1024 (by omega)

theorem small_power {digits exponent : Nat} (small : digits.log2 + (places + 2) < 3 * exponent) :
    2 * (digits * unitsInOne) < 10 ^ exponent := by
  have powers : 2 ^ (digits.log2 + 1 + places + 1) ≤ 10 ^ exponent := calc
    2 ^ (digits.log2 + 1 + places + 1) ≤ 2 ^ (3 * exponent) := Nat.pow_le_pow_right (by decide) (by omega)
    _ = 8 ^ exponent := Nat.pow_mul 2 3 exponent
    _ ≤ 10 ^ exponent := Nat.pow_le_pow_left (by decide) exponent
  have below : digits * 2 ^ places < 2 ^ (digits.log2 + 1) * 2 ^ places :=
    Nat.mul_lt_mul_of_pos_right Nat.lt_log2_self (Nat.two_pow_pos places)
  rw [Nat.pow_succ, Nat.pow_add] at powers
  rw [unitsInOne, Nat.one_shiftLeft]
  omega

theorem ofDecimal_zero (exponent : Int) : ofDecimal negative 0 exponent = finite negative .zero := if_pos rfl

/-- The powers that are not formed make no difference. -/
theorem ofDecimal_eq_ofQuotient (digits : Nat) (exponent : Int) :
    ofDecimal negative digits exponent =
      ofQuotient negative (digits * 10 ^ exponent.toNat * unitsInOne) (10 ^ (-exponent).toNat) := by
  have zero {numerator denominator : Nat} (none : roundUnits numerator denominator = 0) :
      ofQuotient negative numerator denominator = finite negative .zero := ofQuotient_of_roundUnits negative .zero none
  unfold ofDecimal
  split
  next none =>
    rw [none, Nat.zero_mul, Nat.zero_mul]
    exact (zero (roundUnits_zero _)).symm
  next some =>
    split
    next large =>
      have whole : (-exponent).toNat = 0 := by omega
      rw [whole, Nat.pow_zero, ofQuotient_large]
      have more : 10 ^ exponent.toNat ≤ digits * 10 ^ exponent.toNat :=
        Nat.le_mul_of_pos_left _ (Nat.pos_of_ne_zero some)
      exact Nat.le_trans (large_power (by omega)) (Nat.mul_le_mul_right _ more)
    next =>
      split
      next small =>
        have fraction : exponent.toNat = 0 := by omega
        rw [fraction, Nat.pow_zero, Nat.mul_one]
        exact (zero (roundUnits_of_small (small_power (by omega)))).symm
      next => rfl

theorem ofDecimal_of_unsigned {digits : Nat} {exponent : Int} {magnitude : Magnitude}
    (unsigned : ofDecimal false digits exponent = finite false magnitude) :
    ofDecimal negative digits exponent = finite negative magnitude := by
  rw [ofDecimal_eq_ofQuotient] at unsigned ⊢
  apply ofQuotient_of_roundUnits
  rw [ofQuotient] at unsigned
  split at unsigned
  next bounded =>
    rw [finite.injEq] at unsigned
    exact congrArg Magnitude.units unsigned.2
  next => cases unsigned

theorem ofDecimal_zeros (digits count : Nat) (exponent : Int) :
    ofDecimal negative (digits * 10 ^ count) (exponent - count) = ofDecimal negative digits exponent := by
  have ten (power : Nat) : 0 < 10 ^ power := Nat.pow_pos (by decide)
  rw [ofDecimal_eq_ofQuotient, ofDecimal_eq_ofQuotient]
  apply ofQuotient_congr negative (ten _) (ten _)
  have places : count + (exponent - count).toNat + (-exponent).toNat = exponent.toNat + (-(exponent - count)).toNat := by
    omega
  have powers := congrArg (10 ^ ·) places
  simp only [Nat.pow_add] at powers
  calc
    digits * 10 ^ count * 10 ^ (exponent - count).toNat * unitsInOne * 10 ^ (-exponent).toNat
        = digits * unitsInOne * (10 ^ count * 10 ^ (exponent - count).toNat * 10 ^ (-exponent).toNat) := by ring
    _ = digits * unitsInOne * (10 ^ exponent.toNat * 10 ^ (-(exponent - count)).toNat) := by rw [powers]
    _ = digits * 10 ^ exponent.toNat * unitsInOne * 10 ^ (-(exponent - count)).toNat := by ring

/-- On a grid the finest of which has a unit of a decimal for each place, a number is a count of these units. -/
theorem ofDecimal_grid (digits level : Nat) :
    ofDecimal negative digits (level - places) = ofQuotient negative (digits * 10 ^ level) (5 ^ places) := by
  have five : 0 < 5 ^ places := Nat.pow_pos (by decide)
  rw [ofDecimal_eq_ofQuotient]
  apply ofQuotient_congr negative (Nat.pow_pos (by decide)) five
  have levels : (level - places : Int).toNat + places = level + (-(level - places : Int)).toNat := by omega
  have powers := congrArg (10 ^ ·) levels
  simp only [Nat.pow_add] at powers
  have ten : 10 ^ places = 2 ^ places * 5 ^ places := Nat.mul_pow 2 5 places
  rw [unitsInOne, Nat.one_shiftLeft]
  calc
    digits * 10 ^ (level - places : Int).toNat * 2 ^ places * 5 ^ places
        = digits * (10 ^ (level - places : Int).toNat * (2 ^ places * 5 ^ places)) := by ring
    _ = digits * (10 ^ level * 10 ^ (-(level - places : Int)).toNat) := by rw [← ten, powers]
    _ = digits * 10 ^ level * 10 ^ (-(level - places : Int)).toNat := by ring

end Binary64

namespace Magnitude

variable {magnitude : Magnitude}

/-- A decimal that is not further away than a quarter of the spacing reads back. -/
theorem readsBack_of_near {digits level : Nat}
    (near : 4 * ((digits * 10 ^ level : Nat) - (magnitude.units * 5 ^ places : Nat) : Int).natAbs <
      spacing magnitude.units * 5 ^ places) : magnitude.readsBack ⟨digits, level - places⟩ = true := by
  rw [readsBack, Binary64.ofDecimal_grid,
    Binary64.ofQuotient_of_roundUnits false magnitude (roundUnits_of_near magnitude.representable.2 near), beq_self_eq_true]

theorem decimalUnits_eq (magnitude : Magnitude) : magnitude.decimalUnits = magnitude.units * 5 ^ places := rfl

theorem onGrid?_of_fine (tie : Tie) {level : Nat} (fine : 4 * 10 ^ level ≤ spacing magnitude.units * 5 ^ places) :
    magnitude.onGrid? tie level ≠ none := by
  have lower : magnitude.readsBack ⟨magnitude.decimalUnits / 10 ^ level, level - places⟩ = true := by
    apply readsBack_of_near
    rw [← decimalUnits_eq]
    have positive : 0 < 10 ^ level := Nat.pow_pos (by decide)
    have parts := Nat.div_add_mod magnitude.decimalUnits (10 ^ level)
    have small := Nat.mod_lt magnitude.decimalUnits positive
    rw [Nat.mul_comm] at parts
    omega
  have member : (⟨magnitude.decimalUnits / 10 ^ level, level - places⟩ : Decimal) ∈ magnitude.neighbours tie level := by
    simp only [neighbours, Nat.pow_eq]
    split <;> simp
  intro none
  exact List.find?_eq_none.mp none _ member lower

theorem digits_of_onGrid? {tie : Tie} {level : Nat} {decimal : Decimal} (found : magnitude.onGrid? tie level = some decimal) :
    decimal.digits ≤ magnitude.decimalUnits / 10 ^ level + 1 := by
  have member := List.mem_of_find?_eq_some found
  simp only [neighbours, Nat.pow_eq] at member
  split at member
  all_goals
    rcases List.mem_pair.mp member with lower | upper
    · subst lower
      simp
    · subst upper
      simp

theorem units_lt (magnitude : Magnitude) : magnitude.units < 1 <<< 53 * spacing magnitude.units :=
  (Nat.div_lt_iff_lt_mul (spacing_pos magnitude.units)).mp (quotient_spacing_le magnitude.units)

theorem spacing_le (nonzero : magnitude.units ≠ 0) : spacing magnitude.units ≤ magnitude.units :=
  Nat.le_of_dvd (Nat.pos_of_ne_zero nonzero) magnitude.representable.2

theorem decimalUnits_div_lt {level : Nat} (coarse : spacing magnitude.units * 5 ^ places < 40 * 10 ^ level) :
    magnitude.decimalUnits / 10 ^ level < 40 * 1 <<< 53 := by
  apply (Nat.div_lt_iff_lt_mul (Nat.pow_pos (by decide))).mpr
  have five : 0 < 5 ^ places := Nat.pow_pos (by decide)
  have most : 0 < 1 <<< 53 := by decide
  calc
    magnitude.decimalUnits < 1 <<< 53 * spacing magnitude.units * 5 ^ places :=
      Nat.mul_lt_mul_of_pos_right magnitude.units_lt five
    _ = 1 <<< 53 * (spacing magnitude.units * 5 ^ places) := by ring
    _ ≤ 1 <<< 53 * (40 * 10 ^ level) := Nat.mul_le_mul_left _ (Nat.le_of_lt coarse)
    _ = 40 * 1 <<< 53 * 10 ^ level := by ring

theorem digits_shortestFrom_le (tie : Tie) {level : Nat}
    (coarse : spacing magnitude.units * 5 ^ places < 4 * 10 ^ (level + 1)) :
    (magnitude.shortestFrom tie level).digits ≤ 40 * 1 <<< 53 := by
  induction level with
  | zero =>
    have fine : 5 ^ 3 ≤ 5 ^ places := Nat.pow_le_pow_right (by decide) (by rw [places]; decide)
    have least := Nat.mul_le_mul (spacing_pos magnitude.units) fine
    omega
  | succ level ih =>
    rw [shortestFrom]
    cases found : magnitude.onGrid? tie (level + 1) with
    | some decimal =>
      have step : 4 * 10 ^ (level + 1 + 1) = 40 * 10 ^ (level + 1) := by ring
      exact Nat.le_trans (digits_of_onGrid? found) (decimalUnits_div_lt (step ▸ coarse))
    | none =>
      apply ih
      by_contra fine
      exact onGrid?_of_fine tie (Nat.not_lt.mp fine) found

/-- The search starts on a grid that is too coarse. -/
theorem digits_shortest_le (tie : Tie) (nonzero : magnitude.units ≠ 0) :
    (magnitude.shortest tie).digits ≤ 40 * 1 <<< 53 := by
  apply digits_shortestFrom_le
  calc
    spacing magnitude.units * 5 ^ places ≤ magnitude.decimalUnits := Nat.mul_le_mul_right _ (spacing_le nonzero)
    _ < 2 ^ (magnitude.decimalUnits.log2 + 1) := Nat.lt_log2_self
    _ < 10 ^ ((magnitude.decimalUnits.log2 + 1) * 30103 / 100000 + 1) := two_pow_lt_ten_pow _
    _ ≤ 10 ^ ((magnitude.decimalUnits.log2 + 1) * 30103 / 100000 + 1 + 1) := Nat.pow_le_pow_right (by decide) (by omega)
    _ ≤ 4 * 10 ^ ((magnitude.decimalUnits.log2 + 1) * 30103 / 100000 + 1 + 1) := Nat.le_mul_of_pos_left _ (by decide)

theorem digits_shortest_ne_zero (tie : Tie) (nonzero : magnitude.units ≠ 0) : (magnitude.shortest tie).digits ≠ 0 := by
  intro none
  have back := readsBack_shortest tie nonzero
  rw [readsBack, none, Binary64.ofDecimal_zero, beq_iff_eq, Binary64.finite.injEq] at back
  exact nonzero (congrArg units back.2).symm

end Magnitude

end FieldLogic.Number
