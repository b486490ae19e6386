import FieldLogic.Json.Number
import FieldLogic.Number.Notation
import FieldLogic.Proofs.DecimalRounding
import FieldLogic.Proofs.NumeralGrammar

/-! Numbers written in JSON and read back. An integer of 64 bits is read as itself. Every layout of a finite number has a
fraction or an exponent, so it is not taken for an integer, and few enough digits that all of them are weighed; and since the
decimal it lays out reads back as the number, so does the text. -/

namespace FieldLogic

namespace Number

theorem head?_digitsOf {value : Nat} (nonzero : value ≠ 0) : (digitsOf value).head? ≠ some '0' := by
  induction value using Nat.strongRecOn with
  | ind value ih =>
    by_cases small : value < 10
    · have every : ∀ digit < 10, digit ≠ 0 → (some (Nat.digitChar digit) : Option Char) ≠ some '0' := by decide
      rw [digitsOf, Nat.toDigits_of_lt_base small]
      exact every value small nonzero
    · rw [digitsOf, Nat.toDigits_of_base_le (by decide) (by omega), List.head?_append_of_ne_nil _ Nat.toDigits_ne_nil]
      exact ih (value / 10) (by omega) (by omega)

theorem ofDigits_append_zeros (digits : List Char) (count : Nat) :
    ofDigits (digits ++ Decimal.zeros count) = ofDigits digits * 10 ^ count := by
  induction count with
  | zero => simp [Decimal.zeros]
  | succ count ih =>
    have last : digitValue '0' = 0 := by decide
    rw [Decimal.zeros, List.replicate_succ', ← List.append_assoc, ofDigits_append_singleton, ← Decimal.zeros, ih, last]
    ring

theorem ofDigits_zeros_append (count : Nat) (digits : List Char) :
    ofDigits (Decimal.zeros count ++ digits) = ofDigits digits := by
  induction count with
  | zero => rfl
  | succ count ih => exact ih

theorem digits_zeros (count : Nat) : Numeral.Digits (Decimal.zeros count) := by
  intro c member
  rw [List.eq_of_mem_replicate member]
  decide

theorem digits_digitsOf (value : Nat) : Numeral.Digits (digitsOf value) := fun _ => isDigit_of_mem_digitsOf

end Number

namespace Json
open Number

variable (manner : Manner) {whole point fraction power rest : List Char} {negative : Bool} {exponent : Int}

/-- The digits before a point, of which a zero in front is the only one. -/
structure Whole (whole : List Char) : Prop where
  run : Numeral.Digits whole
  filled : whole ≠ []
  leading : whole.head? = some '0' → whole = ['0']

theorem scanSomeDigits_append {digits : List Char} (run : Numeral.Digits digits) (filled : digits ≠ [])
    (stops : Numeral.scanDigits rest = ([], rest)) : scanSomeDigits manner (digits ++ rest) = .ok (digits, rest) := by
  obtain ⟨first, others, same⟩ := List.exists_cons_of_ne_nil filled
  rw [scanSomeDigits, Numeral.scanDigits_append run, stops, List.append_nil, same]

theorem scanWhole_append (lead : Whole whole) (stops : Numeral.scanDigits rest = ([], rest)) :
    scanWhole manner (whole ++ rest) = .ok (whole, rest) := by
  by_cases zero : whole.head? = some '0'
  · have none : rest.head?.any Char.isDigit = false := by
      cases rest with
      | nil => rfl
      | cons c rest =>
        by_contra digit
        have first : c.isDigit = true := by simpa using digit
        simp [Numeral.scanDigits, first] at stops
    rw [lead.leading zero, List.singleton_append, scanWhole, none]
    rfl
  · obtain ⟨first, others, same⟩ := List.exists_cons_of_ne_nil lead.filled
    have other : first ≠ '0' := by
      intro equal
      exact zero (by rw [same, equal]; rfl)
    rw [scanWhole]
    · exact scanSomeDigits_append manner lead.run lead.filled stops
    · intro after begins
      rw [same, List.cons_append, List.cons.injEq] at begins
      exact other begins.1

/-- The text of a number up to its end. -/
structure Layout (whole point fraction power : List Char) (exponent : Int) : Prop where
  lead : Whole whole
  places : Numeral.Fraction point fraction
  filled : point ≠ [] → fraction ≠ []
  scales : Numeral.Exponent power exponent

theorem scanPoint_append (places : Numeral.Fraction point fraction) (filled : point ≠ [] → fraction ≠ [])
    (ended : Numeral.Ended rest) :
    scanPoint manner (point ++ rest) = .ok (if point.isEmpty then none else some fraction, rest) := by
  cases places with
  | absent =>
    rw [List.nil_append, scanPoint]
    · rfl
    · intro after begins
      subst begins
      exact (ended '.' rfl).2 rfl
  | point run =>
    rw [List.cons_append, scanPoint, scanSomeDigits_append manner run (filled (List.cons_ne_nil _ _)) ended.scanDigits]
    rfl

theorem scanPower_append (scales : Numeral.Exponent power exponent) (apart : Numeral.Apart rest) :
    scanPower manner (power ++ rest) = .ok (if power.isEmpty then none else some exponent, rest) := by
  cases scales with
  | absent =>
    cases rest with
    | nil => rfl
    | cons c rest =>
      obtain ⟨_, _, lower, upper⟩ := apart c rfl
      exact if_neg (not_or.mpr ⟨lower, upper⟩)
  | @power mark sign digits negative letter signs run filled =>
    have unsigned := Numeral.scanSign_append signs (run.unsigned filled rest)
    rw [List.cons_append, List.append_assoc, scanPower, if_pos letter, unsigned]
    simp only [scanSomeDigits_append manner run filled apart.ended.scanDigits]
    rfl

theorem scanWritten_signed {text : List Char} (unsigned : ∀ more, text ≠ '-' :: more) (negative : Bool) :
    scanWritten manner (Binary64.signCharacters negative ++ text) =
      scanWhole manner text >>= fun whole => scanPoint manner whole.2 >>= fun point =>
        scanPower manner point.2 >>= fun power =>
          pure (⟨negative, whole.1, point.1.getD [], power.1.getD 0, point.1.isNone && power.1.isNone⟩, power.2) := by
  cases negative with
  | true => rfl
  | false =>
    rw [Binary64.signCharacters, if_neg (by decide), List.nil_append, scanWritten]
    exact unsigned

/-- A layout is read up to where nothing follows that a number could go on with. -/
theorem scanWritten_append (layout : Layout whole point fraction power exponent) (negative : Bool)
    (apart : Numeral.Apart rest) :
    scanWritten manner (Binary64.signCharacters negative ++ (whole ++ (point ++ (power ++ rest)))) =
      .ok (⟨negative, whole, fraction, exponent, point.isEmpty && power.isEmpty⟩, rest) := by
  obtain ⟨lead, places, filled, scales⟩ := layout
  have ended : Numeral.Ended (power ++ rest) := by
    cases scales with
    | absent => exact apart.ended
    | power letter => exact Numeral.ended_mark letter _
  have stops : Numeral.scanDigits (point ++ (power ++ rest)) = ([], point ++ (power ++ rest)) := by
    cases places with
    | absent => exact ended.scanDigits
    | point => exact Numeral.scanDigits_point _
  have unsigned : ∀ more, whole ++ (point ++ (power ++ rest)) ≠ '-' :: more := by
    intro more begins
    have first := lead.run.unsigned lead.filled (point ++ (power ++ rest))
    rw [begins] at first
    exact (first '-' rfl).2 rfl
  have fractional : (if point.isEmpty then none else some fraction).getD [] = fraction := by
    cases places <;> rfl
  have scaled : (if power.isEmpty then none else some exponent).getD 0 = exponent := by
    cases scales <;> rfl
  have integral : ((if point.isEmpty then none else some fraction).isNone &&
      (if power.isEmpty then none else some exponent).isNone) = (point.isEmpty && power.isEmpty) := by
    cases point.isEmpty <;> cases power.isEmpty <;> rfl
  rw [scanWritten_signed manner unsigned]
  simp only [scanWhole_append manner lead stops, scanPoint_append manner places filled ended,
    scanPower_append manner scales apart, bind, Except.bind, fractional, scaled, integral]
  rfl

theorem scanNumber_append (layout : Layout whole point fraction power exponent) (apart : Numeral.Apart rest)
    {document : Document}
    (stands : Written.document? ⟨negative, whole, fraction, exponent, point.isEmpty && power.isEmpty⟩ = some document) :
    scanNumber manner (Binary64.signCharacters negative ++ (whole ++ (point ++ (power ++ rest)))) =
      .ok (document, rest) := by
  rw [scanNumber, scanWritten_append manner layout negative apart]
  simp only [stands]

/-! Integers -/

theorem whole_digitsOf (value : Nat) : Whole (digitsOf value) where
  run := digits_digitsOf value
  filled := digitsOf_ne_nil value
  leading := by
    intro zero
    by_cases none : value = 0
    · subst none
      rfl
    · exact absurd zero (head?_digitsOf none)

theorem integerCharacters_eq (value : Int) :
    integerCharacters value = Binary64.signCharacters (decide (value < 0)) ++ digitsOf value.natAbs := by
  rw [integerCharacters, Binary64.signCharacters]
  split
  next negative => simp [negative]
  next nonneg => simp [nonneg]

theorem signed_natAbs (value : Int) : signed (decide (value < 0)) value.natAbs = value := by
  rcases Int.lt_or_le value 0 with negative | nonneg
  · rw [decide_eq_true negative, signed, if_pos rfl]
    omega
  · rw [decide_eq_false (Int.not_lt.mpr nonneg), signed, if_neg (by decide)]
    omega

theorem scanNumber_integer {value : Int} (lower : -(1 <<< 63) ≤ value) (upper : value < 1 <<< 64)
    (apart : Numeral.Apart rest) :
    scanNumber manner (integerCharacters value ++ rest) = .ok (.integer value, rest) := by
  have layout : Layout (digitsOf value.natAbs) [] [] [] 0 :=
    ⟨whole_digitsOf _, .absent, fun filled => absurd rfl filled, .absent⟩
  have fits : if decide (value < 0) = true then 0 < value.natAbs ∧ value.natAbs ≤ 1 <<< 63
      else value.natAbs < 1 <<< 64 := by
    split
    next negative =>
      have below := of_decide_eq_true negative
      omega
    next nonneg =>
      have above := Int.not_lt.mp (mt decide_eq_true nonneg)
      omega
  have stands : Written.document? ⟨decide (value < 0), digitsOf value.natAbs, [], 0, true⟩ = some (.integer value) := by
    simp only [Written.document?, ofDigits_digitsOf]
    rw [if_pos ⟨trivial, fits⟩, signed_natAbs]
  rw [integerCharacters_eq, List.append_assoc]
  exact scanNumber_append manner layout apart stands

/-! Finite numbers -/

/-- A text that a decimal may be written as: it has a fraction or an exponent, few enough digits, and stands for the same
number, whatever its sign. -/
inductive LaysOut (decimal : Decimal) : List Char → Prop where
  | intro {whole point fraction power : List Char} {exponent : Int} (layout : Layout whole point fraction power exponent)
      (parted : (point.isEmpty && power.isEmpty) = false) (short : whole.length + fraction.length ≤ weighed)
      (same : ∀ negative, Binary64.ofDecimal negative (ofDigits (whole ++ fraction)) (exponent - fraction.length) =
        Binary64.ofDecimal negative decimal.digits decimal.exponent) :
      LaysOut decimal (whole ++ (point ++ power))

theorem scanNumber_laysOut {decimal : Decimal} {text : List Char} {magnitude : Magnitude} (laid : LaysOut decimal text)
    (stands : Binary64.ofDecimal negative decimal.digits decimal.exponent = .finite negative magnitude)
    (apart : Numeral.Apart rest) :
    scanNumber manner (Binary64.signCharacters negative ++ (text ++ rest)) =
      .ok (.number (.finite negative magnitude), rest) := by
  obtain ⟨layout, parted, short, same⟩ := laid
  rename_i whole point fraction power exponent
  rw [List.append_assoc, List.append_assoc]
  apply scanNumber_append manner layout apart
  have few : (whole ++ fraction).length ≤ weighed := by
    rw [List.length_append]
    exact short
  have decimal := @Written.decimal_of_length_le ⟨negative, whole, fraction, exponent, false⟩ few
  rw [parted, Written.document?, if_neg (fun integral => Bool.noConfusion integral.1), decimal]
  simp only [same, stands]

section

variable {decimal : Decimal} (nonzero : decimal.digits ≠ 0) (short : (digitsOf decimal.digits).length ≤ 18)

theorem Whole.single {c : Char} (digit : c.isDigit = true) : Whole [c] where
  run := by simpa [Numeral.Digits] using digit
  filled := List.cons_ne_nil _ _
  leading zero := by rw [Option.some.inj zero]

theorem Whole.of_head (run : Numeral.Digits whole) (filled : whole ≠ []) (other : whole.head? ≠ some '0') : Whole whole :=
  ⟨run, filled, fun zero => absurd zero other⟩

theorem Layout.fractional (lead : Whole whole) (run : Numeral.Digits fraction) (filled : fraction ≠ []) :
    Layout whole ('.' :: fraction) fraction [] 0 :=
  ⟨lead, .point run, fun _ => filled, .absent⟩

/-- A power of ten is written with its sign, also if that is a plus. -/
theorem exponent_written (value : Int) :
    Numeral.Exponent ('e' :: (if value < 0 then '-' else '+') :: digitsOf value.natAbs) value := by
  have run := digits_digitsOf value.natAbs
  have filled := digitsOf_ne_nil value.natAbs
  split
  next below =>
    have scales := Numeral.Exponent.power (.inl rfl) .minus run filled
    rw [ofDigits_digitsOf, signed, if_pos rfl, Int.ofNat_natAbs_of_nonpos (Int.le_of_lt below), Int.neg_neg] at scales
    exact scales
  next nonneg =>
    have scales := Numeral.Exponent.power (.inl rfl) .plus run filled
    rw [ofDigits_digitsOf, signed, if_neg (by decide), Int.natAbs_of_nonneg (Int.not_lt.mp nonneg)] at scales
    exact scales

include nonzero in
/-- A whole number is written with its zeros and one more behind the point. -/
theorem laysOut_whole (integral : 0 ≤ decimal.exponent) (large : decimal.leadingExponent < 16) :
    LaysOut decimal (decimal.positional ++ ['.', '0']) := by
  obtain ⟨count, exact⟩ := Int.eq_ofNat_of_zero_le integral
  have places : decimal.exponent.toNat = count := by omega
  have lead : Whole (digitsOf decimal.digits ++ Decimal.zeros count) := by
    apply Whole.of_head
    · exact (digits_digitsOf _).append (digits_zeros count)
    · exact List.append_ne_nil_of_left_ne_nil (digitsOf_ne_nil _) _
    · rw [List.head?_append_of_ne_nil _ (digitsOf_ne_nil _)]
      exact head?_digitsOf nonzero
  have layout := Layout.fractional lead (digits_zeros 1) (List.cons_ne_nil _ _)
  have length : (digitsOf decimal.digits ++ Decimal.zeros count).length + (Decimal.zeros 1).length ≤ weighed := by
    rw [Decimal.leadingExponent] at large
    simp only [List.length_append, Decimal.zeros, List.length_replicate, weighed]
    omega
  have value : ofDigits (digitsOf decimal.digits ++ Decimal.zeros count ++ Decimal.zeros 1) =
      decimal.digits * 10 ^ (count + 1) := by
    rw [ofDigits_append_zeros, ofDigits_append_zeros, ofDigits_digitsOf, Nat.mul_assoc, ← Nat.pow_add]
  have scale : (0 : Int) - (Decimal.zeros 1).length = decimal.exponent - (count + 1 : Nat) := by
    rw [Decimal.zeros, List.length_replicate]
    omega
  have same (negative : Bool) : Binary64.ofDecimal negative
      (ofDigits (digitsOf decimal.digits ++ Decimal.zeros count ++ Decimal.zeros 1)) (0 - (Decimal.zeros 1).length) =
        Binary64.ofDecimal negative decimal.digits decimal.exponent := by
    rw [value, scale, Binary64.ofDecimal_zeros]
  rw [Decimal.positional, if_pos integral, places]
  exact .intro layout rfl length same

theorem LaysOut.of_value (layout : Layout whole point fraction power exponent)
    (parted : (point.isEmpty && power.isEmpty) = false) (few : whole.length + fraction.length ≤ weighed)
    (value : ofDigits (whole ++ fraction) = decimal.digits) (scale : exponent - fraction.length = decimal.exponent) :
    LaysOut decimal (whole ++ (point ++ power)) :=
  .intro layout parted few fun negative => by rw [value, scale]

include nonzero short in
theorem laysOut_among {front back : List Char} (parts : front ++ back = digitsOf decimal.digits) (begun : front ≠ [])
    (filled : back ≠ []) (scale : 0 - (back.length : Int) = decimal.exponent) :
    LaysOut decimal (front ++ '.' :: back) := by
  have run : Numeral.Digits (front ++ back) := parts ▸ digits_digitsOf decimal.digits
  have length := congrArg List.length parts
  rw [List.length_append] at length
  have lead : Whole front := by
    apply Whole.of_head
    · exact fun c member => run c (List.mem_append_left back member)
    · exact begun
    · rw [← List.head?_append_of_ne_nil _ begun, parts]
      exact head?_digitsOf nonzero
  have layout := Layout.fractional lead (fun c member => run c (List.mem_append_right front member)) filled
  have value : ofDigits (front ++ back) = decimal.digits := (congrArg ofDigits parts).trans (ofDigits_digitsOf _)
  have laid := LaysOut.of_value layout rfl (by rw [weighed]; omega) value scale
  rw [List.append_nil] at laid
  exact laid

theorem laysOut_before {count : Nat} (few : count + (digitsOf decimal.digits).length < weighed)
    (scale : 0 - ((count + (digitsOf decimal.digits).length : Nat) : Int) = decimal.exponent) :
    LaysOut decimal ('0' :: '.' :: (Decimal.zeros count ++ digitsOf decimal.digits)) := by
  have run := (digits_zeros count).append (digits_digitsOf decimal.digits)
  have filled := List.append_ne_nil_of_right_ne_nil (Decimal.zeros count) (digitsOf_ne_nil decimal.digits)
  have length : (Decimal.zeros count ++ digitsOf decimal.digits).length = count + (digitsOf decimal.digits).length := by
    rw [List.length_append, Decimal.zeros, List.length_replicate]
  have layout := Layout.fractional (Whole.single (show '0'.isDigit = true by decide)) run filled
  have value : ofDigits (['0'] ++ (Decimal.zeros count ++ digitsOf decimal.digits)) = decimal.digits := by
    rw [show ['0'] = Decimal.zeros 1 from rfl, ofDigits_zeros_append, ofDigits_zeros_append, ofDigits_digitsOf]
  have laid := LaysOut.of_value layout rfl (by rw [length, List.length_singleton]; omega) value (by rw [length, scale])
  rw [List.append_nil] at laid
  exact laid

include nonzero short in
theorem laysOut_fraction (fractional : ¬0 ≤ decimal.exponent) (small : -5 ≤ decimal.leadingExponent) :
    LaysOut decimal decimal.positional := by
  obtain ⟨places, exact⟩ := Int.eq_ofNat_of_zero_le (show 0 ≤ -decimal.exponent by omega)
  have count : (-decimal.exponent).toNat = places := by omega
  rw [Decimal.leadingExponent] at small
  rw [Decimal.positional, if_neg fractional, count]
  simp only
  split
  next inside =>
    have before := List.length_take_of_le (Nat.sub_le (digitsOf decimal.digits).length places)
    have behind := @List.length_drop _ ((digitsOf decimal.digits).length - places) (digitsOf decimal.digits)
    apply laysOut_among nonzero short (List.take_append_drop ..)
    · exact List.ne_nil_of_length_pos (by omega)
    · exact List.ne_nil_of_length_pos (by omega)
    · omega
  next outside => exact laysOut_before (by rw [weighed]; omega) (by omega)

include short in
/-- In scientific notation one digit stands before the point, and the power of ten is the power of this digit. -/
theorem laysOut_scientific : LaysOut decimal decimal.scientific := by
  have run := digits_digitsOf decimal.digits
  have value := ofDigits_digitsOf decimal.digits
  have nonempty := digitsOf_ne_nil decimal.digits
  have leading : decimal.leadingExponent = (digitsOf decimal.digits).length - 1 + decimal.exponent := rfl
  have scales := exponent_written decimal.leadingExponent
  rw [Decimal.scientific]
  generalize digitsOf decimal.digits = digits at *
  split
  next => exact absurd rfl nonempty
  next single =>
    have lead := Whole.single (run single (List.mem_singleton_self _))
    have layout : Layout [single] [] [] _ _ := ⟨lead, .absent, fun point => absurd rfl point, scales⟩
    have scale : decimal.leadingExponent - ([] : List Char).length = decimal.exponent := by
      rw [List.length_singleton] at leading
      rw [List.length_nil]
      omega
    have few : [single].length + ([] : List Char).length ≤ weighed := by
      rw [List.length_singleton, List.length_nil]
      decide
    exact .of_value layout rfl few value scale
  next first others filled =>
    have lead := Whole.single (run first (List.mem_cons_self ..))
    have places : Numeral.Digits others := fun c member => run c (List.mem_cons_of_mem _ member)
    have layout : Layout [first] ('.' :: others) others _ _ := ⟨lead, .point places, fun _ => filled, scales⟩
    rw [List.length_cons] at leading short
    exact .of_value layout rfl (by rw [weighed, List.length_singleton]; omega) value (by omega)

include nonzero short in
theorem laysOut_jsonLayout : LaysOut decimal (Binary64.jsonLayout decimal) := by
  unfold Binary64.jsonLayout
  split
  next within =>
    split
    next integral => exact laysOut_whole nonzero integral within.2
    next fractional => exact laysOut_fraction nonzero short fractional within.1
  next => exact laysOut_scientific short

end

theorem laysOut_zero : LaysOut ⟨0, 0⟩ ['0', '.', '0'] :=
  .intro (.fractional (.single (by decide)) (digits_zeros 1) (List.cons_ne_nil _ _)) rfl (by decide) fun negative =>
    (Binary64.ofDecimal_zero negative _).trans (Binary64.ofDecimal_zero negative 0).symm

theorem length_digitsOf_shortest (tie : Tie) {magnitude : Magnitude} (nonzero : magnitude.units ≠ 0) :
    (digitsOf (magnitude.shortest tie).digits).length ≤ 18 := by
  apply (Nat.length_toDigits_le_iff (by decide) (by decide)).mpr
  exact Nat.lt_of_le_of_lt (Magnitude.digits_shortest_le tie nonzero) (by decide)

/-- The text of a finite number is a sign or none and the layout of a decimal that is rounded to its magnitude. -/
theorem finite_laysOut (magnitude : Magnitude) :
    ∃ decimal text, LaysOut decimal text ∧
      (∀ negative, Binary64.ofDecimal negative decimal.digits decimal.exponent = .finite negative magnitude) ∧
      ∀ negative, (Binary64.finite negative magnitude).jsonCharacters = Binary64.signCharacters negative ++ text := by
  by_cases zero : magnitude.units = 0
  · have same : magnitude = .zero := Magnitude.eq_of_units zero
    refine ⟨_, _, laysOut_zero, ?_, ?_⟩
    · intro negative
      rw [same]
      exact Binary64.ofDecimal_zero negative 0
    · intro negative
      rw [Binary64.jsonCharacters, if_pos zero]
  · have laid := laysOut_jsonLayout (Magnitude.digits_shortest_ne_zero .even zero) (length_digitsOf_shortest .even zero)
    have back := beq_iff_eq.mp (Magnitude.readsBack_shortest .even zero)
    refine ⟨_, _, laid, fun negative => Binary64.ofDecimal_of_unsigned negative back, ?_⟩
    intro negative
    rw [Binary64.jsonCharacters, if_neg zero]

/-- Every finite number is read back from its text, up to what cannot belong to a number. -/
theorem scanNumber_finite (negative : Bool) (magnitude : Magnitude) (apart : Numeral.Apart rest) :
    scanNumber manner ((Binary64.finite negative magnitude).jsonCharacters ++ rest) =
      .ok (.number (.finite negative magnitude), rest) := by
  obtain ⟨decimal, text, laid, stands, written⟩ := finite_laysOut magnitude
  rw [written, List.append_assoc]
  exact scanNumber_laysOut manner laid (stands negative) apart

def StartsNumber (text : List Char) : Prop := ∃ c after, text = c :: after ∧ (c = '-' ∨ c.isDigit = true)

section

variable {c : Char} (starts : c = '-' ∨ c.isDigit = true)

include starts

theorem starts_ne {letter : Char} (sign : letter ≠ '-') (plain : letter.isDigit = false) : c ≠ letter := by
  rintro rfl
  rcases starts with minus | digit
  · exact sign minus
  · exact Bool.noConfusion (plain.symm.trans digit)

theorem isSpace_eq_false_of_starts : Text.isSpace c = false := by
  rw [← Bool.not_eq_true]
  intro space
  simp only [Text.isSpace, Bool.or_eq_true, beq_iff_eq] at space
  rcases space with ((same | same) | same) | same
  all_goals exact starts_ne starts (by decide) (by decide) same

end

theorem StartsNumber.append {text : List Char} (starts : StartsNumber text) (rest : List Char) :
    StartsNumber (text ++ rest) := by
  obtain ⟨c, after, rfl, first⟩ := starts
  exact ⟨c, after ++ rest, rfl, first⟩

theorem startsNumber_whole (run : Numeral.Digits whole) (filled : whole ≠ []) (negative : Bool) :
    StartsNumber (Binary64.signCharacters negative ++ whole) := by
  obtain ⟨first, others, same⟩ := List.exists_cons_of_ne_nil filled
  cases negative with
  | true => exact ⟨'-', _, rfl, .inl rfl⟩
  | false => exact ⟨first, others, same, .inr (run first (same ▸ List.mem_cons_self ..))⟩

theorem startsNumber_integer (value : Int) : StartsNumber (integerCharacters value) := by
  rw [integerCharacters_eq]
  exact startsNumber_whole (digits_digitsOf _) (digitsOf_ne_nil _) _

theorem startsNumber_finite (negative : Bool) (magnitude : Magnitude) :
    StartsNumber (Binary64.finite negative magnitude).jsonCharacters := by
  obtain ⟨decimal, text, laid, _, written⟩ := finite_laysOut magnitude
  rw [written]
  obtain ⟨layout⟩ := laid
  rw [← List.append_assoc]
  exact (startsNumber_whole layout.lead.run layout.lead.filled negative).append _

end Json

end FieldLogic
