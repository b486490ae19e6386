import FieldLogic.Proofs.IntegerOperand

/-! The grammar of numerals: a sign or none, digits before a point, after it or both, and an exponent or none. A scan reads
the longest numeral that a text begins with and the number it stands for, and it finds none exactly if there is none, also
where a sign, a point or an exponent mark is left without digits. -/

namespace FieldLogic.Number.Numeral

/-- A sign or none, and whether it is a minus. -/
inductive Sign : List Char → Bool → Prop where
  | absent : Sign [] false
  | plus : Sign ['+'] false
  | minus : Sign ['-'] true

def Digits (text : List Char) : Prop := ∀ c ∈ text, c.isDigit = true

/-- A point with the digits after it, or neither. -/
inductive Fraction : List Char → List Char → Prop where
  | absent : Fraction [] []
  | point {digits : List Char} (run : Digits digits) : Fraction ('.' :: digits) digits

/-- A mark with a sign or none and digits, or nothing. -/
inductive Exponent : List Char → Int → Prop where
  | absent : Exponent [] 0
  | power {mark : Char} {sign digits : List Char} {negative : Bool} (letter : mark = 'e' ∨ mark = 'E')
      (signs : Sign sign negative) (run : Digits digits) (filled : digits ≠ []) :
      Exponent (mark :: (sign ++ digits)) (signed negative (ofDigits digits))

/-- A numeral and the number it stands for. -/
inductive Written : List Char → Numeral → Prop where
  | intro {sign whole point fraction power : List Char} {negative : Bool} {exponent : Int} (signs : Sign sign negative)
      (run : Digits whole) (places : Fraction point fraction) (filled : whole ≠ [] ∨ fraction ≠ [])
      (scales : Exponent power exponent) :
      Written (sign ++ (whole ++ (point ++ power)))
        ⟨negative, ofDigits (whole ++ fraction), exponent - fraction.length⟩

def IsNumeral (text : List Char) : Prop := ∃ numeral, Written text numeral

structure Longest (text front : List Char) : Prop where
  begins : front <+: text
  numeral : IsNumeral front
  most : ∀ other, other <+: text → IsNumeral other → other.length ≤ front.length

variable {text sign whole digits point fraction power more rest front after : List Char} {negative : Bool}
  {exponent : Int} {numeral : Numeral}

theorem Digits.append (first : Digits whole) (second : Digits digits) : Digits (whole ++ digits) := by
  intro c member
  rcases List.mem_append.mp member with before | behind
  · exact first c before
  · exact second c behind

theorem scanDigits_append (run : Digits whole) (more : List Char) :
    scanDigits (whole ++ more) = (whole ++ (scanDigits more).1, (scanDigits more).2) := by
  rw [scanDigits, List.takeWhile_append_of_pos run, List.dropWhile_append_of_pos run]
  rfl

theorem scanDigits_point (rest : List Char) : scanDigits ('.' :: rest) = ([], '.' :: rest) := by simp [scanDigits]

theorem scanDigits_sound (read : scanDigits text = (digits, rest)) : Digits digits ∧ text = digits ++ rest := by
  cases read
  exact ⟨fun c member => List.all_eq_true.mp List.all_takeWhile c member, List.takeWhile_append_dropWhile.symm⟩

theorem scanDigits_length (text : List Char) : (scanDigits text).2.length ≤ text.length :=
  (List.dropWhile_suffix _).length_le

theorem scanSign_sound : scanSign text = (negative, rest) → ∃ sign, Sign sign negative ∧ text = sign ++ rest := by
  fun_cases scanSign text with
  | case1 =>
    rintro ⟨⟩
    exact ⟨['-'], .minus, rfl⟩
  | case2 =>
    rintro ⟨⟩
    exact ⟨['+'], .plus, rfl⟩
  | case3 =>
    rintro ⟨⟩
    exact ⟨[], .absent, rfl⟩

theorem scanFraction_sound :
    scanFraction text = (digits, rest) → ∃ point, Fraction point digits ∧ text = point ++ rest := by
  fun_cases scanFraction text with
  | case1 =>
    intro read
    obtain ⟨run, rfl⟩ := scanDigits_sound read
    exact ⟨'.' :: digits, .point run, rfl⟩
  | case2 =>
    rintro ⟨⟩
    exact ⟨[], .absent, rfl⟩

theorem scanExponent_sound :
    scanExponent text = (exponent, rest) → ∃ power, Exponent power exponent ∧ text = power ++ rest := by
  fun_cases scanExponent text with
  | case1 | case4 =>
    rintro ⟨⟩
    exact ⟨[], .absent, rfl⟩
  | case2 =>
    rintro ⟨⟩
    exact ⟨[], .absent, rfl⟩
  | case3 mark _ letter negative unsigned signed digits after read filled =>
    rintro ⟨⟩
    obtain ⟨sign, signs, rfl⟩ := scanSign_sound signed
    obtain ⟨run, rfl⟩ := scanDigits_sound read
    exact ⟨mark :: (sign ++ digits), .power letter signs run (by simpa using filled), by simp⟩

theorem scanFraction_length (text : List Char) : (scanFraction text).2.length ≤ text.length := by
  fun_cases scanFraction text with
  | case1 rest => exact Nat.le_succ_of_le (scanDigits_length rest)
  | case2 => exact Nat.le_refl _

theorem scanExponent_length (text : List Char) : (scanExponent text).2.length ≤ text.length := by
  obtain ⟨power, _, split⟩ := scanExponent_sound (show scanExponent text = (_, (scanExponent text).2) from rfl)
  have lengths := congrArg List.length split
  rw [List.length_append] at lengths
  omega

theorem scan_sound : scan text = some (numeral, rest) → ∃ front, Written front numeral ∧ text = front ++ rest := by
  fun_cases scan text with
  | case1 => simp
  | case2 negative unsigned signed whole behind before fraction more after filled exponent last read =>
    rintro ⟨⟩
    obtain ⟨sign, signs, rfl⟩ := scanSign_sound signed
    obtain ⟨run, rfl⟩ := scanDigits_sound before
    obtain ⟨point, places, rfl⟩ := scanFraction_sound after
    obtain ⟨power, scales, rfl⟩ := scanExponent_sound read
    exact ⟨_, .intro signs run places (by simpa [← not_and_or] using filled) scales, by simp⟩

/-- Neither a digit nor a point comes next. -/
def Ended (text : List Char) : Prop := ∀ c ∈ text.head?, c.isDigit = false ∧ c ≠ '.'

theorem Ended.scanDigits (ended : Ended text) : scanDigits text = ([], text) := by
  cases text with
  | nil => rfl
  | cons c rest => simp [Numeral.scanDigits, (ended c rfl).1]

theorem Ended.scanFraction (ended : Ended text) : scanFraction text = ([], text) := by
  rw [Numeral.scanFraction]
  rintro rest rfl
  exact (ended '.' rfl).2 rfl

theorem ended_mark {mark : Char} (letter : mark = 'e' ∨ mark = 'E') (rest : List Char) : Ended (mark :: rest) := by
  rintro c ⟨⟩
  rcases letter with rfl | rfl <;> decide

theorem scanSign_append (signs : Sign sign negative) (unsigned : ∀ c ∈ more.head?, c ≠ '+' ∧ c ≠ '-') :
    scanSign (sign ++ more) = (negative, more) := by
  cases signs with
  | absent =>
    rw [List.nil_append, scanSign]
    · rintro rest rfl
      exact (unsigned '-' rfl).2 rfl
    · rintro rest rfl
      exact (unsigned '+' rfl).1 rfl
  | plus => rfl
  | minus => rfl

theorem Digits.unsigned (run : Digits whole) (filled : whole ≠ []) (more : List Char) :
    ∀ c ∈ (whole ++ more).head?, c ≠ '+' ∧ c ≠ '-' := by
  intro c first
  obtain ⟨digit, rest, rfl⟩ := List.exists_cons_of_ne_nil filled
  obtain rfl : digit = c := Option.some.inj first
  have digits := run digit (List.mem_cons_self ..)
  constructor <;> rintro rfl <;> cases digits

theorem mantissa_unsigned (run : Digits whole) (places : Fraction point fraction) (filled : whole ≠ [] ∨ fraction ≠ [])
    (more : List Char) : ∀ c ∈ (whole ++ (point ++ more)).head?, c ≠ '+' ∧ c ≠ '-' := by
  by_cases some : whole = []
  · subst some
    cases places with
    | absent => simp at filled
    | point digits =>
      rintro c ⟨⟩
      decide
  · exact run.unsigned some _

theorem scanExponent_power {mark : Char} (letter : mark = 'e' ∨ mark = 'E') (signs : Sign sign negative)
    (run : Digits digits) (filled : digits ≠ []) (after : List Char) :
    scanExponent (mark :: (sign ++ (digits ++ after))) =
      (signed negative (ofDigits (digits ++ (scanDigits after).1)), (scanDigits after).2) := by
  rw [scanExponent, if_pos letter, scanSign_append signs (run.unsigned filled after)]
  simp [scanDigits_append run, filled]

section

variable (signs : Sign sign negative) (run : Digits whole) (places : Fraction point fraction)
  (filled : whole ≠ [] ∨ fraction ≠ [])

include signs run places filled

/-- Where neither a digit nor a point follows, the digits before and after the point are read as they are written. -/
theorem scan_mantissa (ended : Ended more) :
    scan (sign ++ (whole ++ (point ++ more))) =
      some (⟨negative, ofDigits (whole ++ fraction), (scanExponent more).1 - fraction.length⟩, (scanExponent more).2) := by
  have before : scanDigits (whole ++ (point ++ more)) = (whole, point ++ more) := by
    cases places with
    | absent => simp [scanDigits_append run, ended.scanDigits]
    | point digits => simp [scanDigits_append run, scanDigits_point]
  have behind : scanFraction (point ++ more) = (fraction, more) := by
    cases places with
    | absent => exact ended.scanFraction
    | point digits => simp [scanFraction, scanDigits_append digits, ended.scanDigits]
  have some : ¬(whole.isEmpty && fraction.isEmpty) = true := by simpa [← not_and_or] using filled
  simp only [scan, scanSign_append signs (mantissa_unsigned run places filled more), before, behind, if_neg some]

/-- Whatever follows, no less than the digits before and after the point is read. -/
theorem scan_mantissa_reaches (after : List Char) :
    ∃ numeral rest, scan (sign ++ (whole ++ (point ++ after))) = some (numeral, rest) ∧ rest.length ≤ after.length := by
  have signed := scanSign_append signs (mantissa_unsigned run places filled after)
  have digits := scanDigits_length after
  cases places with
  | absent =>
    have some : ¬((whole ++ (scanDigits after).1).isEmpty &&
        (scanFraction (scanDigits after).2).1.isEmpty) = true := by simp [filled.resolve_right (· rfl)]
    simp only [List.nil_append] at signed
    simp only [scan, signed, List.nil_append, scanDigits_append run, if_neg some]
    have fraction := scanFraction_length (scanDigits after).2
    have exponent := scanExponent_length (scanFraction (scanDigits after).2).2
    exact ⟨_, _, rfl, by omega⟩
  | @point fraction places =>
    have some : ¬(whole.isEmpty && (fraction ++ (scanDigits after).1).isEmpty) = true := by
      rcases filled with left | right
      · simp [left]
      · simp [right]
    simp only [List.cons_append] at signed
    simp only [scan, signed, List.cons_append, scanDigits_append run, scanDigits_point, List.append_nil, scanFraction,
      scanDigits_append places, if_neg some]
    have exponent := scanExponent_length (scanDigits after).2
    exact ⟨_, _, rfl, by omega⟩

end

/-- Nothing that a numeral could go on with comes next. -/
def Apart (text : List Char) : Prop := ∀ c ∈ text.head?, c.isDigit = false ∧ c ≠ '.' ∧ c ≠ 'e' ∧ c ≠ 'E'

theorem Apart.ended (apart : Apart text) : Ended text := fun c first => ⟨(apart c first).1, (apart c first).2.1⟩

theorem Apart.scanExponent (apart : Apart text) : scanExponent text = (0, text) := by
  cases text with
  | nil => rfl
  | cons c rest =>
    obtain ⟨_, _, lower, upper⟩ := apart c rfl
    rw [Numeral.scanExponent, if_neg (not_or.mpr ⟨lower, upper⟩)]

theorem scan_append (written : Written front numeral) (apart : Apart after) :
    scan (front ++ after) = some (numeral, after) := by
  obtain ⟨signs, run, places, filled, scales⟩ := written
  simp only [List.append_assoc]
  cases scales with
  | absent => rw [List.nil_append, scan_mantissa signs run places filled apart.ended, apart.scanExponent]
  | power letter sign digits nonempty =>
    rw [List.cons_append, List.append_assoc, scan_mantissa signs run places filled (ended_mark letter _),
      scanExponent_power letter sign digits nonempty, apart.ended.scanDigits, List.append_nil]

theorem scan_reaches (written : Written front numeral) (after : List Char) :
    ∃ other rest, scan (front ++ after) = some (other, rest) ∧ rest.length ≤ after.length := by
  obtain ⟨signs, run, places, filled, scales⟩ := written
  simp only [List.append_assoc]
  cases scales with
  | absent => exact scan_mantissa_reaches signs run places filled after
  | power letter sign digits nonempty =>
    rw [List.cons_append, List.append_assoc, scan_mantissa signs run places filled (ended_mark letter _),
      scanExponent_power letter sign digits nonempty]
    exact ⟨_, _, rfl, scanDigits_length after⟩

theorem scan_eq_none_iff : scan text = none ↔ ∀ front, front <+: text → ¬IsNumeral front := by
  constructor
  · rintro none front ⟨after, rfl⟩ ⟨numeral, written⟩
    obtain ⟨other, rest, read, _⟩ := scan_reaches written after
    rw [none] at read
    cases read
  · intro none
    apply Option.eq_none_iff_forall_ne_some.mpr
    rintro ⟨numeral, rest⟩ read
    obtain ⟨front, written, rfl⟩ := scan_sound read
    exact none front (List.prefix_append ..) ⟨numeral, written⟩

theorem scan_longest (read : scan text = some (numeral, rest)) :
    ∃ front, Longest text front ∧ Written front numeral ∧ text = front ++ rest := by
  obtain ⟨front, written, rfl⟩ := scan_sound read
  refine ⟨front, ⟨List.prefix_append .., ⟨numeral, written⟩, ?_⟩, written, rfl⟩
  rintro other ⟨after, split⟩ ⟨number, also⟩
  obtain ⟨_, left, again, least⟩ := scan_reaches also after
  rw [split, read] at again
  cases again
  have lengths := congrArg List.length split
  rw [List.length_append, List.length_append] at lengths
  omega

theorem ofCharacters?_eq_some_iff : ofCharacters? text = some numeral ↔ Written text numeral := by
  constructor
  · intro read
    rw [ofCharacters?] at read
    split at read
    next found =>
      cases read
      obtain ⟨front, written, rfl⟩ := scan_sound found
      rw [List.append_nil]
      exact written
    next => cases read
  · intro written
    have read := scan_append written (show Apart [] by rintro c ⟨⟩)
    rw [List.append_nil] at read
    rw [ofCharacters?, read]

end FieldLogic.Number.Numeral
