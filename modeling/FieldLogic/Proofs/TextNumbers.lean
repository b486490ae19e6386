import FieldLogic.Proofs.NumeralGrammar

/-! Numbers in texts. Two readers look for them: one takes a text as a number if all of it but the blanks around it is a
numeral, the other takes the longest numeral that the text begins with. Where the first finds a number the second finds
the same, and neither reads the names of numbers. -/

namespace FieldLogic
open Number Text

namespace Number.Numeral

def isNumeralCharacter (c : Char) : Bool := c.isDigit || ['.', 'e', 'E', '+', '-'].contains c

/-- What is tried as a number: behind a sign or none a digit or a point comes first, and only digits, points, exponent
marks and signs follow. -/
def looksNumeric (text : List Char) : Bool :=
  let unsigned := (scanSign text).2
  unsigned.head?.any (fun c => c.isDigit || c == '.') && unsigned.all isNumeralCharacter

variable {text sign whole point fraction power blanks : List Char} {negative : Bool} {exponent : Int} {numeral : Numeral}

theorem Digits.characters (run : Digits whole) : whole.all isNumeralCharacter = true := by
  apply List.all_eq_true.mpr
  intro c member
  simp [isNumeralCharacter, run c member]

theorem Fraction.characters (places : Fraction point fraction) : point.all isNumeralCharacter = true := by
  cases places with
  | absent => rfl
  | point run => simp [run.characters, isNumeralCharacter]

theorem Sign.characters (signs : Sign sign negative) : sign.all isNumeralCharacter = true := by
  cases signs <;> decide

theorem Exponent.characters (scales : Exponent power exponent) : power.all isNumeralCharacter = true := by
  cases scales with
  | absent => rfl
  | power letter signs run _ =>
    rw [List.all_cons, List.all_append, signs.characters, run.characters]
    rcases letter with rfl | rfl <;> decide

theorem mantissa_head (run : Digits whole) (places : Fraction point fraction) (filled : whole ≠ [] ∨ fraction ≠ []) :
    (whole ++ (point ++ power)).head?.any (fun c => c.isDigit || c == '.') = true := by
  cases whole with
  | nil =>
    cases places with
    | absent => simp at filled
    | point => simp
  | cons c rest => simp [run c (List.mem_cons_self ..)]

theorem Written.looksNumeric (written : Written text numeral) : looksNumeric text = true := by
  obtain ⟨signs, run, places, filled, scales⟩ := written
  simp only [Numeral.looksNumeric, scanSign_append signs (mantissa_unsigned run places filled _), Bool.and_eq_true]
  refine ⟨mantissa_head run places filled, ?_⟩
  rw [List.all_append, List.all_append, run.characters, places.characters, scales.characters]
  rfl

theorem toLower_of_lt {c : Char} (small : c.toNat < 65) : c.toLower = c := by
  apply dif_neg
  rintro ⟨capital, _⟩
  exact Nat.not_lt.mpr (UInt32.le_iff_toNat_le.mp capital) small

/-- No name of a number begins with a digit or a point. -/
theorem ofText?_of_looksNumeric {text : String} (looks : Numeral.looksNumeric text.toList = true) :
    Binary64.ofText? text = (ofCharacters? text.toList).map value := by
  have first : ∃ c rest, (scanSign text.toList).2 = c :: rest ∧ c.toLower.toNat < 65 := by
    obtain ⟨begins, _⟩ := Bool.and_eq_true_iff.mp looks
    obtain ⟨c, head, start⟩ := Option.any_eq_true .. |>.mp begins
    obtain ⟨rest, whole⟩ := List.head?_eq_some_iff.mp head
    have small : c.toNat < 65 := by
      rcases Bool.or_eq_true_iff.mp start with digit | point
      · have bounds := digit_bounds digit
        omega
      · rw [beq_iff_eq.mp point]
        decide
    exact ⟨c, rest, whole, by rw [toLower_of_lt small]; exact small⟩
  obtain ⟨c, rest, name, small⟩ := first
  have other (letter : Char) (large : 65 ≤ letter.toNat) (letters : List Char) :
      String.ofList ((scanSign text.toList).2.map Char.toLower) ≠ String.ofList (letter :: letters) := by
    intro same
    rw [name, List.map_cons] at same
    obtain ⟨rfl, _⟩ := List.cons_eq_cons.mp (String.ofList_injective same)
    exact Nat.not_lt.mpr large small
  rw [Binary64.ofText?]
  cases ofCharacters? text.toList with
  | some numeral => rfl
  | none =>
    simp only [Option.map_none]
    split
    next same => exact absurd same (other 'n' (by decide) ['a', 'n'])
    next same => exact absurd same (other 'i' (by decide) ['n', 'f'])
    next same => exact absurd same (other 'i' (by decide) ['n', 'f', 'i', 'n', 'i', 't', 'y'])
    next => rfl

theorem ofText?_of_written (written : Written text numeral) :
    Binary64.ofText? (String.ofList text) = some numeral.value := by
  rw [Binary64.ofText?, String.toList_ofList, ofCharacters?_eq_some_iff.mpr written]

theorem apart_blanks (blank : ∀ c ∈ blanks, isBlank c = true) : Apart blanks := by
  intro c first
  have space := blank c (List.mem_of_mem_head? first)
  refine ⟨?_, ?_, ?_, ?_⟩
  · rw [← Bool.not_eq_true]
    intro digit
    rw [isBlank_eq_false_of_isDigit digit] at space
    cases space
  all_goals
    rintro rfl
    revert space
    decide

end Number.Numeral

namespace Value
open Numeral

variable {text : String} {numeral : Numeral}

theorem numeralOf?_eq_some_iff : numeralOf? text = some numeral ↔ Written (trim text.toList) numeral :=
  ofCharacters?_eq_some_iff

theorem isNumeric_iff : (string text).isNumeric = true ↔ IsNumeral (trim text.toList) := by
  rw [isNumeric, Option.isSome_iff_exists]
  exact exists_congr fun _ => numeralOf?_eq_some_iff

theorem asNumber?_of_written (written : Written (trim text.toList) numeral) :
    (string text).asNumber? = some numeral.value := by
  rw [asNumber?, numeralOf?_eq_some_iff.mpr written]
  rfl

/-- A numeral with blanks around it is the one that the text begins with. -/
theorem leadingNumeral?_of_written (written : Written (trim text.toList) numeral) :
    leadingNumeral? text = some numeral := by
  obtain ⟨blanks, split, blank⟩ := trimEnd_append_blanks (trimStart text.toList)
  rw [leadingNumeral?, ← split, ← trim, scan_append written (apart_blanks blank)]
  rfl

theorem toInt_of_leading (leading : leadingNumeral? text = some numeral) :
    (string text).toInt = numeral.value.truncate := by
  rw [toInt, leading]

theorem toInt_of_none (none : leadingNumeral? text = .none) : (string text).toInt = 0 := by
  rw [toInt, none]

theorem asNumber?_eq (text : String) :
    (string text).asNumber? =
      if looksNumeric (trim text.toList) then Binary64.ofText? (String.ofList (trim text.toList)) else none := by
  split
  next looks =>
    rw [ofText?_of_looksNumeric (by rw [String.toList_ofList]; exact looks), String.toList_ofList]
    rfl
  next other =>
    rw [asNumber?, Option.map_eq_none_iff, Option.eq_none_iff_forall_ne_some]
    intro numeral found
    exact other (numeralOf?_eq_some_iff.mp found).looksNumeric

/-- A text is numeric exactly if it is a numeral with blanks around it, which is what its characters and a reading of
names as well would let through; its number is then that of the numeral, and its whole number is cut off from it. The whole
number of any text is cut off from the longest numeral that it begins with behind blanks, which is always read, and is zero
if it begins with none. -/
theorem text_read_by_grammar (text : String) :
    ((string text).isNumeric = true ↔ IsNumeral (trim text.toList)) ∧
    (∀ numeral, Written (trim text.toList) numeral →
      (string text).asNumber? = some numeral.value ∧ (string text).toInt = numeral.value.truncate) ∧
    ((string text).asNumber? =
      if looksNumeric (trim text.toList) then Binary64.ofText? (String.ofList (trim text.toList)) else none) ∧
    ((∃ front numeral, Longest (trimStart text.toList) front ∧ Written front numeral ∧
        Binary64.ofText? (String.ofList front) = some numeral.value ∧ (string text).toInt = numeral.value.truncate) ∨
      ((∀ front, front <+: trimStart text.toList → ¬IsNumeral front) ∧ (string text).toInt = 0)) := by
  refine ⟨isNumeric_iff, ?_, asNumber?_eq text, ?_⟩
  · intro numeral written
    exact ⟨asNumber?_of_written written, toInt_of_leading (leadingNumeral?_of_written written)⟩
  · cases read : scan (trimStart text.toList) with
    | none => exact .inr ⟨scan_eq_none_iff.mp read, toInt_of_none (by rw [leadingNumeral?, read]; rfl)⟩
    | some found =>
      obtain ⟨numeral, rest⟩ := found
      obtain ⟨front, longest, written, _⟩ := scan_longest read
      have leading : leadingNumeral? text = some numeral := by rw [leadingNumeral?, read]; rfl
      exact .inl ⟨front, numeral, longest, written, ofText?_of_written written, toInt_of_leading leading⟩

/-- A point without digits behind it in front of an exponent, between blanks of two kinds. -/
theorem text_read_by_grammar_bare_point :
    Written (trim "\u00a0-1.e2 ".toList) ⟨true, 1, 2⟩ ∧
      (string "\u00a0-1.e2 ").asNumber? = some (Numeral.value ⟨true, 1, 2⟩) ∧ (string "\u00a0-1.e2 ").toInt = -100 := by
  have written : Written (trim "\u00a0-1.e2 ".toList) ⟨true, 1, 2⟩ := numeralOf?_eq_some_iff.mp (by decide +kernel)
  obtain ⟨number, whole⟩ := (text_read_by_grammar "\u00a0-1.e2 ").2.1 ⟨true, 1, 2⟩ written
  have rounded : (Numeral.value ⟨true, 1, 2⟩).truncate = -100 := by decide +kernel
  exact ⟨written, number, whole.trans rounded⟩

example : ["1.e5", "7e+", "+-5", "1-1", ".e5"].map (fun text => (string text).toInt) = [100000, 7, 0, 1, 0] := by
  decide +kernel

end Value

end FieldLogic
