import FieldLogic.Proofs.IntegerOperand
import Mathlib.Data.List.Basic

/-! Operators that search a text. Coercion comes before the search as it does before every comparison: of two numeric texts the
whole numbers are searched, and the words true and false are looked for as booleans, whose texts are `1` and nothing. Any other
operand is looked for as it stands. -/

namespace FieldLogic
open Number Text

theorem integerText_ne_empty (value : Int) : integerText value ≠ "" := by
  intro empty
  have none : integerCharacters value = [] := by simp [← toList_integerText, empty]
  rw [integerCharacters] at none
  split at none
  · cases none
  · exact digitsOf_ne_nil _ none

namespace Value

theorem textTest_eq {value operand : Value} {whole part : String} (searched : value.asText? = some whole)
    (sought : operand.asText? = some part) (filled : part ≠ "") (test : List Char → List Char → Bool) :
    textTest test value operand = test part.toList whole.toList := by
  simp [textTest, searched, sought, filled]

theorem includes_eq {value : Value} {whole : String} (searched : value.asText? = some whole) (operand : Value) :
    value.includes operand = textTest occurs value operand := by
  cases value with
  | list items => simp [asText?] at searched
  | _ => rfl

end Value

namespace Operator

/-- Between a text and an operand the operators of search hold exactly if a part stands in a whole: at its start, at its end
or anywhere. -/
structure Searches (text operand whole part : String) : Prop where
  start : ∀ operator ∈ [startsWith, startsWithWord],
    operator.holds (.string text) operand = true ↔ part.toList <+: whole.toList
  finish : ∀ operator ∈ [endsWith, endsWithWord],
    operator.holds (.string text) operand = true ↔ part.toList <:+ whole.toList
  anywhere : ∀ operator ∈ [includes, contains],
    operator.holds (.string text) operand = true ↔ part.toList <:+: whole.toList

variable {text operand whole part : String}

theorem Searches.of_sides {sides : Sides} (coerced : ∀ operator : Operator, operator.isRelational = false →
      coerce (.string text) operator operand = sides)
    (searched : sides.value.asText? = some whole) (sought : sides.operand.asText? = some part) (filled : part ≠ "") :
    Searches text operand whole part := by
  have tested := Value.textTest_eq searched sought filled
  have answer (operator : Operator) (equating : operator.isRelational = false) :
      operator.holds (.string text) operand = operator.holdsBetween sides :=
    congrArg operator.holdsBetween (coerced operator equating)
  refine ⟨?_, ?_, ?_⟩
  · intro operator member
    have found : operator.holds (.string text) operand = part.toList.isPrefixOf whole.toList := by
      rcases List.mem_pair.mp member with rfl | rfl
      all_goals exact (answer _ rfl).trans (tested List.isPrefixOf)
    rw [found, List.isPrefixOf_iff_prefix]
  · intro operator member
    have found : operator.holds (.string text) operand = part.toList.isSuffixOf whole.toList := by
      rcases List.mem_pair.mp member with rfl | rfl
      all_goals exact (answer _ rfl).trans (tested List.isSuffixOf)
    rw [found, List.isSuffixOf_iff_suffix]
  · intro operator member
    have found : operator.holds (.string text) operand = occurs part.toList whole.toList := by
      rcases List.mem_pair.mp member with rfl | rfl
      all_goals exact (answer _ rfl).trans ((Value.includes_eq searched _).trans (tested occurs))
    rw [found, occurs_iff]

theorem Searches.of_numeric (bare : unquoted operand = operand) (numeric : (Value.string text).isNumeric = true)
    (also : (Value.string operand).isNumeric = true) :
    Searches text operand (integerText (Value.string text).toInt.toInt) (integerText (Value.string operand).toInt.toInt) := by
  refine .of_sides (fun operator _ => coerce_numeric operator numeric ?_) rfl ?_ (integerText_ne_empty _)
  · rw [bare]
    exact also
  · rw [bare]
    rfl

theorem Searches.of_integers {whole part : Int64} (small : whole.toInt.natAbs < 1 <<< 53) (also : part.toInt.natAbs < 1 <<< 53) :
    Searches (integerText whole.toInt) (integerText part.toInt) (integerText whole.toInt) (integerText part.toInt) := by
  have searches := Searches.of_numeric (unquoted_integerText part.toInt) (isNumeric_integerText whole.toInt)
    (isNumeric_integerText part.toInt)
  simp only [toInt_integerText, truncate_small small, truncate_small also] at searches
  exact searches

theorem coerce_word (bare : unquoted operand = operand)
    (apart : ¬((Value.string text).isNumeric = true ∧ (Value.string operand).isNumeric = true)) (operator : Operator)
    (equating : operator.isRelational = false) : coerce (.string text) operator operand = ⟨.string text, wordValue operand⟩ := by
  rw [← bare] at apart
  exact (coerce_apart equating apart).trans (by rw [bare])

theorem Searches.of_word (bare : unquoted operand = operand)
    (apart : ¬((Value.string text).isNumeric = true ∧ (Value.string operand).isNumeric = true)) (filled : operand ≠ "")
    (truth : operand ≠ "true") (falsity : operand ≠ "false") : Searches text operand text operand := by
  refine .of_sides (coerce_word bare apart) rfl ?_ filled
  simp [wordValue, truth, falsity, Value.asText?]

theorem Searches.of_true (text : String) : Searches text "true" text "1" := by
  have apart : ¬((Value.string text).isNumeric = true ∧ (Value.string "true").isNumeric = true) := by
    simp [Value.isNumeric_true]
  exact .of_sides (coerce_word (by decide +kernel) apart) rfl rfl (by decide)

theorem not_holds_false (text : String) :
    ∀ operator ∈ [startsWith, startsWithWord, endsWith, endsWithWord, includes, contains],
      operator.holds (.string text) "false" = false := by
  have apart : ¬((Value.string text).isNumeric = true ∧ (Value.string "false").isNumeric = true) := by
    simp [Value.isNumeric_false]
  intro operator member
  simp only [List.mem_cons, List.not_mem_nil, or_false] at member
  rcases member with rfl | rfl | rfl | rfl | rfl | rfl
  all_goals
    rw [holds, coerce_word (by decide +kernel) apart _ rfl]
    rfl

/-- A text is searched for an operand as it stands, unless both are numeric or the operand is the word true or false. Numeric
ones are searched as their whole numbers, which for integers below 2^53 are the same texts; true is looked for as `1`, and
false is never found. -/
theorem holds_searching :
    (∀ text operand : String, operand ≠ "" → (∀ c ∈ operand.toList.head?, c ≠ '"' ∧ c ≠ '\'') →
      (∀ c ∈ operand.toList.getLast?, c ≠ '"' ∧ c ≠ '\'') →
      (¬((Value.string text).isNumeric = true ∧ (Value.string operand).isNumeric = true) →
        operand ≠ "true" → operand ≠ "false" → Searches text operand text operand) ∧
      ((Value.string text).isNumeric = true → (Value.string operand).isNumeric = true →
        Searches text operand (integerText (Value.string text).toInt.toInt) (integerText (Value.string operand).toInt.toInt))) ∧
    (∀ whole part : Int64, whole.toInt.natAbs < 1 <<< 53 → part.toInt.natAbs < 1 <<< 53 →
      Searches (integerText whole.toInt) (integerText part.toInt) (integerText whole.toInt) (integerText part.toInt)) ∧
    ∀ text : String, Searches text "true" text "1" ∧
      ∀ operator ∈ [startsWith, startsWithWord, endsWith, endsWithWord, includes, contains],
        operator.holds (.string text) "false" = false := by
  refine ⟨?_, fun _ _ => .of_integers, fun text => ⟨.of_true text, not_holds_false text⟩⟩
  intro text operand filled start finish
  have bare := unquoted_eq_self start finish
  exact ⟨fun apart => .of_word bare apart filled, .of_numeric bare⟩

theorem plain_end {last : Option Char} {c : Char} (found : last = some c) (plain : c ≠ '"' ∧ c ≠ '\'') :
    ∀ c ∈ last, c ≠ '"' ∧ c ≠ '\'' := by
  subst found
  rintro _ ⟨⟩
  exact plain

/-- The digits that a code starts with, which are also a number that another starts with, and two negative integers. -/
theorem holds_searching_digits :
    "0012" ≠ "" ∧ (∀ c ∈ "0012".toList.head?, c ≠ '"' ∧ c ≠ '\'') ∧ (∀ c ∈ "0012".toList.getLast?, c ≠ '"' ∧ c ≠ '\'') ∧
      (¬((Value.string "0012-7").isNumeric = true ∧ (Value.string "0012").isNumeric = true) ∧
        "0012" ≠ "true" ∧ "0012" ≠ "false" ∧ Searches "0012-7" "0012" "0012-7" "0012") ∧
      ((Value.string "129.5").isNumeric = true ∧ (Value.string "0012").isNumeric = true ∧
        Searches "129.5" "0012" (integerText (Value.string "129.5").toInt.toInt)
          (integerText (Value.string "0012").toInt.toInt)) ∧
      ((-120 : Int64).toInt.natAbs < 1 <<< 53 ∧ (-12 : Int64).toInt.natAbs < 1 <<< 53 ∧
        Searches (integerText (-120 : Int64).toInt) (integerText (-12 : Int64).toInt) (integerText (-120 : Int64).toInt)
          (integerText (-12 : Int64).toInt)) ∧
      endsWith ∈ [startsWith, startsWithWord, endsWith, endsWithWord, includes, contains] ∧
        endsWith.holds (.string "not false") "false" = false := by
  obtain ⟨texts, integers, words⟩ := holds_searching
  have start := plain_end (show "0012".toList.head? = some '0' from rfl) (by decide)
  have finish := plain_end (show "0012".toList.getLast? = some '2' from rfl) (by decide)
  have code : ¬((Value.string "0012-7").isNumeric = true ∧ (Value.string "0012").isNumeric = true) := by decide +kernel
  have number : (Value.string "129.5").isNumeric = true := by decide +kernel
  have also : (Value.string "0012").isNumeric = true := by decide +kernel
  have small : (-120 : Int64).toInt.natAbs < 1 <<< 53 := by decide +kernel
  have smaller : (-12 : Int64).toInt.natAbs < 1 <<< 53 := by decide +kernel
  have member : endsWith ∈ [startsWith, startsWithWord, endsWith, endsWithWord, includes, contains] := by decide
  obtain ⟨textual, _⟩ := texts "0012-7" "0012" (by decide) start finish
  obtain ⟨_, numeric⟩ := texts "129.5" "0012" (by decide) start finish
  exact ⟨by decide, start, finish, ⟨code, by decide, by decide, textual code (by decide) (by decide)⟩,
    ⟨number, also, numeric number also⟩, ⟨small, smaller, integers (-120) (-12) small smaller⟩, member,
    (words "not false").2 endsWith member⟩

/-- A code starts with a zero and a sentence with the word true, but neither is found there, whereas a digit is said to end with
a fraction of which it is the whole part. -/
theorem not_holds_searching_as_written :
    ("0" ≠ "" ∧ "0".toList.head? = some '0' ∧ "0".toList.getLast? = some '0' ∧ "0".toList <+: "00123".toList ∧
      startsWith.holds (.string "00123") "0" = false) ∧
    ("true" ≠ "" ∧ "true".toList.head? = some 't' ∧ "true".toList.getLast? = some 'e' ∧ "true".toList <+: "true north".toList ∧
      startsWith.holds (.string "true north") "true" = false) ∧
    ("5.9" ≠ "" ∧ "5.9".toList.head? = some '5' ∧ "5.9".toList.getLast? = some '9' ∧
      ¬"5.9".toList <:+ "5".toList ∧ endsWith.holds (.string "5") "5.9" = true) := by
  refine ⟨⟨by decide, rfl, rfl, ⟨['0', '1', '2', '3'], rfl⟩, by decide +kernel⟩, ?_, ?_⟩
  · exact ⟨by decide, rfl, rfl, ⟨[' ', 'n', 'o', 'r', 't', 'h'], rfl⟩, by decide +kernel⟩
  · exact ⟨by decide, rfl, rfl, fun suffix => absurd suffix.length_le (by decide), by decide +kernel⟩

end Operator

end FieldLogic
