import FieldLogic.Expression.Token

/-! Whole words. The three connectives are told apart by their letters and end where no word character follows, so
a text with nothing but blanks or a parenthesis behind it holds the same words as the text alone. -/

namespace FieldLogic.Expression
open Text

/-- The text is a word, in letters of either case, and then the rest, which does not make the word longer. -/
def Word (word text rest : List Char) : Prop :=
  ∃ spelling, text = spelling ++ rest ∧ spelling.map Char.toLower = word ∧ ∀ c ∈ rest.head?, isWord c = false

inductive Connective where
  | and
  | or
  | not
deriving DecidableEq

namespace Connective

def letters : Connective → List Char
  | and => ['a', 'n', 'd']
  | or => ['o', 'r']
  | not => ['n', 'o', 't']

theorem letters_ne_nil (connective : Connective) : connective.letters ≠ [] := by
  cases connective <;> simp [letters]

theorem isAlpha_of_mem_letters {connective : Connective} {c : Char} (member : c ∈ connective.letters) :
    c.isAlpha = true := by
  cases connective <;> simp only [letters, List.mem_cons, List.not_mem_nil, or_false] at member
  case or => rcases member with rfl | rfl <;> decide
  all_goals rcases member with rfl | rfl | rfl <;> decide

end Connective

theorem isWord_of_isAlpha {c : Char} (letter : c.isAlpha = true) : isWord c = true := by
  have small : c.toNat < 128 := by
    have codePoint : c.toNat = c.val.toNat := rfl
    have upper : 'Z'.val.toNat = 90 := rfl
    have lower : 'z'.val.toNat = 122 := rfl
    rcases (Bool.or_eq_true _ _).mp letter with capital | minuscule
    · have within : c.val ≥ 'A'.val ∧ c.val ≤ 'Z'.val := of_decide_eq_true capital
      have most := UInt32.le_iff_toNat_le.mp within.2
      omega
    · have within : c.val ≤ 'z'.val := of_decide_eq_true ((Bool.and_eq_true _ _).mp minuscule).2
      have most := UInt32.le_iff_toNat_le.mp within
      omega
  simp [isWord, small, Char.isAlphanum, letter]

theorem isWord_of_toLower {c : Char} (letter : c.toLower.isAlpha = true) : isWord c = true := by
  by_cases capital : c.isUpper = true
  · exact isWord_of_isAlpha ((Bool.or_eq_true _ _).mpr (.inl capital))
  · have same : c.toLower = c := dif_neg fun within => capital (decide_eq_true within)
    exact isWord_of_isAlpha (same ▸ letter)

theorem isWord_eq_false_of_isBlank {c : Char} (blank : isBlank c = true) : isWord c = false := by
  by_cases small : c.toNat < 128
  · have ascii : ∀ point < 128, isBlank (Char.ofNat point) = true → isWord (Char.ofNat point) = false := by
      decide +kernel
    simpa only [Char.ofNat_toNat] using ascii c.toNat small (by simpa only [Char.ofNat_toNat] using blank)
  · have apart : ∀ range ∈ blankRanges, ∀ other ∈ wordRanges, range.2 < other.1 ∨ other.2 < range.1 := by
      decide +kernel
    obtain ⟨range, member, lower, upper⟩ := (inRanges_iff _ _).mp blank
    rw [isWord, if_neg small, ← Bool.not_eq_true, inRanges_iff]
    intro ⟨other, listed, above, below⟩
    have := apart range member other listed
    omega

theorem isSpace_eq_false_of_isWord {c : Char} (word : isWord c = true) : isSpace c = false := by
  rw [← Bool.not_eq_true]
  intro space
  rw [isWord_eq_false_of_isBlank (isSpace_isBlank space)] at word
  cases word

theorem isWord_of_mem_spelling {connective : Connective} {spelling : List Char} {c : Char}
    (same : spelling.map Char.toLower = connective.letters) (member : c ∈ spelling) : isWord c = true :=
  isWord_of_toLower (Connective.isAlpha_of_mem_letters (same ▸ List.mem_map_of_mem member))

theorem word?_eq_some_iff {word text rest : List Char} : word? word text = some rest ↔ Word word text rest := by
  induction word generalizing text with
  | nil =>
    simp only [word?, Option.ite_none_left_eq_some, Option.some.injEq, Word, List.map_eq_nil_iff]
    constructor
    · intro found
      obtain ⟨apart, rfl⟩ := found
      refine ⟨[], rfl, rfl, ?_⟩
      simpa [Option.any_eq_true] using apart
    · intro found
      obtain ⟨_, rfl, rfl, apart⟩ := found
      refine ⟨?_, rfl⟩
      simpa [Option.any_eq_true] using apart
  | cons letter word ih =>
    cases text with
    | nil =>
      simp only [word?, reduceCtorEq, false_iff]
      intro found
      obtain ⟨spelling, same, spelled, _⟩ := found
      obtain ⟨rfl, _⟩ := List.append_eq_nil_iff.mp same.symm
      cases spelled
    | cons c text =>
      simp only [word?, Option.ite_none_right_eq_some, ih]
      constructor
      · intro found
        obtain ⟨rfl, spelling, rfl, rfl, apart⟩ := found
        exact ⟨c :: spelling, rfl, rfl, apart⟩
      · intro found
        obtain ⟨spelling, same, spelled, apart⟩ := found
        cases spelling with
        | nil => cases spelled
        | cons first spelling =>
          rw [List.cons_append, List.cons.injEq] at same
          obtain ⟨rfl, rfl⟩ := same
          rw [List.map_cons, List.cons.injEq] at spelled
          exact ⟨spelled.1, spelling, rfl, spelled.2, apart⟩

theorem startsConnective_iff {text : List Char} :
    startsConnective text = true ↔ ∃ connective rest, Word (Connective.letters connective) text rest := by
  simp only [startsConnective, Bool.or_eq_true, Option.isSome_iff_exists]
  constructor
  · intro found
    rcases found with (⟨rest, found⟩ | ⟨rest, found⟩) | ⟨rest, found⟩
    · exact ⟨.and, rest, word?_eq_some_iff.mp found⟩
    · exact ⟨.or, rest, word?_eq_some_iff.mp found⟩
    · exact ⟨.not, rest, word?_eq_some_iff.mp found⟩
  · intro ⟨connective, rest, found⟩
    have found := word?_eq_some_iff.mpr found
    cases connective with
    | and => exact .inl (.inl ⟨rest, found⟩)
    | or => exact .inl (.inr ⟨rest, found⟩)
    | not => exact .inr ⟨rest, found⟩

/-- A connective begins with a word character, which is neither blank nor a parenthesis nor a quote. -/
theorem Word.head {connective : Connective} {text rest : List Char} (found : Word connective.letters text rest) :
    ∃ c tail, text = c :: tail ∧ isWord c = true := by
  obtain ⟨spelling, rfl, spelled, _⟩ := found
  cases spelling with
  | nil => exact absurd spelled.symm connective.letters_ne_nil
  | cons c tail => exact ⟨c, tail ++ rest, rfl, isWord_of_mem_spelling spelled (List.mem_cons_self ..)⟩

theorem skipSpace_of_word {c : Char} (text : List Char) (word : isWord c = true) :
    skipSpace (c :: text) = c :: text :=
  skipSpace_of_not_isSpace text (isSpace_eq_false_of_isWord word)

theorem Word.skipSpace_eq {connective : Connective} {text rest : List Char}
    (found : Word connective.letters text rest) : skipSpace text = text := by
  obtain ⟨c, tail, rfl, word⟩ := found.head
  exact skipSpace_of_word tail word

theorem startsConnective_eq_false {text : List Char} (apart : ∀ c ∈ text.head?, isWord c = false) :
    startsConnective text = false := by
  rw [← Bool.not_eq_true, startsConnective_iff]
  intro ⟨connective, rest, found⟩
  obtain ⟨c, tail, rfl, word⟩ := found.head
  rw [apart c rfl] at word
  cases word

theorem Word.eq {first second : Connective} {text rest later : List Char} (found : Word first.letters text rest)
    (other : Word second.letters text later) : first = second ∧ rest = later := by
  obtain ⟨c, tail, rfl, _⟩ := found.head
  have initial {connective : Connective} {rest : List Char} (found : Word connective.letters (c :: tail) rest) :
      connective.letters.head? = some c.toLower := by
    obtain ⟨spelling, same, spelled, _⟩ := found
    cases spelling with
    | nil => exact absurd spelled.symm connective.letters_ne_nil
    | cons letter spelling =>
      rw [List.cons_append, List.cons.injEq] at same
      rw [← spelled, same.1]
      rfl
  have same : first = second := by
    have equal := (initial found).trans (initial other).symm
    cases first <;> cases second <;> first | rfl | (revert equal; decide)
  subst second
  rw [← word?_eq_some_iff] at found other
  exact ⟨rfl, Option.some.inj (found.symm.trans other)⟩

/-- What stands behind a text does not change the word at its start, unless it makes the last word longer. -/
theorem word?_append {word text after : List Char} (letters : ∀ letter ∈ word, letter.isAlpha = true)
    (apart : ∀ c ∈ after.head?, isWord c = false) :
    word? word (text ++ after) = (word? word text).map (· ++ after) := by
  induction word generalizing text with
  | nil =>
    cases text with
    | nil =>
      have no : after.head?.any isWord = false := by simpa [Option.any_eq_false] using apart
      simp [word?, no]
    | cons c text => by_cases longer : isWord c = true <;> simp [word?, longer]
  | cons letter word ih =>
    cases text with
    | nil =>
      cases after with
      | nil => rfl
      | cons c after =>
        have different : c.toLower ≠ letter := by
          intro same
          subst same
          have word := isWord_of_toLower (letters _ (List.mem_cons_self ..))
          rw [apart c rfl] at word
          cases word
        simp [word?, different]
    | cons c text =>
      rw [List.cons_append, word?, word?, ih fun letter member => letters letter (List.mem_cons_of_mem _ member)]
      split <;> rfl

theorem startsConnective_append {text after : List Char} (apart : ∀ c ∈ after.head?, isWord c = false) :
    startsConnective (text ++ after) = startsConnective text := by
  have behind (connective : Connective) :
      (word? connective.letters (text ++ after)).isSome = (word? connective.letters text).isSome := by
    rw [word?_append (fun _ member => Connective.isAlpha_of_mem_letters member) apart, Option.isSome_map]
  have shape (text : List Char) : startsConnective text = ((word? Connective.and.letters text).isSome ||
      (word? Connective.or.letters text).isSome || (word? Connective.not.letters text).isSome) := rfl
  rw [shape, shape, behind, behind, behind]

end FieldLogic.Expression
