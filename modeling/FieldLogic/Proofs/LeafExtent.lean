import FieldLogic.Proofs.WholeWords

/-! How far a leaf goes, depending on the text behind it. A leaf looks ahead without bound for the partner of a
quote and up to one character beyond a word. Text that closes an operand and holds no quote that the leaf leaves
unpaired therefore changes nothing, and a leaf that was read in a longer text reads the same on its own. -/

namespace FieldLogic.Text

/-- The second text is the first with nothing but blanks behind it. -/
def Padded (text longer : List Char) : Prop :=
  ∃ blanks, longer = text ++ blanks ∧ ∀ c ∈ blanks, isBlank c = true

theorem Padded.refl (text : List Char) : Padded text text := ⟨[], by simp, by simp⟩

theorem Padded.cons {text longer : List Char} (c : Char) (padded : Padded text longer) :
    Padded (c :: text) (c :: longer) := by
  obtain ⟨blanks, rfl, blank⟩ := padded
  exact ⟨blanks, rfl, blank⟩

theorem Padded.trimEnd {text longer : List Char} (padded : Padded text longer) : trimEnd longer = trimEnd text := by
  obtain ⟨blanks, rfl, blank⟩ := padded
  rw [Text.trimEnd, List.reverse_append, List.dropWhile_append_of_pos]
  · rfl
  · intro c member
    exact blank c (List.mem_reverse.mp member)

theorem isBlank_of_mem_drop {text : List Char} {count : Nat} (short : (trimEnd text).length ≤ count) :
    ∀ c ∈ text.drop count, isBlank c = true := by
  obtain ⟨blanks, same, blank⟩ := trimEnd_append_blanks text
  intro c member
  rw [← same, List.drop_append, List.drop_eq_nil_of_le short, List.nil_append] at member
  exact blank c (List.mem_of_mem_drop member)

end FieldLogic.Text

namespace FieldLogic.Expression
open Text

/-- The quotes that the extent of a leaf meets outside quoted runs and that open none, since they never come again. -/
def unpaired : (run : Option Char) → (afterBlank : Bool) → List Char → List Char
  | _, _, [] => []
  | some quote, _, c :: rest => unpaired (if c = quote then none else some quote) false rest
  | none, afterBlank, c :: rest =>
    if isQuote c then
      if c ∈ rest then unpaired (some c) false rest else c :: unpaired none false rest
    else if c = '(' ∨ c = ')' then []
    else if afterBlank && startsConnective (c :: rest) then []
    else unpaired none (isBlank c) rest

/-- A text behind which a leaf cannot go: it continues no word, and its own extent is blank. -/
structure Closes (after : List Char) : Prop where
  apart : ∀ c ∈ after.head?, isWord c = false
  blank : ∀ c ∈ extent none false after, isBlank c = true

theorem isBlank_eq_false_of_isWord {c : Char} (word : isWord c = true) : isBlank c = false := by
  rw [← Bool.not_eq_true]
  intro blank
  rw [isWord_eq_false_of_isBlank blank] at word
  cases word

theorem isQuote_eq_false_of_isWord {c : Char} (word : isWord c = true) : isQuote c = false := by
  rw [← Bool.not_eq_true]
  intro quote
  simp only [isQuote, Bool.or_eq_true, beq_iff_eq] at quote
  rcases quote with rfl | rfl <;> (revert word; decide)

theorem isBlank_eq_false_of_isQuote {c : Char} (quote : isQuote c = true) : isBlank c = false := by
  simp only [isQuote, Bool.or_eq_true, beq_iff_eq] at quote
  rcases quote with rfl | rfl <;> decide

theorem not_parenthesis_of_isWord {c : Char} (word : isWord c = true) : ¬(c = '(' ∨ c = ')') := by
  rintro (rfl | rfl) <;> (revert word; decide)

theorem isQuote_eq_false_of_isBlank {c : Char} (blank : isBlank c = true) : isQuote c = false := by
  rw [← Bool.not_eq_true]
  intro quote
  rw [isBlank_eq_false_of_isQuote quote] at blank
  cases blank

theorem not_parenthesis_of_isBlank {c : Char} (blank : isBlank c = true) : ¬(c = '(' ∨ c = ')') := by
  rintro (rfl | rfl) <;> (revert blank; decide)

theorem extent_of_startsConnective {text : List Char} (starts : startsConnective text = true) :
    extent none true text = [] := by
  obtain ⟨connective, rest, found⟩ := startsConnective_iff.mp starts
  obtain ⟨c, tail, rfl, word⟩ := found.head
  simp [extent, isQuote_eq_false_of_isWord word, not_parenthesis_of_isWord word, starts]

theorem extent_none_of_apart {afterBlank : Bool} {after : List Char} (apart : ∀ c ∈ after.head?, isWord c = false) :
    extent none afterBlank after = extent none false after := by
  cases after with
  | nil => rfl
  | cons c after => simp only [extent, startsConnective_eq_false apart, Bool.and_false, Bool.false_eq_true]

theorem Closes.nil : Closes [] := ⟨by simp, by simp [extent]⟩

theorem Closes.parenthesis (after : List Char) : Closes (')' :: after) where
  apart := by simp; decide
  blank := by simp [extent, isQuote]

theorem Closes.space {c : Char} {after : List Char} (space : isSpace c = true)
    (closes : Closes after ∨ startsConnective after = true) : Closes (c :: after) where
  apart := by
    intro first member
    cases member
    exact isWord_eq_false_of_isBlank (isSpace_isBlank space)
  blank := by
    have blank := isSpace_isBlank space
    have rest : ∀ other ∈ extent none true after, isBlank other = true := by
      rcases closes with closes | starts
      · simpa only [extent_none_of_apart closes.apart] using closes.blank
      · simp [extent_of_startsConnective starts]
    rw [extent, if_neg (by simp [isQuote_eq_false_of_isBlank blank]), if_neg (not_parenthesis_of_isBlank blank),
      Bool.false_and, if_neg Bool.false_ne_true, blank]
    intro other member
    rcases List.mem_cons.mp member with rfl | member
    · exact blank
    · exact rest other member

/-- What stands behind a text changes the extent of its first leaf by blanks at most. -/
theorem extent_append {run : Option Char} {afterBlank : Bool} {text after : List Char}
    (inside : ∀ quote ∈ run, quote ∈ text) (alone : ∀ quote ∈ unpaired run afterBlank text, quote ∉ after)
    (closes : Closes after) : Padded (extent run afterBlank text) (extent run afterBlank (text ++ after)) := by
  induction text generalizing run afterBlank with
  | nil =>
    cases run with
    | some quote => cases inside quote rfl
    | none => exact ⟨_, rfl, by simpa only [List.nil_append, extent_none_of_apart closes.apart] using closes.blank⟩
  | cons c rest ih =>
    cases run with
    | some quote =>
      simp only [unpaired] at alone
      simp only [List.cons_append, extent]
      refine (ih ?_ alone).cons c
      intro other running
      split at running
      · cases running
      next different =>
        cases running
        exact List.mem_of_ne_of_mem (Ne.symm different) (inside quote rfl)
    | none =>
      simp only [unpaired] at alone
      simp only [List.cons_append, extent]
      split
      next quote =>
        rw [if_pos quote] at alone
        by_cases again : c ∈ rest
        · rw [if_pos again] at alone
          rw [if_pos again, if_pos (List.mem_append_left _ again)]
          refine (ih ?_ alone).cons c
          intro other running
          cases running
          exact again
        · rw [if_neg again] at alone
          have never : c ∉ rest ++ after := by
            rw [List.mem_append]
            exact not_or_intro again (alone c (List.mem_cons_self ..))
          rw [if_neg again, if_neg never]
          exact (ih (by simp) fun other member => alone other (List.mem_cons_of_mem _ member)).cons c
      next plain =>
        rw [if_neg plain] at alone
        split
        · exact Padded.refl []
        next within =>
          rw [if_neg within] at alone
          rw [← List.cons_append, startsConnective_append closes.apart]
          split
          · exact Padded.refl []
          next goes =>
            rw [if_neg goes] at alone
            exact (ih (by simp) alone).cons c

theorem leaf?_eq_some_iff {text literal rest : List Char} :
    leaf? text = some (literal, rest) ↔
      text = literal ++ rest ∧ literal ≠ [] ∧ literal.length = byteLength (trimEnd (extent none true text)) := by
  simp only [leaf?, Option.ite_none_left_eq_some, not_or, Nat.not_lt, List.splitAt_eq, Option.some.injEq,
    Prod.mk.injEq]
  constructor
  · rintro ⟨⟨nonzero, fits⟩, taken, dropped⟩
    have size := congrArg List.length taken
    rw [List.length_take, Nat.min_eq_left fits] at size
    refine ⟨?_, ?_, size.symm⟩
    · rw [← taken, ← dropped, List.take_append_drop]
    · intro empty
      subst empty
      exact nonzero size
  · rintro ⟨same, nonempty, size⟩
    rw [← size]
    subst same
    refine ⟨⟨?_, ?_⟩, ?_, ?_⟩
    · simpa using nonempty
    · simp
    · simp
    · simp

theorem leaf?_start {text literal rest : List Char} (found : leaf? text = some (literal, rest)) :
    startsConnective text = false ∧ ∃ c tail, text = c :: tail ∧ ¬(c = '(' ∨ c = ')') := by
  obtain ⟨_, nonempty, size⟩ := leaf?_eq_some_iff.mp found
  have begun : extent none true text ≠ [] := by
    intro empty
    rw [empty] at size
    exact nonempty (List.eq_nil_of_length_eq_zero size)
  refine ⟨?_, ?_⟩
  · rw [← Bool.not_eq_true]
    intro starts
    exact begun (extent_of_startsConnective starts)
  · cases text with
    | nil => exact (begun rfl).elim
    | cons c tail =>
      refine ⟨c, tail, rfl, ?_⟩
      intro parenthesis
      apply begun
      rw [extent, if_neg (by rcases parenthesis with rfl | rfl <;> decide), if_pos parenthesis]

theorem leaf?_append {text literal rest after : List Char} (found : leaf? text = some (literal, rest))
    (alone : ∀ quote ∈ unpaired none true text, quote ∉ after) (closes : Closes after) :
    leaf? (text ++ after) = some (literal, rest ++ after) := by
  obtain ⟨same, nonempty, size⟩ := leaf?_eq_some_iff.mp found
  refine leaf?_eq_some_iff.mpr ⟨?_, nonempty, ?_⟩
  · rw [same, List.append_assoc]
  · rw [(extent_append (by simp) alone closes).trimEnd, size]

/-- What can stand behind an operand: nothing but space, a closing parenthesis, `AND` or `OR`. -/
inductive Resumes (rest : List Char) : Prop where
  | finished (spaces : skipSpace rest = [])
  | closing {more : List Char} (closes : skipSpace rest = ')' :: more)
  | connective {connective : Connective} {more : List Char} (binary : connective ≠ .not)
      (found : Word connective.letters (skipSpace rest) more)

private theorem letters_apart (first second : Connective) (binary : second ≠ .not) :
    ∀ count < 3, 0 < count → first.letters.drop count ≠ [] →
      ¬first.letters.drop count <+: second.letters ∧ ¬second.letters <+: first.letters.drop count := by
  cases first <;> cases second <;> first | exact absurd rfl binary | decide

theorem Resumes.not_tail {connective : Connective} {front tail more : List Char}
    (spelled : (front ++ tail).map Char.toLower = connective.letters) (begun : front ≠ []) (left : tail ≠ [])
    (resumes : Resumes (tail ++ more)) : False := by
  obtain ⟨c, tail, rfl⟩ := List.exists_cons_of_ne_nil left
  have word : isWord c = true := isWord_of_mem_spelling spelled (List.mem_append_right _ (List.mem_cons_self ..))
  have stays : skipSpace (c :: tail ++ more) = c :: tail ++ more := skipSpace_of_word _ word
  cases resumes with
  | finished spaces => rw [stays] at spaces; cases spaces
  | closing closes =>
    rw [stays, List.cons_append, List.cons.injEq] at closes
    rw [closes.1] at word
    revert word
    decide
  | @connective other rest binary found =>
    rw [stays] at found
    obtain ⟨spelling, same, letters, _⟩ := found
    have dropped : connective.letters.drop front.length = (c :: tail).map Char.toLower := by
      rw [← spelled, List.map_append, List.drop_left' (by simp)]
    have short : front.length < 3 := by
      have size := congrArg List.length spelled
      have bound : connective.letters.length ≤ 3 := by cases connective <;> decide
      rw [List.length_map, List.length_append, List.length_cons] at size
      omega
    have here : connective.letters.drop front.length <+: (c :: tail ++ more).map Char.toLower :=
      ⟨more.map Char.toLower, by rw [dropped, List.map_append]⟩
    have there : other.letters <+: (c :: tail ++ more).map Char.toLower :=
      ⟨rest.map Char.toLower, by rw [same, List.map_append, letters]⟩
    obtain ⟨before, behind⟩ := letters_apart connective other binary front.length short
      (List.length_pos_iff.mpr begun) (by simp [dropped])
    rcases List.prefix_or_prefix_of_prefix here there with begins | begins
    · exact before begins
    · exact behind begins

theorem mem_extent_of_mem {quote : Char} {afterBlank : Bool} {text : List Char} (member : quote ∈ text) :
    quote ∈ extent (some quote) afterBlank text := by
  induction text generalizing afterBlank with
  | nil => cases member
  | cons c rest ih =>
    rw [extent]
    by_cases same : c = quote
    · subst c
      exact List.mem_cons_self ..
    · rw [if_neg same]
      exact List.mem_cons_of_mem _ (ih (List.mem_of_ne_of_mem (Ne.symm same) member))

private theorem mem_drop_extent {quote : Char} {afterBlank : Bool} {text rest : List Char} (missing : quote ∉ text)
    (later : quote ∈ rest) : quote ∈ (extent (some quote) afterBlank (text ++ rest)).drop text.length := by
  induction text generalizing afterBlank with
  | nil => exact mem_extent_of_mem later
  | cons c text ih =>
    rw [List.mem_cons, not_or] at missing
    rw [List.cons_append, extent, if_neg (Ne.symm missing.1), List.length_cons, List.drop_succ_cons]
    exact ih missing.2

private theorem partner_cut {quote : Char} {literal rest : List Char} (mark : isQuote quote = true)
    (later : quote ∈ literal ++ rest)
    (within : ∀ c ∈ (extent (some quote) false (literal ++ rest)).drop literal.length, isBlank c = true) :
    quote ∈ literal := by
  rcases List.mem_append.mp later with here | behind
  · exact here
  · by_cases here : quote ∈ literal
    · exact here
    · have blank := within quote (mem_drop_extent here behind)
      rw [isBlank_eq_false_of_isQuote mark] at blank
      cases blank

private theorem extent_word {text rest : List Char} (word : ∀ c ∈ text, isWord c = true) :
    extent none false (text ++ rest) = text ++ extent none false rest := by
  induction text with
  | nil => rfl
  | cons c text ih =>
    have first := word c (List.mem_cons_self ..)
    simp only [List.cons_append, extent, isQuote_eq_false_of_isWord first, Bool.false_eq_true, if_false,
      if_neg (not_parenthesis_of_isWord first), Bool.false_and, isBlank_eq_false_of_isWord first,
      ih fun other member => word other (List.mem_cons_of_mem _ member)]

private theorem Word.of_append {connective : Connective} {rest more : List Char} (text : List Char)
    (found : Word connective.letters (text ++ rest) more) (resumes : Resumes rest) (begun : text ≠ []) :
    ∃ left, Word connective.letters text left := by
  obtain ⟨spelling, same, spelled, apart⟩ := found
  rcases List.append_eq_append_iff.mp same with ⟨tail, rfl, rfl⟩ | ⟨left, rfl, rfl⟩
  · by_cases ended : tail = []
    · subst tail
      exact ⟨[], text, by simp, by simpa using spelled, by simp⟩
    · exact (resumes.not_tail spelled begun ended).elim
  · refine ⟨left, spelling, rfl, spelled, ?_⟩
    cases left with
    | nil => simp
    | cons c left => exact apart

private theorem mem_drop_extent_word {text rest : List Char} {other : Char} (word : ∀ c ∈ text, isWord c = true)
    (goes : isWord other = true) : other ∈ (extent none false (text ++ other :: rest)).drop text.length := by
  rw [extent_word word, List.drop_left' rfl]
  simp [extent, isQuote_eq_false_of_isWord goes, not_parenthesis_of_isWord goes]

/-- Behind an operand a connective at the place begins in the operand alone or not at all, unless a word that
goes on takes the extent with it. -/
private theorem startsConnective_cut {c : Char} {literal rest : List Char} (resumes : Resumes rest)
    (within : startsConnective (c :: (literal ++ rest)) = false →
      ∀ other ∈ (extent none (isBlank c) (literal ++ rest)).drop literal.length, isBlank other = true) :
    startsConnective (c :: (literal ++ rest)) = startsConnective (c :: literal) := by
  cases whole : startsConnective (c :: (literal ++ rest)) with
  | true =>
    obtain ⟨connective, more, found⟩ := startsConnective_iff.mp whole
    obtain ⟨left, found⟩ := Word.of_append (c :: literal) found resumes (by simp)
    exact (startsConnective_iff.mpr ⟨connective, left, found⟩).symm
  | false =>
    cases alone : startsConnective (c :: literal) with
    | false => rfl
    | true =>
      obtain ⟨connective, left, spelling, same, spelled, apart⟩ := startsConnective_iff.mp alone
      have longer : ¬∀ other ∈ (left ++ rest).head?, isWord other = false := by
        intro apart
        have starts := startsConnective_iff.mpr ⟨connective, _, _, rfl, spelled, apart⟩
        rw [← List.cons_append, same, List.append_assoc, starts] at whole
        cases whole
      cases left with
      | cons other left => exact (longer apart).elim
      | nil =>
        rw [List.append_nil] at same
        subst spelling
        have word (other : Char) (member : other ∈ c :: literal) : isWord other = true :=
          isWord_of_mem_spelling spelled member
        cases rest with
        | nil => exact (longer (by simp)).elim
        | cons other rest =>
          have goes : isWord other = true := by
            rw [← Bool.not_eq_false]
            intro stops
            exact longer (by simpa using stops)
          have blank := within whole
          rw [isBlank_eq_false_of_isWord (word c (List.mem_cons_self ..))] at blank
          have ink := blank other (mem_drop_extent_word (fun d member => word d (List.mem_cons_of_mem _ member)) goes)
          rw [isBlank_eq_false_of_isWord goes] at ink
          cases ink

/-- A text that holds all but blanks of the extent of its first leaf shows the same extent alone, and what stands
behind it has no partner for the quotes that it leaves unpaired. -/
theorem extent_cut {run : Option Char} {afterBlank : Bool} {literal rest : List Char} (resumes : Resumes rest)
    (within : ∀ c ∈ (extent run afterBlank (literal ++ rest)).drop literal.length, isBlank c = true) :
    Padded (extent run afterBlank literal) (extent run afterBlank (literal ++ rest)) ∧
      ∀ quote ∈ unpaired run afterBlank literal, quote ∉ rest := by
  induction literal generalizing run afterBlank with
  | nil => exact ⟨⟨_, by cases run <;> rfl, within⟩, by cases run <;> simp [unpaired]⟩
  | cons c literal ih =>
    cases run with
    | some quote =>
      simp only [List.cons_append, extent, unpaired, List.length_cons, List.drop_succ_cons] at within ⊢
      obtain ⟨padded, alone⟩ := ih within
      exact ⟨padded.cons c, alone⟩
    | none =>
      simp only [List.cons_append, extent, unpaired] at within ⊢
      split
      next quote =>
        rw [if_pos quote, List.length_cons, List.drop_succ_cons] at within
        by_cases later : c ∈ literal ++ rest
        · rw [if_pos later] at within ⊢
          have again := partner_cut quote later within
          rw [if_pos again, if_pos again]
          obtain ⟨padded, alone⟩ := ih within
          exact ⟨padded.cons c, alone⟩
        · rw [if_neg later] at within ⊢
          rw [List.mem_append, not_or] at later
          rw [if_neg later.1, if_neg later.1]
          obtain ⟨padded, alone⟩ := ih within
          refine ⟨padded.cons c, ?_⟩
          intro other member
          rcases List.mem_cons.mp member with rfl | member
          · exact later.2
          · exact alone other member
      next plain =>
        rw [if_neg plain] at within
        split
        · exact ⟨.refl [], by simp⟩
        next inner =>
          rw [if_neg inner] at within
          cases afterBlank with
          | false =>
            simp only [Bool.false_and, Bool.false_eq_true, if_false, List.length_cons, List.drop_succ_cons] at within ⊢
            obtain ⟨padded, alone⟩ := ih within
            exact ⟨padded.cons c, alone⟩
          | true =>
            simp only [Bool.true_and] at within ⊢
            rw [← startsConnective_cut resumes]
            · split
              · exact ⟨.refl [], by simp⟩
              next goes =>
                rw [if_neg goes, List.length_cons, List.drop_succ_cons] at within
                obtain ⟨padded, alone⟩ := ih within
                exact ⟨padded.cons c, alone⟩
            · intro goes
              simpa only [goes, Bool.false_eq_true, if_false, List.length_cons, List.drop_succ_cons] using within

theorem leaf?_cut {literal rest : List Char} (found : leaf? (literal ++ rest) = some (literal, rest))
    (resumes : Resumes rest) :
    leaf? literal = some (literal, []) ∧ ∀ quote ∈ unpaired none true literal, quote ∉ rest := by
  obtain ⟨_, nonempty, size⟩ := leaf?_eq_some_iff.mp found
  have short : (trimEnd (extent none true (literal ++ rest))).length ≤ literal.length :=
    size ▸ length_le_byteLength _
  obtain ⟨padded, alone⟩ := extent_cut resumes (isBlank_of_mem_drop short)
  refine ⟨leaf?_eq_some_iff.mpr ⟨by simp, nonempty, ?_⟩, alone⟩
  rw [← padded.trimEnd, size]

end FieldLogic.Expression
