import FieldLogic.Proofs.PrintedForm
import Mathlib.Data.List.TakeWhile

/-! Accepted texts put together. What stands behind a text changes nothing in how it is read, as long as no leaf can go
on there and no quote of the text comes again. So space, parentheses and connectives around accepted texts give the
trees joined accordingly, whatever the scripts, the quotes and the nesting inside. -/

namespace FieldLogic.Expression
open Text

/-- The text behind has no partner for any quote of the first. -/
def QuotesApart (text after : List Char) : Prop := ∀ c ∈ text, isQuote c = true → c ∉ after

theorem QuotesApart.mono {text inner after : List Char} (apart : QuotesApart text after) (within : inner ⊆ text) :
    QuotesApart inner after := fun c member quote => apart c (within member) quote

theorem QuotesApart.of_unquoted {after : List Char} (plain : ∀ c ∈ after, isQuote c = false) (text : List Char) :
    QuotesApart text after := by
  intro c _ quote member
  rw [plain c member] at quote
  cases quote

theorem QuotesApart.append {text front back : List Char} (first : QuotesApart text front)
    (second : QuotesApart text back) : QuotesApart text (front ++ back) := by
  intro c member quote later
  rcases List.mem_append.mp later with here | behind
  · exact first c member quote here
  · exact second c member quote behind

theorem unpaired_subset (run : Option Char) (afterBlank : Bool) (text : List Char) :
    unpaired run afterBlank text ⊆ text := by
  fun_induction unpaired run afterBlank text with
  | case1 => exact List.Subset.refl _
  | case2 _ _ _ _ ih | case3 _ _ _ _ _ ih | case7 _ _ _ _ _ _ ih => exact List.subset_cons_of_subset _ ih
  | case4 _ _ _ _ _ ih => exact List.cons_subset_cons _ ih
  | case5 | case6 => exact List.nil_subset _

theorem Word.append {word text rest after : List Char} (found : Word word text rest)
    (apart : ∀ c ∈ after.head?, isWord c = false) : Word word (text ++ after) (rest ++ after) := by
  obtain ⟨spelling, rfl, spelled, ends⟩ := found
  refine ⟨spelling, List.append_assoc .., spelled, ?_⟩
  cases rest with
  | nil => exact apart
  | cons c rest => exact ends

theorem Word.skipped {connective : Connective} {text rest : List Char} (found : Word connective.letters text rest) :
    Word connective.letters (skipSpace text) rest := by
  rw [found.skipSpace_eq]
  exact found

theorem Word.ink {connective : Connective} {text rest : List Char}
    (found : Word connective.letters (skipSpace text) rest) : skipSpace text ≠ [] := by
  obtain ⟨c, tail, begins, _⟩ := found.head
  simp [begins]

theorem Captured.ink {text literal rest : List Char} (captured : Captured (skipSpace text) literal rest) :
    skipSpace text ≠ [] := by
  obtain ⟨_, c, tail, begins, _⟩ := leaf?_start captured
  simp [begins]

theorem Closes.of_spaces {after : List Char} (spaces : ∀ c ∈ after, isSpace c = true) : Closes after := by
  induction after with
  | nil => exact .nil
  | cons c after ih =>
    rw [List.forall_mem_cons] at spaces
    exact .space spaces.1 (.inl (ih spaces.2))

theorem closes_separator (junction : Junction) (after : List Char) : Closes (junction.separator ++ after) := by
  obtain ⟨word, separated, found⟩ := junction.separator_word after
  rw [separated]
  exact .space (by decide) (.inr (startsConnective_iff.mpr ⟨_, _, found⟩))

/-- A derivation holds before any text in which no leaf can go on and that repeats no quote. -/
theorem Derives.append {precedence : Precedence} {text rest after : List Char} {expression : Expression}
    (derived : Derives Captured precedence text rest expression) (closes : Closes after)
    (apart : QuotesApart text after) : Derives Captured precedence (text ++ after) (rest ++ after) expression := by
  have word {connective : Connective} {text rest : List Char} (found : Word connective.letters (skipSpace text) rest) :
      Word connective.letters (skipSpace (text ++ after)) (rest ++ after) := by
    rw [skipSpace_append_of_ink found.ink]
    exact found.append closes.apart
  induction derived with
  | @leaf text literal rest captured =>
    apply Derives.leaf
    rw [skipSpace_append_of_ink captured.ink]
    refine leaf?_append captured ?_ closes
    intro quote lone
    have member := (skipSpace_suffix text).subset (unpaired_subset none true _ lone)
    exact apart quote member (isQuote_of_mem_unpaired lone)
  | @group text inside ended rest expression opening inner closing ih =>
    have begins : skipSpace (text ++ after) = '(' :: (inside ++ after) := by
      rw [skipSpace_append_of_ink (by simp [opening]), opening, List.cons_append]
    have ends : skipSpace (ended ++ after) = ')' :: (rest ++ after) := by
      rw [skipSpace_append_of_ink (by simp [closing]), closing, List.cons_append]
    exact .group begins (ih (apart.mono (suffix_of_skipSpace opening).subset)) ends
  | not found inner ih => exact .not (word found) (ih (apart.mono found.suffix.subset))
  | operand only ih => exact .operand (ih apart)
  | conjunction only ih => exact .conjunction (ih apart)
  | and first found next before behind =>
    have later := List.Subset.trans found.suffix.subset first.subset.1
    exact .and (before apart) (word found) (behind (apart.mono later))
  | or first found next before behind =>
    have later := List.Subset.trans found.suffix.subset first.subset.1
    exact .or (before apart) (word found) (behind (apart.mono later))

theorem Derives.separated {captures : List Char → List Char → List Char → Prop} {junction : Junction}
    {text other rest : List Char} {left right : Expression}
    (first : Derives captures junction.precedence text (junction.separator ++ other) left)
    (next : Derives captures .operand other rest right) :
    Derives captures junction.precedence text rest (junction.join left right) := by
  obtain ⟨word, separated, found⟩ := junction.separator_word other
  rw [separated] at first
  exact first.join found.skipped (next.skip rfl)

/-- A whole disjunction may stand behind `OR`: joining its operands one by one splices them all. -/
theorem Derives.or_disjunction {captures : List Char → List Char → List Char → Prop} {text ended after rest : List Char}
    {left right : Expression} (first : Derives captures .disjunction text ended left)
    (word : Word Connective.or.letters (skipSpace ended) after)
    (later : Derives captures .disjunction after rest right) :
    Derives captures .disjunction text rest (left.or right) := by
  generalize level : Precedence.disjunction = precedence at later
  induction later with
  | conjunction only => exact .or first word only
  | @or _ _ _ _ middle last _ another next before =>
    have spliced : (left.or middle).or last = left.or (middle.or last) := Junction.or.join_assoc left middle last
    rw [← spliced]
    exact .or (before word level) another next
  | leaf | group | not | operand | and => cases level

namespace Accepts

variable {text after : List Char} {expression : Expression}

theorem append (accepted : Accepts Captured text expression) (closes : Closes after)
    (apart : QuotesApart text after) :
    ∃ rest, Derives Captured .disjunction (text ++ after) rest expression ∧ skipSpace rest = skipSpace after := by
  obtain ⟨rest, derived, spaces⟩ := accepted
  exact ⟨rest ++ after, derived.append closes apart, skipSpace_append_of_spaces spaces after⟩

theorem spaced {before : List Char} (accepted : Accepts Captured text expression)
    (leading : ∀ c ∈ before, isSpace c = true) (trailing : ∀ c ∈ after, isSpace c = true) :
    Accepts Captured (before ++ text ++ after) expression := by
  have plain (c : Char) (member : c ∈ after) : isQuote c = false :=
    isQuote_eq_false_of_isBlank (isSpace_isBlank (trailing c member))
  obtain ⟨rest, derived, ends⟩ := accepted.append (.of_spaces trailing) (.of_unquoted plain text)
  refine ⟨rest, derived.skip ?_, ?_⟩
  · rw [List.append_assoc, skipSpace_append_of_spaces (List.dropWhile_eq_nil_iff.mpr leading)]
  · rw [ends]
    exact List.dropWhile_eq_nil_iff.mpr trailing

theorem group (accepted : Accepts Captured text expression) (apart : QuotesApart text (')' :: after)) :
    Derives Captured .operand ('(' :: (text ++ ')' :: after)) after expression := by
  obtain ⟨rest, inner, ends⟩ := accepted.append (.parenthesis after) apart
  refine .group (skipSpace_of_not_isSpace _ (by decide)) inner ?_
  rw [ends, skipSpace_of_not_isSpace after (by decide)]

theorem group_alone (accepted : Accepts Captured text expression) :
    Derives Captured .operand ('(' :: (text ++ [')'])) [] expression :=
  accepted.group (.of_unquoted (by simp [isQuote]) text)

theorem negated (accepted : Accepts Captured text expression) :
    Accepts Captured (['N', 'O', 'T', ' ', '('] ++ text ++ [')']) (.negation expression) := by
  have word := not_word ('(' :: (text ++ [')']))
  exact ⟨[], .conjunction (.operand (.not word (accepted.group_alone.skip rfl))), rfl⟩

variable {other : List Char} {left right : Expression}

theorem or (first : Accepts Captured text left) (second : Accepts Captured other right)
    (apart : QuotesApart text other) : Accepts Captured (text ++ (Junction.or.separator ++ other)) (left.or right) := by
  have quotes : QuotesApart text (Junction.or.separator ++ other) :=
    (QuotesApart.of_unquoted Junction.or.separator_unquoted text).append apart
  obtain ⟨ended, derived, ends⟩ := first.append (closes_separator .or other) quotes
  obtain ⟨rest, later, spaces⟩ := second
  obtain ⟨word, separated, found⟩ := Junction.or.separator_word other
  have behind : Word Connective.or.letters (skipSpace ended) (' ' :: other) := by
    rw [ends, separated]
    exact found.skipped
  exact ⟨rest, derived.or_disjunction behind (later.skip rfl), spaces⟩

theorem and (first : Accepts Captured text left) (second : Accepts Captured other right)
    (apart : QuotesApart text other) :
    Accepts Captured ('(' :: (text ++ ')' :: (Junction.and.separator ++ '(' :: (other ++ [')'])))) (left.and right) := by
  have plain (between : List Char) (unquoted : ∀ c ∈ between, isQuote c = false) : QuotesApart text between :=
    .of_unquoted unquoted text
  have later : QuotesApart text (['('] ++ (other ++ [')'])) :=
    (plain _ (by simp [isQuote])).append (apart.append (plain _ (by simp [isQuote])))
  have quotes : QuotesApart text ([')'] ++ (Junction.and.separator ++ (['('] ++ (other ++ [')'])))) :=
    (plain _ (by simp [isQuote])).append ((plain _ Junction.and.separator_unquoted).append later)
  have joined := (first.group quotes).first .and |>.separated second.group_alone
  exact ⟨[], .conjunction joined, rfl⟩

end Accepts

/-- Accepted texts compose: with space around them, in parentheses, under `NOT`, and joined by `OR` as they are or by
`AND` in parentheses if they share no quote. -/
theorem parse_composed {first second : String} {left right : Expression} (accepted : parse first = .ok left)
    (also : parse second = .ok right) :
    (∀ before after : String, (∀ c ∈ before.toList, isSpace c = true) → (∀ c ∈ after.toList, isSpace c = true) →
      parse (before ++ first ++ after) = .ok left) ∧
    parse ("(" ++ first ++ ")") = .ok left ∧
    parse ("NOT (" ++ first ++ ")") = .ok (.negation left) ∧
    (QuotesApart first.toList second.toList →
      parse (first ++ " OR " ++ second) = .ok (left.or right) ∧
      parse ("(" ++ first ++ ") AND (" ++ second ++ ")") = .ok (left.and right)) := by
  rw [parse_eq_ok_iff] at accepted also
  simp only [parse_eq_ok_iff, String.toList_append]
  refine ⟨?_, ?_, accepted.negated, ?_⟩
  · intro before after leading trailing
    exact accepted.spaced leading trailing
  · exact ⟨[], .conjunction (.operand accepted.group_alone), rfl⟩
  · intro apart
    refine ⟨?_, ?_⟩
    · simpa [Junction.separator] using accepted.or also apart
    · simpa [Junction.separator] using accepted.and also apart

/-- The first text ends in a leaf that took more than its own characters and one with a quote that nothing closes. -/
theorem parse_composed_unpaired :
    parse "it's OR é)" = .ok (.disjunction [.leaf "it's", .leaf "é)"]) ∧ parse "b = \"x" = .ok (.leaf "b = \"x") ∧
      parse "\r\t it's OR é) \n" = .ok (.disjunction [.leaf "it's", .leaf "é)"]) ∧
      parse "(it's OR é))" = .ok (.disjunction [.leaf "it's", .leaf "é)"]) ∧
      parse "NOT (it's OR é))" = .ok (.negation (.disjunction [.leaf "it's", .leaf "é)"])) ∧
      parse "it's OR é) OR b = \"x" = .ok (.disjunction [.leaf "it's", .leaf "é)", .leaf "b = \"x"]) ∧
      parse "(it's OR é)) AND (b = \"x)" =
        .ok (.conjunction [.disjunction [.leaf "it's", .leaf "é)"], .leaf "b = \"x"]) := by
  have accepted : parse "it's OR é)" = .ok (.disjunction [.leaf "it's", .leaf "é)"]) :=
    parse_eq_ok_of_toOption (by decide +kernel)
  have also : parse "b = \"x" = .ok (.leaf "b = \"x") := parse_eq_ok_of_toOption (by decide +kernel)
  have apart : QuotesApart "it's OR é)".toList "b = \"x".toList := by simp [QuotesApart, isQuote]
  obtain ⟨spaced, grouped, negated, joined⟩ := parse_composed accepted also
  exact ⟨accepted, also, spaced "\r\t " " \n" (by simp [isSpace]) (by simp [isSpace]), grouped, negated, joined apart⟩

end FieldLogic.Expression
