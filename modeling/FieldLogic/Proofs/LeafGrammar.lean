import FieldLogic.Proofs.ReaderRun

/-! Leaves as a rule on texts rather than a scan. A leaf ends at the first place outside quoted runs at which a
parenthesis, a connective or the end of the text stands. With it the grammar names no part of the reader, and on
ASCII texts, where every character is one byte, the reader accepts exactly that grammar. -/

namespace FieldLogic.Expression
open Text

/-- The place between two texts lies outside quoted runs. A quote outside opens a run if it comes again, the run ends
with the first repetition, and a quote that never comes again stands for itself. -/
inductive Unquoted : List Char → List Char → Prop where
  | start {after} : Unquoted [] after
  | plain {c before after} (plain : isQuote c = false) (later : Unquoted before after) : Unquoted (c :: before) after
  | lone {c before after} (quote : isQuote c = true) (never : c ∉ before ++ after) (later : Unquoted before after) :
    Unquoted (c :: before) after
  | run {c inner before after} (quote : isQuote c = true) (inside : c ∉ inner) (later : Unquoted before after) :
    Unquoted (c :: (inner ++ c :: before)) after

/-- What ends a leaf behind its text so far: the end of all, a parenthesis, or a connective at the start or after a
blank. -/
inductive Stops (before : List Char) : List Char → Prop where
  | finished : Stops before []
  | parenthesis {c after} (either : c = '(' ∨ c = ')') : Stops before (c :: after)
  | connective {connective : Connective} {after rest} (apart : ∀ c ∈ before.getLast?, isBlank c = true)
    (word : Word connective.letters after rest) : Stops before after

/-- The text of a leaf, with the blanks at its end, before the text behind: it ends at the first place that can end
it. -/
structure Spans (text after : List Char) : Prop where
  unquoted : Unquoted text after
  stops : Stops text after
  first : ∀ earlier later, earlier ++ later = text ++ after → Unquoted earlier later → Stops earlier later →
    text.length ≤ earlier.length

/-- A leaf has no blanks at its end. They are left over with the text behind. -/
inductive LeafOf : List Char → List Char → List Char → Prop where
  | intro {literal blanks after} (spans : Spans (literal ++ blanks) after) (blank : ∀ c ∈ blanks, isBlank c = true)
    (ink : ∃ c ∈ literal.getLast?, isBlank c = false) : LeafOf (literal ++ blanks ++ after) literal (blanks ++ after)

theorem Unquoted.of_plain {before : List Char} (plain : ∀ c ∈ before, isQuote c = false) (after : List Char) :
    Unquoted before after := by
  induction before with
  | nil => exact .start
  | cons c before ih =>
    rw [List.forall_mem_cons] at plain
    exact .plain plain.1 (ih plain.2)

theorem Spans.eq {text after other later : List Char} (spans : Spans text after) (again : Spans other later)
    (same : text ++ after = other ++ later) : text = other ∧ after = later := by
  have most := spans.first other later same.symm again.unquoted again.stops
  have least := again.first text after same spans.unquoted spans.stops
  exact List.append_inj same (Nat.le_antisymm most least)

theorem extent_run {quote : Char} {afterBlank : Bool} {inner after : List Char} (inside : quote ∉ inner) :
    extent (some quote) afterBlank (inner ++ quote :: after) = inner ++ quote :: extent none false after := by
  induction inner generalizing afterBlank with
  | nil => simp [extent]
  | cons c inner ih =>
    rw [List.mem_cons, not_or] at inside
    rw [List.cons_append, extent, if_neg (Ne.symm inside.1), ih inside.2, List.cons_append]

theorem run_unique {quote : Char} {inner other after later : List Char} (inside : quote ∉ inner)
    (within : quote ∉ other) (same : inner ++ quote :: after = other ++ quote :: later) :
    inner = other ∧ after = later := by
  induction inner generalizing other with
  | nil =>
    cases other with
    | nil => exact ⟨rfl, List.tail_eq_of_cons_eq same⟩
    | cons c other =>
      cases same
      exact (within (List.mem_cons_self ..)).elim
  | cons c inner ih =>
    cases other with
    | nil =>
      cases same
      exact (inside (List.mem_cons_self ..)).elim
    | cons d other =>
      rw [List.mem_cons, not_or] at inside within
      rw [List.cons_append, List.cons_append, List.cons.injEq] at same
      obtain ⟨rfl, rfl⟩ := ih inside.2 within.2 same.2
      exact ⟨by rw [same.1], rfl⟩

private theorem not_stops_of_isQuote {c : Char} {before rest : List Char} (quote : isQuote c = true) :
    ¬Stops before (c :: rest) := by
  intro stops
  cases stops with
  | parenthesis either => rcases either with rfl | rfl <;> (revert quote; decide)
  | connective apart word =>
    obtain ⟨first, tail, same, starts⟩ := word.head
    cases same
    rw [isQuote_eq_false_of_isWord starts] at quote
    cases quote

private theorem unquoted_plain {c : Char} {rest earlier later : List Char} (plain : isQuote c = false)
    (place : Unquoted earlier later) (whole : earlier ++ later = c :: rest) :
    earlier = [] ∨ ∃ front, earlier = c :: front ∧ front ++ later = rest ∧ Unquoted front later := by
  cases place with
  | start => exact .inl rfl
  | plain _ place | lone _ _ place =>
    rw [List.cons_append, List.cons.injEq] at whole
    obtain ⟨rfl, whole⟩ := whole
    exact .inr ⟨_, rfl, whole, place⟩
  | run quote _ _ =>
    rw [List.cons_append, List.cons.injEq] at whole
    rw [whole.1, plain] at quote
    cases quote

private theorem unquoted_lone {c : Char} {rest earlier later : List Char} (never : c ∉ rest)
    (place : Unquoted earlier later) (whole : earlier ++ later = c :: rest) :
    earlier = [] ∨ ∃ front, earlier = c :: front ∧ front ++ later = rest ∧ Unquoted front later := by
  cases place with
  | start => exact .inl rfl
  | plain _ place | lone _ _ place =>
    rw [List.cons_append, List.cons.injEq] at whole
    obtain ⟨rfl, whole⟩ := whole
    exact .inr ⟨_, rfl, whole, place⟩
  | run _ _ _ =>
    rw [List.cons_append, List.cons.injEq] at whole
    obtain ⟨rfl, rfl⟩ := whole
    exact (never (by simp)).elim

private theorem unquoted_run {c : Char} {inner tail earlier later : List Char} (quote : isQuote c = true)
    (inside : c ∉ inner) (place : Unquoted earlier later) (whole : earlier ++ later = c :: (inner ++ c :: tail)) :
    earlier = [] ∨ ∃ front, earlier = c :: (inner ++ c :: front) ∧ front ++ later = tail ∧ Unquoted front later := by
  cases place with
  | start => exact .inl rfl
  | plain plain _ =>
    rw [List.cons_append, List.cons.injEq] at whole
    rw [whole.1, quote] at plain
    cases plain
  | lone _ never _ =>
    rw [List.cons_append, List.cons.injEq] at whole
    rw [whole.1, whole.2] at never
    exact (never (by simp)).elim
  | run _ within place =>
    rw [List.cons_append, List.cons.injEq, List.append_assoc, List.cons_append] at whole
    obtain ⟨rfl, whole⟩ := whole
    obtain ⟨rfl, behind⟩ := run_unique within inside whole
    exact .inr ⟨_, rfl, behind, place⟩

/-- What is taken of the text behind the beginning of a leaf reaches up to the first place that can end the leaf. -/
def Takes (before text taken : List Char) : Prop :=
  ∃ after, text = taken ++ after ∧ Unquoted taken after ∧ Stops (before ++ taken) after ∧
    ∀ earlier later, earlier ++ later = text → Unquoted earlier later → Stops (before ++ earlier) later →
      taken.length ≤ earlier.length

namespace Takes

variable {c : Char} {before text taken : List Char}

theorem stop (stops : Stops before text) : Takes before text [] := by
  rw [← List.append_nil before] at stops
  exact ⟨text, rfl, .start, stops, by simp⟩

theorem run {inner : List Char} (quote : isQuote c = true) (inside : c ∉ inner)
    (later : Takes (before ++ c :: (inner ++ [c])) text taken) :
    Takes before (c :: (inner ++ c :: text)) (c :: (inner ++ c :: taken)) := by
  obtain ⟨after, same, unquoted, stops, first⟩ := later
  refine ⟨after, ?_, .run quote inside unquoted, ?_, ?_⟩
  · simpa using same
  · simpa using stops
  · intro earlier later whole place ends
    rcases unquoted_run quote inside place whole with rfl | ⟨front, rfl, whole, place⟩
    · rw [List.nil_append] at whole
      exact (not_stops_of_isQuote quote (whole ▸ ends)).elim
    · have least := first front later whole place (by simpa using ends)
      simp only [List.length_cons, List.length_append]
      omega

theorem lone (quote : isQuote c = true) (never : c ∉ text) (later : Takes (before ++ [c]) text taken) :
    Takes before (c :: text) (c :: taken) := by
  obtain ⟨after, same, unquoted, stops, first⟩ := later
  refine ⟨after, ?_, .lone quote (same ▸ never) unquoted, ?_, ?_⟩
  · rw [List.cons_append, ← same]
  · simpa using stops
  · intro earlier later whole place ends
    rcases unquoted_lone never place whole with rfl | ⟨front, rfl, whole, place⟩
    · rw [List.nil_append] at whole
      exact (not_stops_of_isQuote quote (whole ▸ ends)).elim
    · exact Nat.succ_le_succ (first front later whole place (by simpa using ends))

theorem plain (plain : isQuote c = false) (goes : ¬Stops before (c :: text))
    (later : Takes (before ++ [c]) text taken) : Takes before (c :: text) (c :: taken) := by
  obtain ⟨after, same, unquoted, stops, first⟩ := later
  refine ⟨after, ?_, .plain plain unquoted, ?_, ?_⟩
  · rw [List.cons_append, ← same]
  · simpa using stops
  · intro earlier later whole place ends
    rcases unquoted_plain plain place whole with rfl | ⟨front, rfl, whole, place⟩
    · rw [List.nil_append] at whole
      rw [whole, List.append_nil] at ends
      exact (goes ends).elim
    · exact Nat.succ_le_succ (first front later whole place (by simpa using ends))

end Takes

/-- The scan takes what the rule says. Behind the beginning of a leaf it keeps only whether a blank is the last
character, on which it depends whether a connective ends the leaf. -/
private theorem extent_takes (before text : List Char) (afterBlank : Bool)
    (boundary : afterBlank = true ↔ ∀ c ∈ before.getLast?, isBlank c = true) :
    Takes before text (extent none afterBlank text) := by
  cases text with
  | nil => exact .stop .finished
  | cons c rest =>
    by_cases quote : isQuote c = true
    · have ink := isBlank_eq_false_of_isQuote quote
      by_cases again : c ∈ rest
      · obtain ⟨inner, tail, rfl, inside⟩ := List.eq_append_cons_of_mem again
        have closed : before ++ c :: (inner ++ [c]) = (before ++ c :: inner) ++ [c] := by simp
        have later := extent_takes (before ++ c :: (inner ++ [c])) tail false
          (by rw [closed, List.getLast?_concat]; simp [ink])
        rw [extent, if_pos quote, if_pos again, extent_run inside]
        exact later.run quote inside
      · have later := extent_takes (before ++ [c]) rest false (by simp [ink])
        rw [extent, if_pos quote, if_neg again]
        exact later.lone quote again
    · rw [extent, if_neg quote]
      rw [Bool.not_eq_true] at quote
      split
      next either => exact .stop (.parenthesis either)
      next within =>
        split
        next ends =>
          rw [Bool.and_eq_true] at ends
          obtain ⟨connective, behind, word⟩ := startsConnective_iff.mp ends.2
          exact .stop (.connective (boundary.mp ends.1) word)
        next goes =>
          have stays : ¬Stops before (c :: rest) := by
            intro stops
            cases stops with
            | parenthesis either => exact within either
            | connective apart word =>
              apply goes
              rw [boundary.mpr apart, startsConnective_iff.mpr ⟨_, _, word⟩]
              rfl
          exact (extent_takes (before ++ [c]) rest (isBlank c) (by simp)).plain quote stays
termination_by text.length

theorem spans_extent (text : List Char) :
    ∃ after, text = extent none true text ++ after ∧ Spans (extent none true text) after := by
  obtain ⟨after, same, unquoted, stops, first⟩ := extent_takes [] text true (by simp)
  exact ⟨after, same, unquoted, stops, fun earlier later whole => first earlier later (whole.trans same.symm)⟩

theorem byteLength_of_ascii {text : List Char} (ascii : ∀ c ∈ text, c.toNat < 128) :
    byteLength text = text.length := by
  induction text with
  | nil => rfl
  | cons c rest ih =>
    have one : c.utf8Size = 1 := by
      rw [Char.utf8Size_eq_one_iff, UInt32.le_iff_toNat_le]
      exact Nat.le_of_lt_succ (ascii c (List.mem_cons_self ..))
    have others := ih fun d member => ascii d (List.mem_cons_of_mem _ member)
    rw [byteLength_cons, List.length_cons, one, others, Nat.add_comm]

theorem trimEnd_getLast (text : List Char) : ∀ c ∈ (trimEnd text).getLast?, isBlank c = false := by
  intro c member
  have head := List.head?_dropWhile_not isBlank text.reverse
  rw [trimEnd, List.getLast?_reverse] at member
  rw [Option.mem_def] at member
  simpa only [member] using head

theorem trimEnd_of_getLast {text : List Char} (ink : ∀ c ∈ text.getLast?, isBlank c = false) : trimEnd text = text := by
  cases reversed : text.reverse with
  | nil => rw [trimEnd, reversed, List.reverse_eq_nil_iff.mp reversed]; rfl
  | cons c rest =>
    have last : isBlank c = false := by
      apply ink
      rw [← List.head?_reverse, reversed]
      rfl
    rw [trimEnd, reversed, List.dropWhile_cons_of_neg (by simp [last]), ← reversed, List.reverse_reverse]

theorem captured_iff_leafOf {text literal rest : List Char} (ascii : ∀ c ∈ text, c.toNat < 128) :
    Captured text literal rest ↔ LeafOf text literal rest := by
  obtain ⟨after, same, spans⟩ := spans_extent text
  obtain ⟨blanks, trimmed, blank⟩ := trimEnd_append_blanks (extent none true text)
  have bytes : byteLength (trimEnd (extent none true text)) = (trimEnd (extent none true text)).length := by
    apply byteLength_of_ascii
    intro c member
    apply ascii
    rw [same, ← trimmed]
    simp [member]
  rw [Captured, leaf?_eq_some_iff, bytes]
  constructor
  · intro ⟨whole, nonempty, size⟩
    have split : literal ++ rest = trimEnd (extent none true text) ++ (blanks ++ after) := by
      rw [← whole, ← List.append_assoc, trimmed, ← same]
    obtain ⟨taken, left⟩ := List.append_inj split size
    rw [← trimmed, ← taken] at spans
    have leaf : LeafOf (literal ++ blanks ++ after) literal (blanks ++ after) := by
      refine .intro spans blank ?_
      have last := List.getLast?_eq_some_getLast nonempty
      exact ⟨_, last, trimEnd_getLast (extent none true text) _ (taken ▸ last)⟩
    rw [whole, left]
    simpa using leaf
  · intro leaf
    cases leaf with
    | @intro _ spaces behind again spaced ink =>
      obtain ⟨scanned, _⟩ := spans.eq again same.symm
      obtain ⟨c, last, ink⟩ := ink
      have taken : trimEnd (extent none true (literal ++ spaces ++ behind)) = literal := by
        have padded : Padded literal (literal ++ spaces) := ⟨spaces, rfl, spaced⟩
        rw [scanned, padded.trimEnd]
        apply trimEnd_of_getLast
        intro d member
        rw [Option.mem_unique member last]
        exact ink
      refine ⟨List.append_assoc .., ?_, by rw [taken]⟩
      intro empty
      subst empty
      cases last

/-- The reader accepts an ASCII text with exactly the trees that it derives. -/
theorem parse_eq_ok_iff_derives {text : String} (ascii : ∀ c ∈ text.toList, c.toNat < 128) {expression : Expression} :
    parse text = .ok expression ↔ Accepts LeafOf text.toList expression := by
  have ends (whole rest : List Char) (suffix : rest <:+ whole) (ascii : ∀ c ∈ whole, c.toNat < 128) :
      ∀ c ∈ rest, c.toNat < 128 := fun c member => ascii c (suffix.mem member)
  rw [parse_eq_ok_iff]
  constructor
  · intro ⟨rest, derived, spaces⟩
    refine ⟨rest, derived.mono ends ?_ ?_ ascii, spaces⟩
    · intro text literal rest captured
      rw [(leaf?_eq_some_iff.mp captured).1]
      exact List.suffix_append _ _
    · intro text literal rest ascii captured
      exact (captured_iff_leafOf ascii).mp captured
  · intro ⟨rest, derived, spaces⟩
    refine ⟨rest, derived.mono ends ?_ ?_ ascii, spaces⟩
    · intro text literal rest leaf
      cases leaf with
      | intro spans blank ink =>
        rw [List.append_assoc]
        exact List.suffix_append _ _
    · intro text literal rest ascii leaf
      exact (captured_iff_leafOf ascii).mpr leaf

theorem parse_eq_ok_iff_derives_quoted :
    (∀ c ∈ "NOT (a = 'b or) c' oR d)AND it\"s".toList, c.toNat < 128) ∧
      Accepts LeafOf "NOT (a = 'b or) c' oR d)AND it\"s".toList
        (.conjunction [.negation (.disjunction [.leaf "a = 'b or) c'", .leaf "d"]), .leaf "it\"s"]) := by
  have small : ("NOT (a = 'b or) c' oR d)AND it\"s".toList.all fun c => decide (c.toNat < 128)) = true := by
    decide +kernel
  have ascii : ∀ c ∈ "NOT (a = 'b or) c' oR d)AND it\"s".toList, c.toNat < 128 := by
    intro c member
    exact of_decide_eq_true (List.all_eq_true.mp small c member)
  exact ⟨ascii, (parse_eq_ok_iff_derives ascii).mp (parse_eq_ok_of_toOption (by decide +kernel))⟩

end FieldLogic.Expression
