import FieldLogic.Proofs.FaultPlaces
import FieldLogic.Proofs.LeafGrammar
import FieldLogic.Proofs.Normalization
import FieldLogic.Proofs.RoundTrip

/-! Bare texts, in which nothing ends a leaf. The extent of such a text is the whole of it, but a leaf takes as many
characters as its extent has bytes. So the text is a leaf exactly if it has one byte for each character: a text with a
character outside ASCII is refused alone, and takes more than itself in front of others. -/

namespace FieldLogic.Text

theorem trim_eq_self {text : List Char} (trimmed : trim text = text) : trimStart text = text ∧ trimEnd text = text := by
  have suffix : trimStart text <:+ text := List.dropWhile_suffix isBlank
  obtain ⟨blanks, same, _⟩ := trimEnd_append_blanks (trimStart text)
  have size := congrArg List.length same
  have whole : (trimEnd (trimStart text)).length = text.length := congrArg List.length trimmed
  rw [List.length_append, whole] at size
  have short := suffix.length_le
  have start : trimStart text = text := suffix.eq_of_length (by omega)
  refine ⟨start, ?_⟩
  rw [trim, start] at trimmed
  exact trimmed

theorem ascii_of_byteLength {text : List Char} (same : byteLength text = text.length) : ∀ c ∈ text, c.toNat < 128 := by
  induction text with
  | nil => simp
  | cons c rest ih =>
    have least := length_le_byteLength rest
    have positive := c.utf8Size_pos
    rw [byteLength_cons, List.length_cons] at same
    have one : c.utf8Size = 1 := by omega
    rw [Char.utf8Size_eq_one_iff, UInt32.le_iff_toNat_le] at one
    rw [List.forall_mem_cons]
    exact ⟨Nat.lt_succ_of_le one, ih (by omega)⟩

end FieldLogic.Text

namespace FieldLogic.Expression
open Text

/-- One stretch of text, with no blanks around it and nothing in it at which a leaf could end or look ahead. -/
structure Bare (text : List Char) : Prop where
  nonempty : text ≠ []
  trimmed : trim text = text
  unquoted : ∀ c ∈ text, isQuote c = false
  flat : ∀ c ∈ text, ¬(c = '(' ∨ c = ')')
  wordless : ∀ before after, text = before ++ after → (∀ c ∈ before.getLast?, isBlank c = true) →
    ∀ connective rest, ¬Word (Connective.letters connective) after rest

namespace Bare

variable {text : List Char}

theorem extent (bare : Bare text) : extent none true text = text := by
  obtain ⟨after, same, spans⟩ := spans_extent text
  have nothing : after = [] := by
    cases spans.stops with
    | finished => rfl
    | @parenthesis c rest either =>
      refine (bare.flat c ?_ either).elim
      rw [same]
      simp
    | connective apart word => exact (bare.wordless _ _ same apart _ _ word).elim
  rw [nothing, List.append_nil] at same
  exact same.symm

theorem of_extent (nonempty : text ≠ []) (trimmed : trim text = text) (unquoted : ∀ c ∈ text, isQuote c = false)
    (whole : Expression.extent none true text = text) : Bare text := by
  obtain ⟨after, same, spans⟩ := spans_extent text
  rw [whole] at same spans
  have nothing : after = [] := List.self_eq_append_right.mp same
  subst nothing
  have goes (before later : List Char) (split : text = before ++ later) (behind : later ≠ []) :
      ¬Stops before later := by
    intro stops
    have plain : ∀ c ∈ before, isQuote c = false := fun c member => unquoted c (by simp [split, member])
    have least := spans.first before later (by simp [split]) (.of_plain plain later) stops
    rw [split, List.length_append] at least
    exact behind (List.eq_nil_of_length_eq_zero (by omega))
  refine ⟨nonempty, trimmed, unquoted, ?_, ?_⟩
  · intro c member either
    obtain ⟨before, later, split⟩ := List.append_of_mem member
    exact goes before (c :: later) split (List.cons_ne_nil _ _) (.parenthesis either)
  · intro before later split apart connective rest word
    obtain ⟨c, tail, begins, _⟩ := word.head
    exact goes before later split (by simp [begins]) (.connective apart word)

theorem skipSpace (bare : Bare text) : skipSpace text = text := by
  obtain ⟨c, rest, rfl⟩ := List.exists_cons_of_ne_nil bare.nonempty
  refine skipSpace_of_not_isSpace rest ?_
  rw [← Bool.not_eq_true]
  intro space
  have start := (trim_eq_self bare.trimmed).1
  rw [trimStart, List.dropWhile_cons_of_pos (isSpace_isBlank space)] at start
  have short := (List.dropWhile_suffix isBlank : rest.dropWhile isBlank <:+ rest).length_le
  rw [start, List.length_cons] at short
  omega

theorem captured_iff (bare : Bare text) : Captured (Text.skipSpace text) text [] ↔ ∀ c ∈ text, c.toNat < 128 := by
  rw [Captured, leaf?_eq_some_iff, bare.skipSpace, bare.extent, (trim_eq_self bare.trimmed).2]
  constructor
  · rintro ⟨_, _, size⟩
    exact ascii_of_byteLength size.symm
  · intro ascii
    exact ⟨(List.append_nil text).symm, bare.nonempty, (byteLength_of_ascii ascii).symm⟩

/-- A bare text with more bytes than characters is too short for its own leaf. -/
theorem read_eq_error (bare : Bare text) (wide : ¬∀ c ∈ text, c.toNat < 128) : read text = .error ⟨text, 1⟩ := by
  have stops (token : Token) (rest : List Char) : ¬Reads .operand (Text.skipSpace text) token rest := by
    intro reads
    rw [bare.skipSpace] at reads
    cases reads with
    | @leaf _ literal _ captured =>
      obtain ⟨whole, _, size⟩ := leaf?_eq_some_iff.mp captured
      rw [bare.extent, (trim_eq_self bare.trimmed).2] at size
      have taken := congrArg List.length whole
      rw [List.length_append] at taken
      have least := length_le_byteLength text
      exact wide (ascii_of_byteLength (by omega))
    | opening begins => exact bare.flat '(' (by simp [begins]) (.inl rfl)
    | not word => exact bare.wordless [] text rfl (by simp) _ _ word
  calc read text
    _ = State.start.resume text := rfl
    _ = State.start.finish (Text.skipSpace text) := State.resume_stop stops
    _ = .error ⟨text, 1⟩ := by rw [bare.skipSpace]; rfl

theorem quotesApart (bare : Bare text) (after : List Char) : QuotesApart text after := by
  intro c member quote
  rw [bare.unquoted c member] at quote
  cases quote

end Bare

theorem Bare.derives {literal : String} (bare : Bare literal.toList) (ascii : ∀ c ∈ literal.toList, c.toNat < 128) :
    Derives Captured .operand literal.toList [] (.leaf literal) := by
  have derived := Derives.leaf (bare.captured_iff.mpr ascii)
  rw [String.ofList_toList] at derived
  exact derived

theorem Bare.ascii {text literal : String} {expression : Expression} (bare : Bare literal.toList)
    (parsed : parse text = .ok expression) (member : literal ∈ expression.leaves) :
    ∀ c ∈ literal.toList, c.toNat < 128 := by
  obtain ⟨rest, derived, spaces⟩ := parse_eq_ok_iff.mp parsed
  exact bare.captured_iff.mp ((derived.readable (.finished spaces)).alone literal member)

theorem parse_bare_and {first second : String} (bare : Bare first.toList) (other : Bare second.toList)
    (ascii : ∀ c ∈ first.toList, c.toNat < 128) (also : ∀ c ∈ second.toList, c.toNat < 128) :
    parse (first ++ " AND " ++ second) = .ok (.conjunction [.leaf first, .leaf second]) := by
  have before := (bare.derives ascii).append (closes_separator .and second.toList) (bare.quotesApart _)
  have joined := (before.first .and).separated (other.derives also)
  have whole : (first ++ " AND " ++ second).toList = first.toList ++ (Junction.and.separator ++ second.toList) := by
    simp [Junction.separator]
  rw [parse_eq_ok_iff, whole]
  exact ⟨[], .conjunction joined, rfl⟩

/-- A bare text is a leaf exactly if it is ASCII, and refused at its start otherwise; two of them are joined by `AND`
exactly if both are. -/
theorem parse_bare_iff_ascii {first second : String} (bare : Bare first.toList) (other : Bare second.toList) :
    (parse first = .ok (.leaf first) ↔ ∀ c ∈ first.toList, c.toNat < 128) ∧
    ((∃ c ∈ first.toList, 128 ≤ c.toNat) → parse first = .error ⟨first, 0, 1⟩) ∧
    (parse (first ++ " AND " ++ second) = .ok (.conjunction [.leaf first, .leaf second]) ↔
      (∀ c ∈ first.toList, c.toNat < 128) ∧ ∀ c ∈ second.toList, c.toNat < 128) := by
  refine ⟨?_, ?_, ?_⟩
  · rw [parse_leaf_iff]
    exact bare.captured_iff
  · rintro ⟨c, member, wide⟩
    have refused := bare.read_eq_error fun ascii => Nat.not_lt.mpr wide (ascii c member)
    exact parse_eq_error (List.nil_append first.toList).symm refused
  · constructor
    · intro parsed
      exact ⟨bare.ascii parsed (by simp [leaves, allLeaves]), other.ascii parsed (by simp [leaves, allLeaves])⟩
    · rintro ⟨ascii, also⟩
      exact parse_bare_and bare other ascii also

/-- Words that only begin like connectives belong to the leaf. -/
theorem parse_bare_iff_ascii_words :
    Bare "android > 1".toList ∧ Bare "kind = or_else notes".toList ∧
      parse "android > 1" = .ok (.leaf "android > 1") ∧
      parse "android > 1 AND kind = or_else notes" =
        .ok (.conjunction [.leaf "android > 1", .leaf "kind = or_else notes"]) := by
  have bare : Bare "android > 1".toList :=
    .of_extent (by simp) (by decide +kernel) (by simp [isQuote]) (by decide +kernel)
  have other : Bare "kind = or_else notes".toList :=
    .of_extent (by simp) (by decide +kernel) (by simp [isQuote]) (by decide +kernel)
  obtain ⟨alone, _, joined⟩ := parse_bare_iff_ascii bare other
  exact ⟨bare, other, alone.mpr (by simp), joined.mpr ⟨by simp, by simp⟩⟩

/-- Five characters of six bytes: the leaf asks for one character more than there is. -/
theorem parse_bare_accented :
    Bare "é = 1".toList ∧ parse "é = 1" ≠ .ok (.leaf "é = 1") ∧ parse "é = 1" = .error ⟨"é = 1", 0, 1⟩ := by
  have bare : Bare "é = 1".toList :=
    .of_extent (by simp) (by decide +kernel) (by simp [isQuote]) (by decide +kernel)
  have refused : parse "é = 1" = .error ⟨"é = 1", 0, 1⟩ :=
    parse_eq_error (List.nil_append "é = 1".toList).symm (bare.read_eq_error (by simp))
  refine ⟨bare, ?_, refused⟩
  rw [refused]
  nofun

end FieldLogic.Expression
