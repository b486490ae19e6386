import FieldLogic.Proofs.PrintedForm

/-! Trees that were read are read again from their written form. In the text they were read from, each leaf stood
before something that can follow an operand, which fixes how it reads alone, and all leaves behind it were part of the
text that held no partner for its quotes. -/

namespace FieldLogic.Expression
open Text

namespace Readable

variable {front back : List String} {after middle : List Char}

theorem append (first : Readable front middle) (second : Readable back after)
    (covered : ∀ literal ∈ back, literal.toList ⊆ middle) (behind : after ⊆ middle) :
    Readable (front ++ back) after := by
  have absent (text : List Char) (within : text ⊆ middle) (literal : String) (member : literal ∈ front) :
      Clear literal text := by
    intro quote lone later
    exact first.behind literal member quote lone (within later)
  refine ⟨?_, ?_, ?_⟩
  · intro literal member
    rcases List.mem_append.mp member with member | member
    · exact first.alone literal member
    · exact second.alone literal member
  · refine List.pairwise_append.mpr ⟨first.apart, second.apart, ?_⟩
    intro literal member other leaf
    exact absent other.toList (covered other leaf) literal member
  · intro literal member
    rcases List.mem_append.mp member with member | member
    · exact absent after behind literal member
    · exact second.behind literal member

end Readable

/-- The leaves of a tree that was read before something that can stand behind an operand can be read back there. -/
theorem Derives.readable {precedence : Precedence} {text rest : List Char} {expression : Expression}
    (derived : Derives Captured precedence text rest expression) (resumes : Resumes rest) :
    Readable expression.leaves rest := by
  induction derived with
  | @leaf text literal rest captured =>
    obtain ⟨c, tail, begins, ink, _⟩ := captured.starts
    have still : skipSpace literal = literal := by
      rw [begins, skipSpace_of_not_isSpace tail ink]
    have found : leaf? (literal ++ rest) = some (literal, rest) := by
      rw [← (leaf?_eq_some_iff.mp captured).1]
      exact captured
    obtain ⟨alone, clear⟩ := leaf?_cut found resumes
    refine ⟨?_, List.pairwise_singleton _ _, ?_⟩
    · intro other member
      rw [List.mem_singleton.mp member, String.toList_ofList, still]
      exact alone
    · intro other member
      rw [List.mem_singleton.mp member, Clear, String.toList_ofList]
      exact clear
  | @group text inside ended rest expression opening inner closing ih =>
    have behind := suffix_of_skipSpace closing
    exact (ih (.closing closing)).replace fun c member _ => behind.subset member
  | not word inner ih => exact ih resumes
  | operand only ih | conjunction only ih => exact ih resumes
  | and first word next before behind | or first word next before behind =>
    have left := before (.connective (by decide) word)
    have right := behind resumes
    obtain ⟨ends, holds⟩ := next.subset
    simp only [leaves_and, leaves_or]
    have later := word.suffix.subset
    refine left.append right ?_ (List.Subset.trans ends later)
    intro literal member
    exact List.Subset.trans (holds literal member) later

/-- A tree that was read is read again from its written form. -/
theorem parse_text_of_parse {text : String} {expression : Expression} (parsed : parse text = .ok expression) :
    parse expression.text = .ok expression := by
  obtain ⟨rest, derived, spaces⟩ := parse_eq_ok_iff.mp parsed
  have canonical := derived.canonical
  have readable : Readable expression.leaves [] := (derived.readable (.finished spaces)).replace (by simp)
  have printed := parse_text canonical.solid readable
  rw [canonical.normalize] at printed
  exact printed

theorem parse_text_of_parse_unpaired :
    parse "not (é) AND not b) OR it's" =
        .ok (.disjunction [.negation (.conjunction [.leaf "é)", .negation (.leaf "b")]), .leaf "it's"]) ∧
      parse "((NOT (é) AND (NOT b))) OR it's)" =
        .ok (.disjunction [.negation (.conjunction [.leaf "é)", .negation (.leaf "b")]), .leaf "it's"]) := by
  have parsed : parse "not (é) AND not b) OR it's" =
      .ok (.disjunction [.negation (.conjunction [.leaf "é)", .negation (.leaf "b")]), .leaf "it's"]) :=
    parse_eq_ok_of_toOption (by decide +kernel)
  have again := parse_text_of_parse parsed
  have written : (disjunction [negation (conjunction [leaf "é)", negation (leaf "b")]), leaf "it's"]).text =
      "((NOT (é) AND (NOT b))) OR it's)" := by decide +kernel
  rw [written] at again
  exact ⟨parsed, again⟩

end FieldLogic.Expression
