import FieldLogic.Expression.Printer
import FieldLogic.Proofs.TextLayout

/-! Reading the written form of a tree. A leaf in it is followed by a separator, a parenthesis or the end, none of
which it can take, so it is read back if it is read alone and no quote that it leaves unpaired comes again. The
written form then derives the tree built anew. -/

namespace FieldLogic.Expression
open Text

namespace Junction

def connective : Junction → Connective
  | and => .and
  | or => .or

def separator : Junction → List Char
  | and => [' ', 'A', 'N', 'D', ' ']
  | or => [' ', 'O', 'R', ' ']

def precedence : Junction → Precedence
  | and => .conjunction
  | or => .disjunction

theorem separator_word (junction : Junction) (after : List Char) :
    ∃ word, junction.separator ++ after = ' ' :: word ∧ Word junction.connective.letters word (' ' :: after) := by
  have blank : ∀ c ∈ (' ' :: after).head?, isWord c = false := by
    intro c member
    cases member
    decide
  cases junction with
  | and => exact ⟨_, rfl, ['A', 'N', 'D'], rfl, by decide, blank⟩
  | or => exact ⟨_, rfl, ['O', 'R'], rfl, by decide, blank⟩

theorem separator_unquoted (junction : Junction) : ∀ c ∈ junction.separator, isQuote c = false := by
  cases junction <;> simp [separator, isQuote]

theorem node_characters (junction : Junction) (operands : List Expression) :
    (junction.node operands).characters = '(' :: joined junction.separator operands ++ [')'] := by
  cases junction <;> simp [node, characters, separator]

end Junction

theorem not_word (after : List Char) :
    Word Connective.not.letters (skipSpace ('N' :: 'O' :: 'T' :: ' ' :: after)) (' ' :: after) := by
  refine ⟨['N', 'O', 'T'], rfl, by decide, ?_⟩
  intro c member
  cases member
  decide

section

variable {captures : List Char → List Char → List Char → Prop} {text rest : List Char} {expression : Expression}

theorem Derives.first (junction : Junction) (derived : Derives captures .operand text rest expression) :
    Derives captures junction.precedence text rest expression := by
  cases junction with
  | and => exact .operand derived
  | or => exact .conjunction (.operand derived)

theorem Derives.join {before after : List Char} {left right : Expression} {junction : Junction}
    (first : Derives captures junction.precedence text before left)
    (word : Word junction.connective.letters (skipSpace before) after)
    (next : Derives captures .operand after rest right) :
    Derives captures junction.precedence text rest (junction.join left right) := by
  cases junction with
  | and => exact .and first word next
  | or => exact .or first word (.operand next)

theorem Derives.whole {junction : Junction} (derived : Derives captures junction.precedence text rest expression) :
    Derives captures .disjunction text rest expression := by
  cases junction with
  | and => exact .conjunction derived
  | or => exact derived

end

private theorem quoted_preceded {c : Char} {junction : Junction} {operands : List Expression} (quote : isQuote c = true)
    (each : ∀ operand ∈ operands, c ∈ operand.characters → ∃ literal ∈ operand.leaves, c ∈ literal.toList)
    (member : c ∈ preceded junction.separator operands) : ∃ literal ∈ allLeaves operands, c ∈ literal.toList := by
  induction operands with
  | nil => cases member
  | cons first others ih =>
    rw [List.forall_mem_cons] at each
    rw [preceded, List.mem_append, List.mem_append] at member
    simp only [allLeaves, List.mem_append]
    rcases member with (separated | here) | later
    · rw [junction.separator_unquoted c separated] at quote
      cases quote
    · obtain ⟨literal, leaf, holds⟩ := each.1 here
      exact ⟨literal, .inl leaf, holds⟩
    · obtain ⟨literal, leaf, holds⟩ := ih each.2 later
      exact ⟨literal, .inr leaf, holds⟩

theorem preceded_cons (separator : List Char) (first : Expression) (others : List Expression) :
    preceded separator (first :: others) = separator ++ joined separator (first :: others) := by
  rw [preceded, joined, List.append_assoc]

theorem joined_subset_preceded (separator : List Char) (operands : List Expression) :
    joined separator operands ⊆ preceded separator operands := by
  cases operands with
  | nil => exact List.Subset.refl _
  | cons first others =>
    rw [preceded_cons]
    exact List.subset_append_right _ _

theorem quoted_characters {c : Char} (quote : isQuote c = true) (expression : Expression) :
    c ∈ expression.characters → ∃ literal ∈ expression.leaves, c ∈ literal.toList := by
  induction expression using induct with
  | leaf text =>
    intro member
    exact ⟨text, by simp [leaves], by simpa [characters] using member⟩
  | node junction operands each =>
    intro member
    have ink : c ≠ '(' ∧ c ≠ ')' := by
      constructor <;> intro same <;> subst same <;> cases quote
    rw [junction.node_characters] at member
    simp only [List.cons_append, List.mem_cons, List.mem_append, List.not_mem_nil, or_false, ink.1, ink.2, false_or]
      at member
    rw [junction.node_leaves]
    exact quoted_preceded quote each (joined_subset_preceded _ _ member)
  | negation operand inner =>
    intro member
    apply inner
    simp only [characters, List.mem_append] at member
    rcases member with (opening | here) | closing
    · have plain : ∀ c ∈ ['(', 'N', 'O', 'T', ' '], isQuote c = false := by simp [isQuote]
      rw [plain c opening] at quote
      cases quote
    · exact here
    · rw [List.mem_singleton.mp closing] at quote
      cases quote

theorem isQuote_of_mem_unpaired {c : Char} {run : Option Char} {afterBlank : Bool} {text : List Char}
    (member : c ∈ unpaired run afterBlank text) : isQuote c = true := by
  fun_induction unpaired run afterBlank text with
  | case1 => cases member
  | case2 _ _ _ _ ih => exact ih member
  | case3 _ _ _ _ _ ih => exact ih member
  | case4 _ _ _ quote _ ih =>
    rcases List.mem_cons.mp member with rfl | member
    · exact quote
    · exact ih member
  | case5 => cases member
  | case6 => cases member
  | case7 _ _ _ _ _ _ ih => exact ih member

/-- The text has no partner for a quote that the leaf leaves unpaired. -/
def Clear (literal : String) (text : List Char) : Prop :=
  ∀ quote ∈ unpaired none true literal.toList, quote ∉ text

/-- Leaves that can be read back one after the other before a text: each is a whole condition text by itself, and none
finds a partner for its quotes behind it. -/
structure Readable (leaves : List String) (after : List Char) : Prop where
  alone : ∀ literal ∈ leaves, Captured (skipSpace literal.toList) literal.toList []
  apart : leaves.Pairwise fun literal later => Clear literal later.toList
  behind : ∀ literal ∈ leaves, Clear literal after

namespace Readable

variable {front back : List String} {after middle : List Char}

theorem before (readable : Readable (front ++ back) after)
    (quotes : ∀ c ∈ middle, isQuote c = true → c ∈ after ∨ ∃ literal ∈ back, c ∈ literal.toList) :
    Readable front middle := by
  obtain ⟨apart, _, across⟩ := List.pairwise_append.mp readable.apart
  refine ⟨fun literal member => readable.alone literal (List.mem_append_left _ member), apart, ?_⟩
  intro literal member quote lone within
  rcases quotes quote within (isQuote_of_mem_unpaired lone) with later | ⟨other, leaf, later⟩
  · exact readable.behind literal (List.mem_append_left _ member) quote lone later
  · exact across literal member other leaf quote lone later

theorem later (readable : Readable (front ++ back) after) : Readable back after := by
  obtain ⟨_, apart, _⟩ := List.pairwise_append.mp readable.apart
  exact ⟨fun literal member => readable.alone literal (List.mem_append_right _ member), apart,
    fun literal member => readable.behind literal (List.mem_append_right _ member)⟩

theorem replace (readable : Readable front after) (quotes : ∀ c ∈ middle, isQuote c = true → c ∈ after) :
    Readable front middle := by
  rw [← List.append_nil front] at readable
  exact readable.before fun c member quote => .inl (quotes c member quote)

theorem close (readable : Readable front after) : Readable front (')' :: after) := by
  refine readable.replace ?_
  intro c member quote
  rcases List.mem_cons.mp member with rfl | member
  · cases quote
  · exact member

end Readable

theorem Readable.first {front : List String} {others : List Expression} {after : List Char} (junction : Junction)
    (readable : Readable (front ++ allLeaves others) (')' :: after)) :
    Readable front (preceded junction.separator others ++ ')' :: after) := by
  apply readable.before
  intro c member quote
  rcases List.mem_append.mp member with row | behind
  · exact .inr (quoted_preceded quote (fun operand _ => quoted_characters quote operand) row)
  · exact .inl behind

theorem closes_preceded (junction : Junction) (others : List Expression) (after : List Char) :
    Closes (preceded junction.separator others ++ ')' :: after) := by
  cases others with
  | nil => exact .parenthesis after
  | cons second others =>
    obtain ⟨word, same, found⟩ := junction.separator_word
      (joined junction.separator (second :: others) ++ ')' :: after)
    rw [preceded_cons, List.append_assoc, same]
    exact .space (by decide) (.inr (startsConnective_iff.mpr ⟨_, _, found⟩))

/-- A leaf that is a condition text by itself is read in front of a text that leaves it as it is. -/
theorem Derives.leaf_before {literal : String} {after : List Char}
    (alone : Captured (skipSpace literal.toList) literal.toList []) (clear : Clear literal after)
    (closes : Closes after) : Derives Captured .operand (literal.toList ++ after) after (.leaf literal) := by
  obtain ⟨c, tail, begins, ink, _⟩ := alone.starts
  have still (text : List Char) : skipSpace (literal.toList ++ text) = literal.toList ++ text := by
    rw [begins, List.cons_append, skipSpace_of_not_isSpace _ ink]
  have found : leaf? literal.toList = some (literal.toList, []) := by
    have same := still []
    rw [List.append_nil] at same
    rw [Captured, same] at alone
    exact alone
  have captured : Captured (skipSpace (literal.toList ++ after)) literal.toList after := by
    rw [still]
    exact leaf?_append found clear closes
  have derived := Derives.leaf captured
  rw [String.ofList_toList] at derived
  exact derived

/-- The written form is read as the tree built anew, before any text that leaves its leaves as they are. -/
def ReadBack (expression : Expression) : Prop :=
  ∀ after, expression.hollow = false → Readable expression.leaves after → Closes after →
    Derives Captured .operand (expression.characters ++ after) after expression.normalize

theorem Derives.preceded {junction : Junction} {others : List Expression} {text after : List Char} {left : Expression}
    (each : ∀ operand ∈ others, ReadBack operand) (solid : ∀ operand ∈ others, operand.hollow = false)
    (readable : Readable (allLeaves others) (')' :: after))
    (begun : Derives Captured junction.precedence text (preceded junction.separator others ++ ')' :: after) left) :
    Derives Captured junction.precedence text (')' :: after) ((others.map normalize).foldl junction.join left) := by
  induction others generalizing left with
  | nil => exact begun
  | cons second others ih =>
    rw [List.forall_mem_cons] at each solid
    rw [Expression.preceded, List.append_assoc, List.append_assoc] at begun
    obtain ⟨word, same, found⟩ := junction.separator_word
      (second.characters ++ (Expression.preceded junction.separator others ++ ')' :: after))
    rw [same] at begun
    have spaced : skipSpace (' ' :: word) = word := found.skipSpace_eq
    rw [← spaced] at found
    have next := each.1 _ solid.1 (readable.first junction) (closes_preceded junction others after)
    rw [List.map_cons, List.foldl_cons]
    apply ih each.2 solid.2 readable.later
    exact begun.join found (next.skip rfl)

theorem readBack (expression : Expression) : ReadBack expression := by
  induction expression using induct with
  | leaf text =>
    intro after _ readable closes
    have listed : text ∈ (leaf text).leaves := List.mem_singleton_self text
    exact .leaf_before (readable.alone text listed) (readable.behind text listed) closes
  | node junction operands each =>
    intro after solid readable closes
    rw [junction.node_hollow, anyHollow_eq_any, Bool.or_eq_false_iff, List.isEmpty_eq_false_iff] at solid
    obtain ⟨first, others, rfl⟩ := List.exists_cons_of_ne_nil solid.1
    simp only [List.any_eq_false, Bool.not_eq_true, List.forall_mem_cons] at solid
    rw [List.forall_mem_cons] at each
    rw [junction.node_leaves, allLeaves] at readable
    have readable := readable.close
    have head := each.1 _ solid.2.1 (readable.first junction) (closes_preceded junction others after)
    have inner := Derives.preceded each.2 solid.2.2 readable.later (head.first junction)
    rw [junction.node_characters, junction.node_normalize, joined]
    simp only [List.cons_append, List.append_assoc, List.nil_append]
    exact .group (skipSpace_of_not_isSpace _ (by decide)) inner.whole (skipSpace_of_not_isSpace _ (by decide))
  | negation operand inner =>
    intro after solid readable closes
    have inner := inner _ solid readable.close (.parenthesis after)
    have word := not_word (operand.characters ++ ')' :: after)
    have negated : Derives Captured .operand ('N' :: 'O' :: 'T' :: ' ' :: (operand.characters ++ ')' :: after))
        (')' :: after) (negation operand.normalize) := .not word (inner.skip rfl)
    simp only [characters, List.cons_append, List.append_assoc, List.nil_append]
    exact .group (skipSpace_of_not_isSpace _ (by decide)) (.conjunction (.operand negated))
      (skipSpace_of_not_isSpace _ (by decide))

/-- The text of a tree is read as the tree built anew if its leaves can be read back and no node is without operands. -/
theorem parse_text {expression : Expression} (solid : expression.hollow = false)
    (readable : Readable expression.leaves []) : parse expression.text = .ok expression.normalize := by
  rw [parse_eq_ok_iff, text, String.toList_ofList]
  have derived := readBack expression [] solid readable .nil
  rw [List.append_nil] at derived
  exact ⟨[], .conjunction (.operand derived), rfl⟩

end FieldLogic.Expression
