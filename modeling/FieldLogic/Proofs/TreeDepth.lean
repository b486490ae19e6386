import FieldLogic.Proofs.LeafGrammar
import FieldLogic.Proofs.TreeShape
import Mathlib.Data.List.Infix

/-! How deep trees grow. Each level of parentheses adds at most a disjunction and a conjunction to a tree, and each `NOT`
a negation, while a chain of any length is one node. Where no quote hides a parenthesis and every character is one byte,
the parentheses of the tokens are those of the text, so its nesting and its `NOT`s bound the depth of its tree. -/

namespace FieldLogic.Expression
open Text

mutual

/-- A leaf has depth one, and every other node is one deeper than its deepest operand. -/
def depth : Expression → Nat
  | leaf _ => 1
  | conjunction operands | disjunction operands => greatestDepth operands + 1
  | negation operand => operand.depth + 1

def greatestDepth : List Expression → Nat
  | [] => 0
  | first :: others => max first.depth (greatestDepth others)

end

theorem greatestDepth_le_iff {operands : List Expression} {bound : Nat} :
    greatestDepth operands ≤ bound ↔ ∀ operand ∈ operands, operand.depth ≤ bound := by
  induction operands with
  | nil => simp [greatestDepth]
  | cons first others ih => rw [greatestDepth, Nat.max_le, ih, List.forall_mem_cons]

namespace Junction

variable (junction : Junction)

theorem node_depth (operands : List Expression) : (junction.node operands).depth = greatestDepth operands + 1 := by
  cases junction <;> simp [node, depth]

variable {expression : Expression} {bound : Nat}

theorem depth_le_of_operands (each : ∀ operand ∈ junction.operands expression, operand.depth ≤ bound) :
    expression.depth ≤ bound + 1 := by
  by_cases same : expression.junction? = some junction
  · rw [eq_node same, node_depth]
    exact Nat.succ_le_succ (greatestDepth_le_iff.mpr each)
  · rw [operands_of_ne same] at each
    exact Nat.le_succ_of_le (each expression (List.mem_singleton_self _))

theorem operands_depth_le (small : expression.depth ≤ bound) :
    ∀ operand ∈ junction.operands expression, operand.depth ≤ bound := by
  by_cases same : expression.junction? = some junction
  · rw [eq_node same, node_depth] at small
    exact greatestDepth_le_iff.mp (Nat.le_of_succ_le small)
  · rw [operands_of_ne same]
    simpa using small

end Junction

/-- The largest excess of opening over closing parentheses in a front of the text. The empty front has none. -/
def parenthesisDepth (text : List Char) : Nat :=
  (text.inits.map fun front => front.count '(' - front.count ')').max?.getD 0

/-- How often the letters of `NOT` stand in the text in either case, also within other words. -/
def negationSpellings (text : List Char) : Nat :=
  text.tails.countP fun tail => Connective.not.letters.isPrefixOf (tail.map Char.toLower)

theorem parenthesisDepth_le_iff {text : List Char} {bound : Nat} :
    parenthesisDepth text ≤ bound ↔ ∀ front, front <+: text → front.count '(' ≤ front.count ')' + bound := by
  have begun : (text.inits.map fun front => front.count '(' - front.count ')') ≠ [] := by
    cases text <;> simp
  obtain ⟨most, largest⟩ := Option.isSome_iff_exists.mp (List.isSome_max?_of_ne_nil begun)
  rw [parenthesisDepth, largest, Option.getD_some, List.max?_le_iff largest]
  simp only [List.forall_mem_map, List.mem_inits, Nat.sub_le_iff_le_add']

theorem negationSpellings_cons (c : Char) (text : List Char) :
    negationSpellings (c :: text) =
      negationSpellings text + if Connective.not.letters.isPrefixOf ((c :: text).map Char.toLower) then 1 else 0 := by
  rw [negationSpellings, List.tails_cons, List.countP_cons, negationSpellings]

theorem negationSpellings_le_of_suffix {rest text : List Char} (suffix : rest <:+ text) :
    negationSpellings rest ≤ negationSpellings text := by
  obtain ⟨front, rfl⟩ := suffix
  induction front with
  | nil => exact Nat.le_refl _
  | cons c front ih =>
    rw [List.cons_append, negationSpellings_cons]
    exact Nat.le_add_right_of_le ih

theorem negationSpellings_of_word {text rest : List Char} (word : Word Connective.not.letters text rest) :
    negationSpellings rest + 1 ≤ negationSpellings text := by
  obtain ⟨spelling, rfl, spelled, _⟩ := word
  cases spelling with
  | nil => cases spelled
  | cons letter spelling =>
    have here : Connective.not.letters.isPrefixOf ((letter :: (spelling ++ rest)).map Char.toLower) = true := by
      rw [← List.cons_append, List.map_append, spelled, List.isPrefixOf_iff_prefix]
      exact List.prefix_append _ _
    have later := negationSpellings_le_of_suffix (List.suffix_append spelling rest)
    rw [List.cons_append, negationSpellings_cons, if_pos here]
    exact Nat.succ_le_succ later

/-- What stands in the text before the rest opens as many parentheses as it closes. -/
def Balances (text rest : List Char) : Prop :=
  ∃ used, text = used ++ rest ∧ used.count '(' = used.count ')'

namespace Balances

variable {text middle rest : List Char}

theorem trans (first : Balances text middle) (later : Balances middle rest) : Balances text rest := by
  obtain ⟨front, rfl, even⟩ := first
  obtain ⟨back, rfl, level⟩ := later
  refine ⟨front ++ back, (List.append_assoc ..).symm, ?_⟩
  rw [List.count_append, List.count_append, even, level]

theorem plain {used : List Char} (plain : ∀ c ∈ used, ¬(c = '(' ∨ c = ')')) (rest : List Char) :
    Balances (used ++ rest) rest := by
  refine ⟨used, rfl, ?_⟩
  rw [List.count_eq_zero.mpr fun member => plain _ member (.inl rfl),
    List.count_eq_zero.mpr fun member => plain _ member (.inr rfl)]

theorem space (text : List Char) : Balances text (skipSpace text) := by
  have spaces : ∀ c ∈ text.takeWhile isSpace, ¬(c = '(' ∨ c = ')') := fun c member =>
    not_parenthesis_of_isBlank (isSpace_isBlank (List.all_eq_true.mp List.all_takeWhile c member))
  have before := plain spaces (skipSpace text)
  rw [skipSpace, List.takeWhile_append_dropWhile] at before
  exact before

theorem word {connective : Connective} (found : Word connective.letters (skipSpace text) rest) :
    Balances text rest := by
  have before := space text
  obtain ⟨spelling, same, spelled, _⟩ := found
  rw [same] at before
  exact before.trans (plain (fun c member => not_parenthesis_of_isWord (isWord_of_mem_spelling spelled member)) rest)

theorem group {inside ended : List Char} (opening : skipSpace text = '(' :: inside) (inner : Balances inside ended)
    (closing : skipSpace ended = ')' :: rest) : Balances text rest := by
  have before := space text
  have behind := inner.trans (space ended)
  rw [opening] at before
  rw [closing] at behind
  obtain ⟨used, rfl, even⟩ := behind
  refine before.trans ⟨'(' :: (used ++ [')']), by simp, ?_⟩
  simp [List.count_append, even]

theorem suffix (balances : Balances text rest) : rest <:+ text := by
  obtain ⟨used, rfl, _⟩ := balances
  exact List.suffix_append used rest

end Balances

theorem parenthesisDepth_behind {used : List Char} {opened : Nat} (ahead : used.count '(' = used.count ')' + opened)
    (rest : List Char) : parenthesisDepth rest + opened ≤ parenthesisDepth (used ++ rest) := by
  have excess := parenthesisDepth_le_iff.mp (Nat.le_refl (parenthesisDepth (used ++ rest)))
  have start := excess used (List.prefix_append used rest)
  have least : parenthesisDepth rest ≤ parenthesisDepth (used ++ rest) - opened := by
    refine parenthesisDepth_le_iff.mpr ?_
    intro front begins
    have behind := excess (used ++ front) ((List.prefix_append_right_inj used).mpr begins)
    rw [List.count_append, List.count_append] at behind
    omega
  omega

theorem Balances.parenthesisDepth_le {text rest : List Char} (balances : Balances text rest) :
    parenthesisDepth rest ≤ parenthesisDepth text := by
  obtain ⟨used, rfl, even⟩ := balances
  have nothing : used.count '(' = used.count ')' + 0 := even
  exact parenthesisDepth_behind nothing rest

/-- How deep an operand at the beginning of a text can be. -/
def allowance (text : List Char) : Nat := 2 * parenthesisDepth text + negationSpellings text + 1

theorem Balances.allowance_le {text rest : List Char} (balances : Balances text rest) :
    allowance rest ≤ allowance text := by
  have nested := balances.parenthesisDepth_le
  have fewer := negationSpellings_le_of_suffix balances.suffix
  rw [allowance, allowance]
  omega

theorem allowance_not {text after : List Char} (word : Word Connective.not.letters (skipSpace text) after) :
    allowance after + 1 ≤ allowance text := by
  have nested := (Balances.word word).parenthesisDepth_le
  have fewer := negationSpellings_le_of_suffix (skipSpace_suffix text)
  have spelled := negationSpellings_of_word word
  rw [allowance, allowance]
  omega

/-- A parenthesis leaves room for the disjunction and the conjunctions that it can hold. -/
theorem allowance_group {text inside : List Char} (opening : skipSpace text = '(' :: inside) :
    allowance inside + 2 ≤ allowance text := by
  have before := (Balances.space text).parenthesisDepth_le
  rw [opening] at before
  have nested : parenthesisDepth inside + 1 ≤ parenthesisDepth ('(' :: inside) :=
    parenthesisDepth_behind (by decide : ['('].count '(' = ['('].count ')' + 1) inside
  have fewer := negationSpellings_le_of_suffix (suffix_of_skipSpace opening)
  rw [allowance, allowance]
  omega

/-- What the operands of a tree read at each precedence keep to. A bound on the depth of the tree itself would not be
kept by joining, which cannot tell a node of its own from one that came out of a parenthesis. -/
def Fits (bound : Nat) : Precedence → Expression → Prop
  | .operand, expression => expression.depth ≤ bound
  | .conjunction, expression => ∀ operand ∈ expression.conjuncts, operand.depth ≤ bound
  | .disjunction, expression => ∀ operand ∈ expression.disjuncts, operand.depth ≤ bound + 1

namespace Fits

variable {bound : Nat} {expression left right : Expression}

theorem conjunction_depth (fits : Fits bound .conjunction expression) : expression.depth ≤ bound + 1 :=
  Junction.and.depth_le_of_operands fits

theorem disjunction_depth (fits : Fits bound .disjunction expression) : expression.depth ≤ bound + 2 :=
  Junction.or.depth_le_of_operands fits

theorem conjunction (fits : Fits bound .operand expression) : Fits bound .conjunction expression :=
  Junction.and.operands_depth_le fits

theorem disjunction (fits : Fits bound .conjunction expression) : Fits bound .disjunction expression :=
  Junction.or.operands_depth_le fits.conjunction_depth

theorem and (first : Fits bound .conjunction left) (next : Fits bound .conjunction right) :
    Fits bound .conjunction (left.and right) := by
  rw [Fits, conjuncts_and, List.forall_mem_append]
  exact ⟨first, next⟩

theorem or (first : Fits bound .disjunction left) (next : Fits bound .disjunction right) :
    Fits bound .disjunction (left.or right) := by
  rw [Fits, disjuncts_or, List.forall_mem_append]
  exact ⟨first, next⟩

theorem mono {more : Nat} {precedence : Precedence} (fits : Fits bound precedence expression) (least : bound ≤ more) :
    Fits more precedence expression := by
  cases precedence with
  | operand => exact Nat.le_trans fits least
  | conjunction => exact fun operand member => Nat.le_trans (fits operand member) least
  | disjunction => exact fun operand member => Nat.le_trans (fits operand member) (Nat.succ_le_succ least)

end Fits

/-- A leaf at the front of a text, of which no parenthesis is part. -/
def Flat (text literal rest : List Char) : Prop := text = literal ++ rest ∧ ∀ c ∈ literal, ¬(c = '(' ∨ c = ')')

theorem Derives.balances {precedence : Precedence} {text rest : List Char} {expression : Expression}
    (derived : Derives Flat precedence text rest expression) : Balances text rest := by
  induction derived with
  | @leaf text literal rest captured =>
    have before := Balances.space text
    rw [captured.1] at before
    exact before.trans (.plain captured.2 rest)
  | group opening inner closing ih => exact .group opening ih closing
  | not word inner ih => exact (Balances.word word).trans ih
  | operand only ih | conjunction only ih => exact ih
  | and first word next before behind | or first word next before behind =>
    exact before.trans ((Balances.word word).trans behind)

/-- A tree read off the front of a text keeps to what the text allows. -/
theorem Derives.fits {precedence : Precedence} {text rest : List Char} {expression : Expression}
    (derived : Derives Flat precedence text rest expression) : Fits (allowance text) precedence expression := by
  induction derived with
  | @leaf text literal rest captured =>
    have least : 1 ≤ allowance text := Nat.le_add_left 1 _
    exact least
  | group opening inner closing ih => exact Nat.le_trans ih.disjunction_depth (allowance_group opening)
  | not word inner ih => exact Nat.le_trans (Nat.succ_le_succ ih) (allowance_not word)
  | operand only ih => exact ih.conjunction
  | conjunction only ih => exact ih.disjunction
  | and first word next before behind =>
    have ahead := first.balances.trans (Balances.word word)
    exact before.and (Fits.mono behind ahead.allowance_le).conjunction
  | or first word next before behind =>
    have ahead := first.balances.trans (Balances.word word)
    exact before.or (behind.mono ahead.allowance_le).disjunction

theorem LeafOf.flat {text literal rest : List Char} (leaf : LeafOf text literal rest)
    (unquoted : ∀ c ∈ text, isQuote c = false) : Flat text literal rest := by
  cases leaf with
  | @intro _ blanks after spans blank ink =>
    refine ⟨List.append_assoc .., ?_⟩
    intro c member either
    obtain ⟨before, later, rfl⟩ := List.append_of_mem member
    have plain : ∀ c ∈ before, isQuote c = false := fun c member => unquoted c (by simp [member])
    have place : Unquoted before (c :: (later ++ blanks ++ after)) := .of_plain plain _
    have least := spans.first before _ (by simp) place (.parenthesis either)
    simp only [List.length_append, List.length_cons] at least
    omega

theorem Derives.flat {precedence : Precedence} {text rest : List Char} {expression : Expression}
    (derived : Derives Captured precedence text rest expression)
    (plain : ∀ c ∈ text, c.toNat < 128 ∧ isQuote c = false) : Derives Flat precedence text rest expression := by
  have ends (whole rest : List Char) (suffix : rest <:+ whole)
      (plain : ∀ c ∈ whole, c.toNat < 128 ∧ isQuote c = false) : ∀ c ∈ rest, c.toNat < 128 ∧ isQuote c = false :=
    fun c member => plain c (suffix.mem member)
  refine derived.mono ends ?_ ?_ plain
  · intro text literal rest captured
    rw [(leaf?_eq_some_iff.mp captured).1]
    exact List.suffix_append _ _
  · intro text literal rest plain captured
    have leaf := (captured_iff_leafOf fun c member => (plain c member).1).mp captured
    exact leaf.flat fun c member => (plain c member).2

/-- The depth of the tree of a text is bounded by the nesting of its parentheses and its `NOT`s, whatever the length
of its chains. -/
theorem parse_depth_le {text : String} (ascii : ∀ c ∈ text.toList, c.toNat < 128)
    (unquoted : ∀ c ∈ text.toList, isQuote c = false) {expression : Expression}
    (parsed : parse text = .ok expression) :
    expression.depth ≤ 2 * parenthesisDepth text.toList + negationSpellings text.toList + 3 := by
  obtain ⟨rest, derived, _⟩ := parse_eq_ok_iff.mp parsed
  have flat := derived.flat fun c member => ⟨ascii c member, unquoted c member⟩
  exact flat.fits.disjunction_depth

/-- The bound is reached where each level of parentheses holds a disjunction of conjunctions. -/
theorem parse_depth_le_reached :
    (∀ c ∈ "a OR b AND nOT (c OR d AND (e Or f and g))".toList, c.toNat < 128) ∧
      (∀ c ∈ "a OR b AND nOT (c OR d AND (e Or f and g))".toList, isQuote c = false) ∧
      ∃ expression, parse "a OR b AND nOT (c OR d AND (e Or f and g))" = .ok expression ∧
        expression.depth ≤ 2 * parenthesisDepth "a OR b AND nOT (c OR d AND (e Or f and g))".toList +
          negationSpellings "a OR b AND nOT (c OR d AND (e Or f and g))".toList + 3 ∧
        expression.depth = 8 ∧ parenthesisDepth "a OR b AND nOT (c OR d AND (e Or f and g))".toList = 2 ∧
        negationSpellings "a OR b AND nOT (c OR d AND (e Or f and g))".toList = 1 := by
  have small : ("a OR b AND nOT (c OR d AND (e Or f and g))".toList.all fun c =>
      decide (c.toNat < 128) && !isQuote c) = true := by
    decide +kernel
  simp only [List.all_eq_true, Bool.and_eq_true, decide_eq_true_eq, Bool.not_eq_true'] at small
  have ascii : ∀ c ∈ "a OR b AND nOT (c OR d AND (e Or f and g))".toList, c.toNat < 128 :=
    fun c member => (small c member).1
  have unquoted : ∀ c ∈ "a OR b AND nOT (c OR d AND (e Or f and g))".toList, isQuote c = false :=
    fun c member => (small c member).2
  have parsed : parse "a OR b AND nOT (c OR d AND (e Or f and g))" =
      .ok (.disjunction [.leaf "a", .conjunction [.leaf "b", .negation (.disjunction [.leaf "c", .conjunction
        [.leaf "d", .disjunction [.leaf "e", .conjunction [.leaf "f", .leaf "g"]]]])]]) :=
    parse_eq_ok_of_toOption (by decide +kernel)
  have bounded := parse_depth_le ascii unquoted parsed
  exact ⟨ascii, unquoted, _, parsed, bounded, rfl, by decide +kernel, by decide +kernel⟩

end FieldLogic.Expression
