import FieldLogic.Condition.Basic
import FieldLogic.Proofs.LeafExtent

/-! Conditions written and taken apart. A name, a token and an operand with a space between each two part again at that
token, unless the name holds it or a part holds a token that is searched for earlier. Two tokens have a space inside,
but neither is put together from the end of one part and the beginning of the next. -/

namespace FieldLogic.Text

theorem prefix_around {c : Char} {token front back : List Char} (begins : token <+: front ++ c :: back) :
    token <+: front ∨ ∃ right, token = front ++ c :: right ∧ right <+: back := by
  rcases List.prefix_or_prefix_of_prefix begins (List.prefix_append front _) with short | ⟨tail, rfl⟩
  · exact .inl short
  · rw [List.prefix_append_right_inj, List.prefix_cons_iff] at begins
    rcases begins with rfl | ⟨right, rfl, behind⟩
    · exact .inl (by simp)
    · exact .inr ⟨right, rfl, behind⟩

/-- A run of characters around a separating character lies on one side of it or goes across. -/
theorem infix_around {c : Char} {token front back : List Char} (found : token <:+: front ++ c :: back) :
    token <:+: front ∨ token <:+: back ∨
      ∃ left right, token = left ++ c :: right ∧ left <:+ front ∧ right <+: back := by
  induction front with
  | nil =>
    rcases List.infix_cons_iff.mp found with begins | later
    · rcases prefix_around (show token <+: [] ++ c :: back from begins) with short | ⟨right, split, behind⟩
      · exact .inl short.isInfix
      · exact .inr (.inr ⟨[], right, split, List.suffix_rfl, behind⟩)
    · exact .inr (.inl later)
  | cons d front ih =>
    rcases List.infix_cons_iff.mp found with begins | later
    · rcases prefix_around (show token <+: d :: front ++ c :: back from begins) with short | ⟨right, split, behind⟩
      · exact .inl short.isInfix
      · exact .inr (.inr ⟨d :: front, right, split, List.suffix_rfl, behind⟩)
    · rcases ih later with before | behind | ⟨left, right, split, ends, behind⟩
      · exact .inl (List.infix_cons before)
      · exact .inr (.inl behind)
      · exact .inr (.inr ⟨left, right, split, ends.trans (List.suffix_cons d front), behind⟩)

theorem trim_cons_blank {c : Char} (blank : isBlank c = true) (text : List Char) : trim (c :: text) = trim text := by
  rw [trim, trimStart, List.dropWhile_cons_of_pos blank]
  rfl

theorem trim_concat_blank {c : Char} (blank : isBlank c = true) (text : List Char) :
    trim (text ++ [c]) = trim text := by
  rw [trim, trim, trimStart, trimStart, List.dropWhile_append]
  split
  next empty =>
    rw [List.isEmpty_iff.mp empty, List.dropWhile_cons_of_pos blank, List.dropWhile_nil]
  next =>
    have padded : Padded (text.dropWhile isBlank) (text.dropWhile isBlank ++ [c]) := ⟨[c], rfl, by simp [blank]⟩
    exact padded.trimEnd

end FieldLogic.Text

namespace FieldLogic
open Text

namespace Operator

theorem earlier_split (operator : Operator) :
    ∃ earlier later, all = earlier ++ operator :: later ∧ ∀ other ∈ earlier, other.rank < operator.rank := by
  have places : ∀ operator ∈ all, all = all.take operator.rank ++ operator :: all.drop (operator.rank + 1) ∧
      ∀ other ∈ all.take operator.rank, other.rank < operator.rank := by decide +kernel
  exact ⟨_, _, places operator operator.mem_all⟩

/-- No token that is searched for earlier occurs in the text. -/
def Unmasked (operator : Operator) (text : List Char) : Prop :=
  ∀ other : Operator, other.rank < operator.rank → ¬other.token.toList <:+: text

instance (operator : Operator) (text : List Char) : Decidable (operator.Unmasked text) :=
  decidable_of_iff (∀ other ∈ all, other.rank < operator.rank → occurs other.token.toList text = false) (by
    simp only [Unmasked, ← occurs_iff, Bool.not_eq_true]
    exact ⟨fun each other => each other other.mem_all, fun each other _ => each other⟩)

theorem token_unmasked (operator : Operator) : operator.Unmasked operator.token.toList := by
  have each : ∀ operator ∈ all, operator.Unmasked operator.token.toList := by decide +kernel
  exact each operator operator.mem_all

theorem token_head (operator : Operator) : ∃ c rest, operator.token.toList = c :: rest ∧ c ≠ 'w' ∧ c ≠ ' ' := by
  cases operator <;> exact ⟨_, _, rfl, by decide, by decide⟩

theorem token_space {other : Operator} {left right : List Char} (split : other.token.toList = left ++ ' ' :: right) :
    right.head? = some 'w' ∧ ∀ operator : Operator, ¬left <:+ operator.token.toList := by
  have gaps : ∀ other ∈ all, ∀ place < other.token.toList.length, other.token.toList[place]? = some ' ' →
      (other.token.toList.drop (place + 1)).head? = some 'w' ∧
        ∀ operator ∈ all, ¬other.token.toList.take place <:+ operator.token.toList := by decide +kernel
  obtain ⟨behind, before⟩ := gaps other other.mem_all left.length (by simp [split]) (by simp [split])
  rw [split, List.take_left] at before
  rw [split, ← List.drop_drop, List.drop_left] at behind
  exact ⟨behind, fun operator => before operator operator.mem_all⟩

end Operator

namespace Condition

/-- A name, the operator's token and an operand, with a space between each two. -/
def written (name : String) (operator : Operator) (operand : String) : String :=
  name ++ " " ++ operator.token ++ " " ++ operand

@[simp] theorem toList_written (name : String) (operator : Operator) (operand : String) :
    (written name operator operand).toList =
      name.toList ++ ' ' :: (operator.token.toList ++ ' ' :: operand.toList) := by
  simp [written]

variable {name operand : String} {operator : Operator}

theorem not_begins {right after : List Char} (first : right.head? = some 'w') :
    ¬right <+: operator.token.toList ++ after := by
  obtain ⟨c, rest, token, other, _⟩ := operator.token_head
  intro begins
  rw [token, List.cons_append] at begins
  cases right with
  | nil => cases first
  | cons d right =>
    rw [List.head?_cons, Option.some.injEq] at first
    rw [List.cons_prefix_cons] at begins
    exact other (begins.1.symm.trans first)

theorem infix_written {other : Operator} (found : other.token.toList <:+: (written name operator operand).toList) :
    other.token.toList <:+: name.toList ∨ other.token.toList <:+: operator.token.toList ∨
      other.token.toList <:+: operand.toList := by
  rw [toList_written] at found
  rcases infix_around found with before | behind | ⟨left, right, split, _, begins⟩
  · exact .inl before
  · rcases infix_around behind with token | later | ⟨left, right, split, ends, _⟩
    · exact .inr (.inl token)
    · exact .inr (.inr later)
    · exact absurd ends ((Operator.token_space split).2 operator)
  · exact absurd begins (not_begins (Operator.token_space split).1)

/-- The token does not occur in the name or across the space behind it. -/
theorem not_begins_within {front after : List Char} (absent : ¬operator.token.toList <:+: name.toList)
    (within : front <:+ name.toList) :
    ¬operator.token.toList <+: front ++ ' ' :: (operator.token.toList ++ after) := by
  intro begins
  rcases prefix_around begins with short | ⟨right, split, behind⟩
  · exact absent (short.isInfix.trans within.isInfix)
  · exact not_begins (Operator.token_space split).1 behind

theorem cut_written (absent : ¬operator.token.toList <:+: name.toList) :
    cut operator.token.toList (written name operator operand).toList =
      some (name.toList ++ [' '], ' ' :: operand.toList) := by
  have whole : (written name operator operand).toList =
      name.toList ++ [' '] ++ operator.token.toList ++ ' ' :: operand.toList := by simp
  have found : occurs operator.token.toList (written name operator operand).toList = true :=
    (occurs_iff ..).mpr ⟨_, _, whole.symm⟩
  obtain ⟨⟨before, after⟩, cuts⟩ := Option.isSome_iff_exists.mp found
  have same := eq_append_of_cut cuts
  have most := length_le_of_cut cuts whole
  rw [toList_written, List.append_assoc] at same
  rcases List.append_eq_append_iff.mp same with ⟨front, rfl, behind⟩ | ⟨front, split, behind⟩
  · rw [List.length_append, List.length_append, List.length_singleton] at most
    match front, behind with
    | [], behind =>
      rw [List.nil_append] at behind
      exact absurd ⟨after, behind.symm⟩ (not_begins_within absent List.nil_suffix)
    | [space], behind =>
      rw [List.singleton_append, List.cons.injEq, List.append_cancel_left_eq] at behind
      rw [← behind.1, ← behind.2] at cuts
      exact cuts
    | _ :: _ :: _, _ =>
      rw [List.length_cons, List.length_cons] at most
      omega
  · exact absurd ⟨after, behind⟩ (not_begins_within absent ⟨before, split.symm⟩)

theorem around?_eq_none_iff {literal : String} :
    around? literal operator = none ↔ ¬operator.token.toList <:+: literal.toList := by
  rw [around?, Option.map_eq_none_iff, ← occurs_iff, occurs, Bool.not_eq_true, Option.isSome_eq_false_iff,
    Option.isNone_iff_eq_none]

theorem ofLiteral?_eq_some {literal : String} {condition : Condition} (unmasked : operator.Unmasked literal.toList)
    (parts : around? literal operator = some condition) : ofLiteral? literal = some condition := by
  obtain ⟨earlier, later, split, before⟩ := operator.earlier_split
  have none : ∀ other ∈ earlier, around? literal other = none :=
    fun other member => around?_eq_none_iff.mpr (unmasked other (before other member))
  rw [ofLiteral?, split, List.findSome?_append, List.findSome?_eq_none_iff.mpr none, Option.none_or,
    List.findSome?_cons_of_isSome (by simp [parts]), parts]

/-- A written condition parts at its token, and the blanks around its parts are taken off. -/
theorem ofLiteral?_written (absent : ¬operator.token.toList <:+: name.toList)
    (unmasked : operator.Unmasked name.toList) (clear : operator.Unmasked operand.toList) :
    ofLiteral? (written name operator operand) =
      some ⟨String.ofList (trim name.toList), operator, String.ofList (trim operand.toList)⟩ := by
  apply ofLiteral?_eq_some
  · intro other earlier found
    rcases infix_written found with before | token | behind
    · exact unmasked other earlier before
    · exact operator.token_unmasked other earlier token
    · exact clear other earlier behind
  · have blank : isBlank ' ' = true := by decide
    rw [around?, cut_written absent, Option.map_some]
    simp only [trim_concat_blank blank, trim_cons_blank blank]

end Condition

end FieldLogic
