import FieldLogic.Evaluation
import FieldLogic.Proofs.ConditionText

/-! The parts of a literal. A literal is cut at the first occurrence of its operator's token, and its operator is the one
with a token in it that is searched for first. Tokens that hold other tokens come earlier in the search, so a literal is
never cut inside a longer token, and a written condition parts again exactly if nothing in its name or its operand hides
the token between them. -/

namespace FieldLogic.Text

/-- A token between two texts that does not start any earlier in the whole. -/
structure CutAt (token text before after : List Char) : Prop where
  whole : text = before ++ token ++ after
  first : ∀ front back, text = front ++ token ++ back → before.length ≤ front.length

variable {token text before after : List Char}

theorem cut_eq_some_iff : cut token text = some (before, after) ↔ CutAt token text before after := by
  constructor
  · intro found
    exact ⟨eq_append_of_cut found, fun _ _ same => length_le_of_cut found same⟩
  · rintro ⟨whole, first⟩
    have holds : occurs token text = true := (occurs_iff ..).mpr ⟨before, after, whole.symm⟩
    obtain ⟨⟨front, back⟩, found⟩ := Option.isSome_iff_exists.mp holds
    have same := eq_append_of_cut found
    have length := Nat.le_antisymm (length_le_of_cut found whole) (first front back same)
    rw [whole, List.append_assoc, List.append_assoc] at same
    obtain ⟨rfl, rest⟩ := List.append_inj same length.symm
    rw [found, List.append_cancel_left rest]

def inkCount (text : List Char) : Nat := text.countP fun c => !isBlank c

theorem inkCount_append (front back : List Char) : inkCount (front ++ back) = inkCount front + inkCount back :=
  List.countP_append

theorem inkCount_trimStart (text : List Char) : inkCount (trimStart text) = inkCount text := by
  have blanks : inkCount (text.takeWhile isBlank) = 0 := by
    apply List.countP_eq_zero.mpr
    intro c member
    simp [List.all_eq_true.mp List.all_takeWhile c member]
  have split : text.takeWhile isBlank ++ trimStart text = text := List.takeWhile_append_dropWhile
  rw [← Nat.zero_add (inkCount _), ← blanks, ← inkCount_append, split]

theorem inkCount_trim (text : List Char) : inkCount (trim text) = inkCount text := by
  rw [trim, trimEnd, ← trimStart, inkCount, List.countP_reverse, ← inkCount, inkCount_trimStart, inkCount,
    List.countP_reverse, ← inkCount, inkCount_trimStart]

end FieldLogic.Text

namespace FieldLogic
open Text

namespace Operator

theorem mem_earlier {earlier later : List Operator} {operator other : Operator}
    (split : all = earlier ++ operator :: later) (lower : other.rank < operator.rank) : other ∈ earlier := by
  have most : operator.rank ≤ earlier.length := by
    rw [rank, split, List.idxOf_append]
    split
    · exact List.idxOf_le_length
    · simp
  have least : other ∉ earlier → earlier.length ≤ other.rank := by
    intro absent
    rw [rank, split, List.idxOf_append, if_neg absent]
    exact Nat.le_add_left ..
  by_cases member : other ∈ earlier
  · exact member
  · have := least member
    omega

theorem rank_lt_of_infix {longer shorter : Operator} (other : longer ≠ shorter)
    (inside : shorter.token.toList <:+: longer.token.toList) : longer.rank < shorter.rank := by
  have each : ∀ longer ∈ all, ∀ shorter ∈ all, longer ≠ shorter →
      occurs shorter.token.toList longer.token.toList = true → longer.rank < shorter.rank := by decide +kernel
  exact each longer longer.mem_all shorter shorter.mem_all other ((occurs_iff ..).mpr inside)

theorem token_ink (operator : Operator) : 0 < inkCount operator.token.toList := by
  cases operator <;> decide

theorem Unmasked.mono {operator : Operator} {part text : List Char} (unmasked : operator.Unmasked text)
    (inside : part <:+: text) : operator.Unmasked part :=
  fun other earlier found => unmasked other earlier (found.trans inside)

end Operator

namespace Condition

/-- A literal with a condition in it: the texts before and after the first occurrence of the operator's token, without
the blanks at their ends, and no token of an operator that is searched for earlier. -/
structure Parts (literal : String) (condition : Condition) (before after : List Char) : Prop where
  cut : CutAt condition.operator.token.toList literal.toList before after
  attributeName : condition.attributeName = String.ofList (trim before)
  operand : condition.operand = String.ofList (trim after)
  unmasked : condition.operator.Unmasked literal.toList

variable {literal : String} {condition : Condition} {operator : Operator}

theorem around?_eq_some_iff : around? literal operator = some condition ↔
    ∃ before after, CutAt operator.token.toList literal.toList before after ∧
      condition = ⟨String.ofList (trim before), operator, String.ofList (trim after)⟩ := by
  simp only [around?, Option.map_eq_some_iff, Prod.exists, cut_eq_some_iff]
  exact exists₂_congr fun _ _ => and_congr_right fun _ => eq_comm

theorem ofLiteral?_eq_none_iff :
    ofLiteral? literal = none ↔ ∀ operator : Operator, ¬operator.token.toList <:+: literal.toList := by
  rw [ofLiteral?, List.findSome?_eq_none_iff]
  simp only [around?_eq_none_iff, Operator.mem_all, forall_const]

theorem ofLiteral?_eq_some_iff :
    ofLiteral? literal = some condition ↔ ∃ before after, Parts literal condition before after := by
  constructor
  · intro found
    obtain ⟨earlier, operator, later, split, parts, none⟩ := List.findSome?_eq_some_iff.mp found
    obtain ⟨before, after, cut, rfl⟩ := around?_eq_some_iff.mp parts
    refine ⟨before, after, cut, rfl, rfl, ?_⟩
    intro other lower
    exact around?_eq_none_iff.mp (none other (Operator.mem_earlier split lower))
  · rintro ⟨before, after, parts⟩
    apply ofLiteral?_eq_some parts.unmasked
    refine around?_eq_some_iff.mpr ⟨before, after, parts.cut, ?_⟩
    rw [← parts.attributeName, ← parts.operand]

theorem Parts.longest {before after : List Char} (parts : Parts literal condition before after) {longer : Operator}
    (around : condition.operator.token.toList <:+: longer.token.toList)
    (found : longer.token.toList <:+: literal.toList) : longer = condition.operator := by
  by_cases same : longer = condition.operator
  · exact same
  · exact absurd found (parts.unmasked longer (Operator.rank_lt_of_infix same around))

theorem evaluate_unparted (record : Record) :
    Expression.evaluate record (.leaf literal) = ⟨false, [.noOperator literal]⟩ ↔ ofLiteral? literal = none := by
  rw [Expression.evaluate, Expression.evaluateLeaf]
  cases parts : ofLiteral? literal with
  | none => simp
  | some condition =>
    simp only [reduceCtorEq, iff_false]
    cases record.get? condition.attributeName <;> simp

/-- A literal has no condition in it exactly if no token occurs in it, and then it is false and named in the diagnostic.
Otherwise it is cut at the first occurrence of the token of one operator, which no token of an earlier operator and no
longer token hides, and but for blanks at the ends nothing of it is lost. -/
theorem literal_parted (literal : String) :
    (ofLiteral? literal = none ↔ ∀ operator : Operator, ¬operator.token.toList <:+: literal.toList) ∧
    (∀ record, Expression.evaluate record (.leaf literal) = ⟨false, [.noOperator literal]⟩ ↔
      ∀ operator : Operator, ¬operator.token.toList <:+: literal.toList) ∧
    ∀ condition, (ofLiteral? literal = some condition ↔ ∃ before after, Parts literal condition before after) ∧
      (ofLiteral? literal = some condition → ∀ longer : Operator,
        condition.operator.token.toList <:+: longer.token.toList → longer.token.toList <:+: literal.toList →
          longer = condition.operator) := by
  refine ⟨ofLiteral?_eq_none_iff, ?_, ?_⟩
  · intro record
    rw [evaluate_unparted, ofLiteral?_eq_none_iff]
  · intro condition
    refine ⟨ofLiteral?_eq_some_iff, ?_⟩
    intro found longer around within
    obtain ⟨before, after, parts⟩ := ofLiteral?_eq_some_iff.mp found
    exact parts.longest around within

/-- A blank of another script before the token, and the token of a later operator across its end. -/
theorem literal_parted_accented :
    ofLiteral? "prénom\u00a0!=== été" = some ⟨"prénom", .notIdentical, "= été"⟩ ∧
      (∃ before after, Parts "prénom\u00a0!=== été" ⟨"prénom", .notIdentical, "= été"⟩ before after) ∧
      (∀ longer : Operator, "!==".toList <:+: longer.token.toList →
        longer.token.toList <:+: "prénom\u00a0!=== été".toList → longer = .notIdentical) := by
  have found : ofLiteral? "prénom\u00a0!=== été" = some ⟨"prénom", .notIdentical, "= été"⟩ := by decide +kernel
  obtain ⟨_, _, each⟩ := literal_parted "prénom\u00a0!=== été"
  obtain ⟨parts, longest⟩ := each ⟨"prénom", .notIdentical, "= été"⟩
  exact ⟨found, parts.mp found, longest found⟩

theorem name_infix_written (name : String) (operator : Operator) (operand : String) :
    name.toList <:+: (written name operator operand).toList := by
  rw [toList_written]
  exact (List.prefix_append ..).isInfix

theorem operand_infix_written (name : String) (operator : Operator) (operand : String) :
    operand.toList <:+: (written name operator operand).toList := by
  have split : (written name operator operand).toList =
      name.toList ++ ' ' :: (operator.token.toList ++ [' ']) ++ operand.toList := by simp
  rw [split]
  exact (List.suffix_append ..).isInfix

/-- A cut inside the name leaves less of it than the whole. -/
theorem not_infix_of_parts {name operand : String} {before after : List Char}
    (parts : Parts (written name operator operand) condition before after) (same : condition.operator = operator)
    (kept : condition.attributeName = String.ofList (trim name.toList)) : ¬operator.token.toList <:+: name.toList := by
  rintro ⟨front, back, split⟩
  subst same
  have whole : (written name condition.operator operand).toList = front ++ condition.operator.token.toList ++
      (back ++ ' ' :: (condition.operator.token.toList ++ ' ' :: operand.toList)) := by
    rw [toList_written, ← split]
    simp
  have begins : before <+: (written name condition.operator operand).toList := by
    rw [parts.cut.whole, List.append_assoc]
    exact List.prefix_append ..
  have also : front <+: (written name condition.operator operand).toList := by
    rw [whole, List.append_assoc]
    exact List.prefix_append ..
  have early : before <+: front := List.prefix_of_prefix_length_le begins also (parts.cut.first front _ whole)
  have fewer : inkCount before ≤ inkCount front := early.sublist.countP_le
  have ink := condition.operator.token_ink
  have blanks : trim before = trim name.toList := String.ofList_injective (parts.attributeName.symm.trans kept)
  have count := congrArg inkCount blanks
  rw [inkCount_trim, inkCount_trim, ← split, inkCount_append, inkCount_append] at count
  omega

/-- A written condition parts again into what it was written from exactly if the token does not occur in the name, and no
token that is searched for earlier in the name or in the operand. -/
theorem written_parts_again_iff (name operand : String) (operator : Operator) :
    ofLiteral? (written name operator operand) =
        some ⟨String.ofList (trim name.toList), operator, String.ofList (trim operand.toList)⟩ ↔
      ¬operator.token.toList <:+: name.toList ∧ operator.Unmasked name.toList ∧ operator.Unmasked operand.toList := by
  constructor
  · intro found
    obtain ⟨before, after, parts⟩ := ofLiteral?_eq_some_iff.mp found
    exact ⟨not_infix_of_parts parts rfl rfl, parts.unmasked.mono (name_infix_written ..),
      parts.unmasked.mono (operand_infix_written ..)⟩
  · rintro ⟨absent, unmasked, clear⟩
    exact ofLiteral?_written absent unmasked clear

/-- The name ends like the first half of a token and the operand begins like its second half. -/
theorem written_parts_again_halves :
    ¬Operator.startsWith.token.toList <:+: "it starts".toList ∧ Operator.startsWith.Unmasked "it starts".toList ∧
      Operator.startsWith.Unmasked " with starts with ".toList ∧
      ofLiteral? "it starts starts with  with starts with " = some ⟨"it starts", .startsWith, "with starts with"⟩ := by
  have absent : ¬Operator.startsWith.token.toList <:+: "it starts".toList := by
    rw [← occurs_iff]
    decide +kernel
  have unmasked : Operator.startsWith.Unmasked "it starts".toList := by decide +kernel
  have clear : Operator.startsWith.Unmasked " with starts with ".toList := by decide +kernel
  have parts := (written_parts_again_iff "it starts" " with starts with " .startsWith).mpr ⟨absent, unmasked, clear⟩
  refine ⟨absent, unmasked, clear, ?_⟩
  have name : String.ofList (trim "it starts".toList) = "it starts" := by decide +kernel
  have operand : String.ofList (trim " with starts with ".toList) = "with starts with" := by decide +kernel
  rw [name, operand] at parts
  exact parts

end Condition

end FieldLogic
