import FieldLogic.Proofs.BareText
import FieldLogic.Proofs.ConditionText

/-! Operands between quotes. A leaf runs through a quoted operand whatever connectives and parentheses it holds, the
literal parts before it at the token, and the quotes come off again before the operand is compared. -/

namespace FieldLogic.Text

theorem infix_apart {c : Char} {token front back : List Char} (apart : c ∉ token)
    (found : token <:+: front ++ c :: back) : token <:+: front ∨ token <:+: back := by
  rcases infix_around found with before | behind | ⟨left, right, split, _, _⟩
  · exact .inl before
  · exact .inr behind
  · exact absurd (by simp [split]) apart

theorem trimEnd_concat {c : Char} (ink : isBlank c = false) (text : List Char) : trimEnd (text ++ [c]) = text ++ [c] := by
  apply Expression.trimEnd_of_getLast
  rw [List.getLast?_concat]
  simp [ink]

theorem trim_enclosed {c : Char} (ink : isBlank c = false) (inner : List Char) :
    trim (c :: (inner ++ [c])) = c :: (inner ++ [c]) := by
  rw [trim, trimStart, List.dropWhile_cons_of_neg (by simp [ink])]
  exact trimEnd_concat ink (c :: inner)

end FieldLogic.Text

namespace FieldLogic
open Text

namespace Operator

theorem quote_not_mem_token (operator : Operator) : '\'' ∉ operator.token.toList := by
  cases operator <;> decide

theorem token_ascii (operator : Operator) : ∀ c ∈ operator.token.toList, c.toNat < 128 := by
  cases operator <;> simp [token]

end Operator

namespace Condition

def enclosed (text : String) : String := "'" ++ text ++ "'"

@[simp] theorem toList_enclosed (text : String) : (enclosed text).toList = '\'' :: (text.toList ++ ['\'']) := by
  simp [enclosed]

theorem unquoted_enclosed (text : String) : unquoted (enclosed text) = text := by
  simp [unquoted]

theorem unmasked_enclosed {operator : Operator} {text : String} (clear : operator.Unmasked text.toList) :
    operator.Unmasked (enclosed text).toList := by
  intro other earlier found
  have apart := other.quote_not_mem_token
  rw [toList_enclosed, ← List.nil_append ('\'' :: _)] at found
  rcases infix_apart apart found with before | behind
  · exact clear other earlier (before.trans List.nil_infix)
  · rcases infix_apart apart behind with inside | after
    · exact clear other earlier inside
    · exact clear other earlier (after.trans List.nil_infix)

theorem written_ascii (operator : Operator) {name text : String} (ascii : ∀ c ∈ name.toList, c.toNat < 128)
    (also : ∀ c ∈ text.toList, c.toNat < 128) :
    ∀ c ∈ (written name operator (enclosed text)).toList, c.toNat < 128 := by
  simp only [toList_written, toList_enclosed, List.forall_mem_append, List.forall_mem_cons]
  exact ⟨ascii, by decide, operator.token_ascii, by decide, by decide, also, by decide, by simp⟩

end Condition

namespace Expression
open Condition

/-- A text without quotes that is its own extent stays so in front of what continues no word. -/
theorem extent_append_of_whole {afterBlank : Bool} {text after : List Char}
    (whole : extent none afterBlank text = text) (plain : ∀ c ∈ text, isQuote c = false)
    (apart : ∀ c ∈ after.head?, isWord c = false) :
    extent none afterBlank (text ++ after) = text ++ extent none false after := by
  induction text generalizing afterBlank with
  | nil => exact extent_none_of_apart apart
  | cons c rest ih =>
    rw [List.forall_mem_cons] at plain
    have quote : ¬isQuote c = true := by simp [plain.1]
    rw [extent, if_neg quote] at whole
    rw [List.cons_append, extent, if_neg quote, ← List.cons_append, startsConnective_append apart]
    split at whole
    · cases whole
    next within =>
      split at whole
      · cases whole
      next goes =>
        rw [if_neg within, if_neg goes, ih (List.tail_eq_of_cons_eq whole) plain.2]
        rfl

theorem extent_quoted {quote : Char} {afterBlank : Bool} {inner after : List Char} (opens : isQuote quote = true)
    (inside : quote ∉ inner) :
    extent none afterBlank (quote :: (inner ++ quote :: after)) =
      quote :: (inner ++ quote :: extent none false after) := by
  rw [extent, if_pos opens, if_pos (by simp), extent_run inside]

theorem extent_token (operator : Operator) :
    extent none false (' ' :: (operator.token.toList ++ [' '])) = ' ' :: (operator.token.toList ++ [' ']) := by
  cases operator <;> decide +kernel

theorem token_plain (operator : Operator) : ∀ c ∈ ' ' :: (operator.token.toList ++ [' ']), isQuote c = false := by
  cases operator <;> simp [Operator.token, isQuote]

/-- The scan of a written condition goes through its name, its token and its quoted operand. -/
theorem extent_written {operator : Operator} {name text : String} (bare : Bare name.toList)
    (single : '\'' ∉ text.toList) :
    extent none true (written name operator (enclosed text)).toList = (written name operator (enclosed text)).toList := by
  have quote (after : List Char) : ∀ c ∈ ('\'' :: after).head?, isWord c = false := by
    rintro c ⟨⟩
    decide
  have space (after : List Char) : ∀ c ∈ (' ' :: after).head?, isWord c = false := by
    rintro c ⟨⟩
    decide
  calc extent none true (written name operator (enclosed text)).toList
    _ = extent none true (name.toList ++
          (' ' :: (operator.token.toList ++ [' ']) ++ '\'' :: (text.toList ++ ['\'']))) := by simp
    _ = name.toList ++
          extent none false (' ' :: (operator.token.toList ++ [' ']) ++ '\'' :: (text.toList ++ ['\''])) :=
        extent_append_of_whole bare.extent bare.unquoted (space _)
    _ = name.toList ++ (' ' :: (operator.token.toList ++ [' ']) ++
          extent none false ('\'' :: (text.toList ++ ['\'']))) := by
        rw [extent_append_of_whole (extent_token operator) (token_plain operator) (quote _)]
    _ = name.toList ++ (' ' :: (operator.token.toList ++ [' ']) ++ '\'' :: (text.toList ++ ['\''])) := by
        rw [extent_quoted (by decide) single]
        rfl
    _ = (written name operator (enclosed text)).toList := by simp

theorem trimEnd_written (name : String) (operator : Operator) (text : String) :
    trimEnd (written name operator (enclosed text)).toList = (written name operator (enclosed text)).toList := by
  have last : (written name operator (enclosed text)).toList =
      name.toList ++ ' ' :: (operator.token.toList ++ ' ' :: '\'' :: text.toList) ++ ['\''] := by simp
  rw [last, trimEnd_concat (by decide)]

theorem parse_written {operator : Operator} {name text : String} (bare : Bare name.toList)
    (ascii : ∀ c ∈ name.toList, c.toNat < 128) (single : '\'' ∉ text.toList)
    (also : ∀ c ∈ text.toList, c.toNat < 128) :
    parse (written name operator (enclosed text)) = .ok (.leaf (written name operator (enclosed text))) := by
  have bytes := byteLength_of_ascii (written_ascii operator ascii also)
  have ink : skipSpace (written name operator (enclosed text)).toList =
      (written name operator (enclosed text)).toList := by
    rw [toList_written, skipSpace_append_of_ink, bare.skipSpace]
    rw [bare.skipSpace]
    exact bare.nonempty
  rw [parse_leaf_iff, Captured, leaf?_eq_some_iff, ink, extent_written bare single, trimEnd_written, bytes]
  exact ⟨by simp, by simp, rfl⟩

theorem evaluate_leaf_of_condition {literal : String} {condition : Condition}
    (parts : ofLiteral? literal = some condition) (record : Record) :
    (evaluate record (.leaf literal)).result =
      (record.get? condition.attributeName).any (condition.operator.holds · condition.operand) := by
  simp only [evaluate, evaluateLeaf, parts]
  cases record.get? condition.attributeName <;> rfl

/-- A name is compared with the text between the quotes, whatever connectives, parentheses and tokens of later operators
the text holds. -/
theorem evaluate_quoted_operand {operator : Operator} {name text : String} (bare : Bare name.toList)
    (ascii : ∀ c ∈ name.toList, c.toNat < 128) (absent : ¬operator.token.toList <:+: name.toList)
    (unmasked : operator.Unmasked name.toList) (single : '\'' ∉ text.toList) (also : ∀ c ∈ text.toList, c.toNat < 128)
    (clear : operator.Unmasked text.toList) :
    parse (written name operator (enclosed text)) = .ok (.leaf (written name operator (enclosed text))) ∧
      (∀ record, (evaluate record (.leaf (written name operator (enclosed text)))).result =
        (record.get? name).any (operator.holds · (enclosed text))) ∧
      unquoted (enclosed text) = text := by
  refine ⟨parse_written bare ascii single also, ?_, unquoted_enclosed text⟩
  intro record
  have parts := ofLiteral?_written absent unmasked (unmasked_enclosed clear)
  have operand : trim (enclosed text).toList = (enclosed text).toList := by
    rw [toList_enclosed]
    exact trim_enclosed (by decide) text.toList
  rw [bare.trimmed, operand, String.ofList_toList, String.ofList_toList] at parts
  exact evaluate_leaf_of_condition parts record

/-- The name begins like the token, and the text goes on like it and holds a token of a later operator. -/
theorem evaluate_quoted_operand_masked :
    Bare "ends".toList ∧ Operator.endsWith.Unmasked "ends".toList ∧
      Operator.endsWith.Unmasked "with) or not endsWith (".toList ∧
      parse "ends ends with 'with) or not endsWith ('" = .ok (.leaf "ends ends with 'with) or not endsWith ('") ∧
      (evaluate (.ofList [("ends", .string "starts with) or not endsWith (")])
        (.leaf "ends ends with 'with) or not endsWith ('")).result = true := by
  have bare : Bare "ends".toList :=
    .of_extent (by simp) (by decide +kernel) (by simp [isQuote]) (by decide +kernel)
  have absent : ¬Operator.endsWith.token.toList <:+: "ends".toList := by decide +kernel
  have unmasked : Operator.endsWith.Unmasked "ends".toList := by decide +kernel
  have clear : Operator.endsWith.Unmasked "with) or not endsWith (".toList := by decide +kernel
  obtain ⟨parsed, evaluated, _⟩ :=
    evaluate_quoted_operand bare (by simp) absent unmasked (by decide +kernel) (by simp) clear
  refine ⟨bare, unmasked, clear, parsed, (evaluated _).trans ?_⟩
  decide +kernel

end Expression

end FieldLogic
