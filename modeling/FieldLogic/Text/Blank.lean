import FieldLogic.Text.Ranges

/-! White space of every script, and what remains of a text when it is taken off the ends. The characters
that may stand between tokens are fewer; they are `isSpace`. -/

namespace FieldLogic.Text

/-- Code points with the property White_Space. -/
def blankRanges : List (Nat × Nat) :=
  [(0x9, 0xd), (0x20, 0x20), (0x85, 0x85), (0xa0, 0xa0), (0x1680, 0x1680), (0x2000, 0x200a), (0x2028, 0x2029),
   (0x202f, 0x202f), (0x205f, 0x205f), (0x3000, 0x3000)]

def isBlank (c : Char) : Bool := inRanges blankRanges c.toNat

/-- Space, tab, carriage return and line feed: what separates tokens and the parts of a JSON text. -/
def isSpace (c : Char) : Bool := c == ' ' || c == '\t' || c == '\r' || c == '\n'

theorem isSpace_isBlank {c : Char} (space : isSpace c = true) : isBlank c = true := by
  simp only [isSpace, Bool.or_eq_true, beq_iff_eq] at space
  rcases space with ((rfl | rfl) | rfl) | rfl <;> decide

def skipSpace (text : List Char) : List Char := text.dropWhile isSpace

def trimStart (text : List Char) : List Char := text.dropWhile isBlank

def trimEnd (text : List Char) : List Char := (text.reverse.dropWhile isBlank).reverse

def trim (text : List Char) : List Char := trimEnd (trimStart text)

theorem skipSpace_length_le (text : List Char) : (skipSpace text).length ≤ text.length :=
  (List.dropWhile_suffix isSpace).length_le

@[simp] theorem skipSpace_nil : skipSpace [] = [] := rfl

theorem skipSpace_of_not_isSpace {c : Char} (rest : List Char) (ink : isSpace c = false) :
    skipSpace (c :: rest) = c :: rest := by
  simp [skipSpace, ink]

theorem skipSpace_append_of_spaces {text : List Char} (spaces : skipSpace text = []) (after : List Char) :
    skipSpace (text ++ after) = skipSpace after := by
  rw [skipSpace, List.dropWhile_append, if_pos]
  · rfl
  · exact List.isEmpty_iff.mpr spaces

theorem skipSpace_append_of_ink {text : List Char} (ink : skipSpace text ≠ []) (after : List Char) :
    skipSpace (text ++ after) = skipSpace text ++ after := by
  rw [skipSpace, List.dropWhile_append, if_neg]
  · rfl
  · intro empty
    exact ink (List.isEmpty_iff.mp empty)

theorem trimEnd_append_blanks (text : List Char) :
    ∃ blanks, trimEnd text ++ blanks = text ∧ ∀ c ∈ blanks, isBlank c = true := by
  refine ⟨(text.reverse.takeWhile isBlank).reverse, ?_, ?_⟩
  · rw [trimEnd, ← List.reverse_append, List.takeWhile_append_dropWhile, List.reverse_reverse]
  · intro c member
    exact List.all_eq_true.mp List.all_takeWhile c (List.mem_reverse.mp member)

end FieldLogic.Text
