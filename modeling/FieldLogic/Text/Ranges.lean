/-! Tables of code points, given as closed ranges. -/

namespace FieldLogic.Text

def inRanges (ranges : List (Nat × Nat)) (point : Nat) : Bool :=
  ranges.any fun range => range.1 ≤ point && point ≤ range.2

theorem inRanges_iff (ranges : List (Nat × Nat)) (point : Nat) :
    inRanges ranges point = true ↔ ∃ range ∈ ranges, range.1 ≤ point ∧ point ≤ range.2 := by
  simp [inRanges]

end FieldLogic.Text
