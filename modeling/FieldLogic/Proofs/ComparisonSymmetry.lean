import FieldLogic.Proofs.ComparisonOrder

/-! Comparisons with the values exchanged. Loose equality stays the same and loose order is turned round, also where there is
none. Which of truth, numbers and texts two values are compared by depends on their types and not on which comes first. -/

namespace FieldLogic

open Number

namespace Number.Binary64

variable (first second : Binary64)

theorem compare?_swap : second.compare? first = (first.compare? second).map Ordering.swap := by
  rw [compare?, compare?]
  cases first.place? with
  | none => cases second.place? <;> rfl
  | some left =>
    cases second.place? with
    | none => rfl
    | some right => exact congrArg some Std.OrientedCmp.eq_swap

theorem equals_comm : first.equals second = second.equals first := by
  rw [equals_eq, equals_eq, compare?_swap second first]
  cases second.compare? first with
  | none => rfl
  | some order => cases order <;> rfl

end Number.Binary64

namespace Value

theorem compareTexts?_swap (first second : Value) :
    second.compareTexts? first = (first.compareTexts? second).map Ordering.swap := by
  rw [compareTexts?, compareTexts?]
  cases first.asText? with
  | none => cases second.asText? <;> rfl
  | some left =>
    cases second.asText? with
    | none => rfl
    | some right => exact congrArg some Std.OrientedCmp.eq_swap

theorem truthOrder_swap (first second : Bool) :
    some (compare second first) = (some (compare first second)).map Ordering.swap :=
  congrArg some Std.OrientedCmp.eq_swap

theorem swapped {order other : Option Ordering} (same : order = other.map Ordering.swap) :
    other = order.map Ordering.swap := by
  subst same
  cases other with
  | none => rfl
  | some order => cases order <;> rfl

theorem looseOrder?_null (value : Value) : value.looseOrder? null = (null.looseOrder? value).map Ordering.swap := by
  cases value with
  | list => rfl
  | string text => exact compareTexts?_swap null (string text)
  | _ => exact truthOrder_swap false _

/-- Exchanged values have the opposite order, or none as well. -/
theorem looseOrder?_swap (first second : Value) :
    second.looseOrder? first = (first.looseOrder? second).map Ordering.swap := by
  cases first with
  | list => cases second <;> rfl
  | bool truth =>
    cases second with
    | list => rfl
    | _ => exact truthOrder_swap truth _
  | null => exact looseOrder?_null second
  | _ =>
    cases second with
    | list => rfl
    | bool truth => exact truthOrder_swap _ truth
    | null => exact swapped (looseOrder?_null _)
    | _ =>
      simp only [looseOrder?]
      split
      next numeric also =>
        simp only [numeric, also]
        exact Binary64.compare?_swap ..
      next texts =>
        split
        next also numeric => exact (texts _ _ numeric also).elim
        next => exact compareTexts?_swap ..

mutual

theorem looselyEqual_comm (first second : Value) : first.looselyEqual second = second.looselyEqual first := by
  cases first with
  | null => cases second <;> rfl
  | bool truth =>
    cases second with
    | bool other => exact BEq.comm
    | _ => rfl
  | list items =>
    cases second with
    | list others => exact allLooselyEqual_comm items others
    | _ => rfl
  | _ =>
    cases second with
    | null | bool | list => rfl
    | _ =>
      simp only [looselyEqual]
      split
      next numeric also =>
        simp only [numeric, also]
        exact Binary64.equals_comm ..
      next texts =>
        split
        next also numeric => exact (texts _ _ numeric also).elim
        next => exact BEq.comm

theorem allLooselyEqual_comm (items others : List Value) : allLooselyEqual items others = allLooselyEqual others items := by
  match items, others with
  | [], [] => rfl
  | [], _ :: _ => rfl
  | _ :: _, [] => rfl
  | first :: items, second :: others =>
    rw [allLooselyEqual, allLooselyEqual, looselyEqual_comm first second, allLooselyEqual_comm items others]

end

/-- Loose comparison does not depend on which value comes first: equality is the same and order the opposite. -/
theorem loosely_compared_either_way (first second : Value) :
    first.looselyEqual second = second.looselyEqual first ∧
      second.looseOrder? first = (first.looseOrder? second).map Ordering.swap :=
  ⟨looselyEqual_comm first second, looseOrder?_swap first second⟩

end Value

end FieldLogic
