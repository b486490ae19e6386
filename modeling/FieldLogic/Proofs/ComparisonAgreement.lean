import FieldLogic.Proofs.ComparisonSymmetry

/-! How the comparisons of values agree. Two values that are no lists are loosely equal exactly if neither comes before the
other in the loose order, and strict equality is the finer of the two equalities. Every value equals itself but a number that is
none and the lists in which one lies. -/

namespace FieldLogic
open Number

namespace Number

namespace Binary64

theorem ofDecimal_ne_nan (negative : Bool) (digits : Nat) (exponent : Int) : ofDecimal negative digits exponent ≠ nan := by
  unfold ofDecimal
  split
  · simp
  split
  · simp
  split
  · simp
  · exact ofQuotient_ne_nan _ _ _

theorem equals_self {number : Binary64} (proper : number ≠ nan) : number.equals number = true := by
  obtain ⟨units, place⟩ := Option.ne_none_iff_exists'.mp (mt place?_eq_none_iff.mp proper)
  simp [equals, place]

end Binary64

end Number

namespace Value

def IsList (value : Value) : Prop := ∃ items, value = list items

/-- A value and what lies in it: the items of a list and, where these are lists, their items in turn. -/
inductive Within (part : Value) : Value → Prop where
  | self : Within part part
  | item {items item} (member : item ∈ items) (inside : Within part item) : Within part (list items)

theorem asNumber?_eq_nan {value : Value} : value.asNumber? = some .nan ↔ value = float .nan := by
  constructor
  · intro none
    cases value with
    | int number => exact absurd (Option.some.inj none) (Binary64.ofQuotient_ne_nan _ _ _)
    | float number => exact congrArg float (Option.some.inj none)
    | string text =>
      obtain ⟨numeral, _, same⟩ := Option.map_eq_some_iff.mp none
      exact absurd same (Binary64.ofDecimal_ne_nan _ _ _)
    | null | bool | list => simp [asNumber?] at none
  · rintro rfl
    rfl

theorem isNumeric_eq (value : Value) : value.isNumeric = value.asNumber?.isSome := by
  cases value with
  | string text => exact Option.isSome_map.symm
  | _ => rfl

theorem asText?_of_not_list {value : Value} (plain : ¬value.IsList) : ∃ text, value.asText? = some text := by
  cases value with
  | list items => exact absurd ⟨items, rfl⟩ plain
  | _ => exact ⟨_, rfl⟩

variable {first second : Value}

/-- Only lists have no order, and numbers of which one is none. -/
theorem looseOrder?_eq_none_iff : first.looseOrder? second = none ↔
    first.IsList ∨ second.IsList ∨
      first.isNumeric = true ∧ second.isNumeric = true ∧ (first = float .nan ∨ second = float .nan) := by
  simp only [isNumeric_eq, Option.isSome_iff_exists, ← asNumber?_eq_nan]
  constructor
  · intro unordered
    rcases looseOrder?_eq_none unordered with list | list | ⟨left, right, numeric, also, apart⟩
    · exact .inl list
    · exact .inr (.inl list)
    · refine .inr (.inr ⟨⟨left, numeric⟩, ⟨right, also⟩, ?_⟩)
      simpa only [numeric, also, Option.some.injEq] using Binary64.compare?_eq_none_iff.mp apart
  · rintro (⟨items, rfl⟩ | ⟨items, rfl⟩ | ⟨⟨left, numeric⟩, ⟨right, also⟩, none⟩)
    · rfl
    · cases first <;> rfl
    · apply (looseOrder?_numbers numeric also).trans
      apply Binary64.compare?_eq_none_iff.mpr
      simpa only [numeric, also, Option.some.injEq] using none

theorem truth_tied (first second : Bool) : (first == second) = (some (compare first second) == some .eq) := by
  cases first <;> cases second <;> rfl

theorem text_tied (plain : ¬first.IsList) (also : ¬second.IsList) :
    (first.asText? == second.asText?) = (first.compareTexts? second == some .eq) := by
  obtain ⟨left, text⟩ := asText?_of_not_list plain
  obtain ⟨right, other⟩ := asText?_of_not_list also
  rw [Bool.eq_iff_iff]
  simp [compareTexts?, text, other]

theorem null_tied (plain : ¬second.IsList) : null.looselyEqual second = (null.looseOrder? second == some .eq) := by
  cases second with
  | list items => exact absurd ⟨items, rfl⟩ plain
  | null => rfl
  | bool truth => exact BEq.comm.trans (truth_tied false truth)
  | string text =>
    have tied := @text_tied null (string text) nofun plain
    exact BEq.comm.trans tied
  | _ => exact (Bool.false_beq _).symm.trans (truth_tied false _)

theorem tied_swap : (first.looseOrder? second == some .eq) = (second.looseOrder? first == some .eq) := by
  rw [looseOrder?_swap second first]
  cases second.looseOrder? first with
  | none => rfl
  | some order => cases order <;> rfl

theorem looselyEqual_eq (plain : ¬first.IsList) (also : ¬second.IsList) :
    first.looselyEqual second = (first.looseOrder? second == some .eq) := by
  cases first with
  | list items => exact absurd ⟨items, rfl⟩ plain
  | null => exact null_tied also
  | bool truth =>
    cases second with
    | list items => exact absurd ⟨items, rfl⟩ also
    | _ => exact truth_tied truth _
  | _ =>
    cases second with
    | list items => exact absurd ⟨items, rfl⟩ also
    | null => exact (looselyEqual_comm ..).trans ((null_tied plain).trans tied_swap)
    | bool truth => exact BEq.comm.trans (truth_tied _ truth)
    | _ =>
      simp only [looselyEqual, looseOrder?]
      split
      next => exact Binary64.equals_eq ..
      next => exact text_tied plain also

/-- Two values that are no lists are loosely equal exactly if loose order puts neither first. That order is missing only where
a list is compared, or a number that is none with what counts as a number. -/
theorem loosely_equal_iff_tied (first second : Value) :
    (¬first.IsList → ¬second.IsList → (first.looselyEqual second = true ↔ first.looseOrder? second = some .eq)) ∧
    (first.looseOrder? second = none ↔ first.IsList ∨ second.IsList ∨
      first.isNumeric = true ∧ second.isNumeric = true ∧ (first = float .nan ∨ second = float .nan)) := by
  refine ⟨?_, looseOrder?_eq_none_iff⟩
  intro plain also
  rw [looselyEqual_eq plain also, beq_iff_eq]

/-- A number that is none is the same text as its name, and so is neither before nor behind it. -/
theorem loosely_equal_iff_tied_name :
    ¬(float .nan).IsList ∧ ¬(string "NaN").IsList ∧
      ((float .nan).looselyEqual (string "NaN") = true ↔ (float .nan).looseOrder? (string "NaN") = some .eq) ∧
      (float .nan).looselyEqual (string "NaN") = true := by
  have number : ¬(float .nan).IsList := nofun
  have name : ¬(string "NaN").IsList := nofun
  exact ⟨number, name, (loosely_equal_iff_tied (float .nan) (string "NaN")).1 number name, by decide +kernel⟩

theorem looselyEqual_text (text : String) : (string text).looselyEqual (string text) = true := by
  cases numeric : (string text).asNumber? with
  | none => simp [looselyEqual, numeric]
  | some number =>
    apply (looselyEqual_numbers numeric numeric).trans
    apply Binary64.equals_self
    intro none
    subst none
    cases asNumber?_eq_nan.mp numeric

mutual

theorem looselyEqual_of_identical (first second : Value) (same : first.identical second = true) :
    first.looselyEqual second = true := by
  cases first with
  | null =>
    cases second with
    | null => rfl
    | _ => cases same
  | int number =>
    cases second with
    | int other =>
      obtain rfl := beq_iff_eq.mp same
      exact (looselyEqual_int ..).trans (Binary64.equals_self (Binary64.ofQuotient_ne_nan _ _ _))
    | _ => cases same
  | float number =>
    cases second with
    | float other => exact (looselyEqual_numbers rfl rfl).trans same
    | _ => cases same
  | bool truth =>
    cases second with
    | bool other => exact same
    | _ => cases same
  | string text =>
    cases second with
    | string other =>
      obtain rfl := beq_iff_eq.mp same
      exact looselyEqual_text text
    | _ => cases same
  | list items =>
    cases second with
    | list others => exact allLooselyEqual_of_allIdentical items others same
    | _ => cases same

theorem allLooselyEqual_of_allIdentical (items others : List Value) (same : allIdentical items others = true) :
    allLooselyEqual items others = true := by
  match items, others with
  | [], [] => rfl
  | [], _ :: _ => cases same
  | _ :: _, [] => cases same
  | first :: items, second :: others =>
    obtain ⟨head, tail⟩ := Bool.and_eq_true_iff.mp same
    exact Bool.and_eq_true_iff.mpr ⟨looselyEqual_of_identical first second head, allLooselyEqual_of_allIdentical items others tail⟩

end

mutual

theorem identical_self (value : Value) (proper : ¬Within (float .nan) value) : value.identical value = true := by
  cases value with
  | null => rfl
  | float number =>
    apply Binary64.equals_self
    intro none
    subst none
    exact proper .self
  | list items => exact allIdentical_self items fun item member inside => proper (.item member inside)
  | _ => exact beq_self_eq_true _

theorem allIdentical_self (items : List Value) (proper : ∀ item ∈ items, ¬Within (float .nan) item) :
    allIdentical items items = true := by
  match items with
  | [] => rfl
  | item :: rest =>
    exact Bool.and_eq_true_iff.mpr ⟨identical_self item (proper item (List.mem_cons_self ..)),
      allIdentical_self rest fun other member => proper other (List.mem_cons_of_mem _ member)⟩

end

theorem looselyEqual_item {items : List Value} {item : Value} (member : item ∈ items)
    (equal : allLooselyEqual items items = true) : item.looselyEqual item = true := by
  induction items with
  | nil => cases member
  | cons first rest ih =>
    obtain ⟨head, tail⟩ := Bool.and_eq_true_iff.mp equal
    rcases List.mem_cons.mp member with rfl | member
    · exact head
    · exact ih member tail

theorem not_looselyEqual_self {value : Value} (inside : Within (float .nan) value) : ¬value.looselyEqual value = true := by
  induction inside with
  | self => nofun
  | item member _ ih => exact fun equal => ih (looselyEqual_item member equal)

theorem looselyEqual_self_iff {value : Value} : value.looselyEqual value = true ↔ ¬Within (float .nan) value :=
  ⟨fun equal inside => not_looselyEqual_self inside equal, fun proper => looselyEqual_of_identical _ _ (identical_self _ proper)⟩

end Value

namespace Operator

variable {value : Value} {operand : String}

theorem equal_of_identical (strict : identical.holds value operand = true) : equal.holds value operand = true := by
  have sides : coerce value equal operand = coerce value identical operand := coerce_congr rfl value operand
  rw [holds, sides]
  exact Value.looselyEqual_of_identical _ _ strict

theorem notIdentical_of_notEqual (different : notEqual.holds value operand = true) :
    notIdentical.holds value operand = true := by
  have loose : notEqual.holds value operand = !equal.holds value operand := rfl
  have strict : notIdentical.holds value operand = !identical.holds value operand := rfl
  cases same : identical.holds value operand with
  | false => simp only [strict, same, Bool.not_false]
  | true => simp [loose, equal_of_identical same] at different

/-- Strict equality implies loose equality, of two values as of a value and the text of an operand, and loose inequality implies
strict inequality. A value is loosely equal to itself exactly if no number in it is none. -/
theorem identical_is_loosely_equal :
    (∀ first second : Value, first.identical second = true → first.looselyEqual second = true) ∧
    (∀ value : Value, value.looselyEqual value = true ↔ ¬Value.Within (.float .nan) value) ∧
    ∀ (value : Value) (operand : String),
      (identical.holds value operand = true → equal.holds value operand = true ∧ assign.holds value operand = true) ∧
      (notEqual.holds value operand = true → notIdentical.holds value operand = true) := by
  refine ⟨Value.looselyEqual_of_identical, fun _ => Value.looselyEqual_self_iff, ?_⟩
  intro value operand
  refine ⟨?_, notIdentical_of_notEqual⟩
  intro strict
  exact ⟨equal_of_identical strict, equal_of_identical strict⟩

/-- The two zeros next to a text that reads as infinite, and two texts cut off to the same whole number. -/
theorem identical_is_loosely_equal_zeros :
    (Value.list [.float (.finite true .zero), .list [.string "1e400"]]).identical
        (.list [.float (.finite false .zero), .list [.string "1e400"]]) = true ∧
      (Value.list [.float (.finite true .zero), .list [.string "1e400"]]).looselyEqual
        (.list [.float (.finite false .zero), .list [.string "1e400"]]) = true ∧
      identical.holds (.string "7.9") "'7.2'" = true ∧
      (equal.holds (.string "7.9") "'7.2'" = true ∧ assign.holds (.string "7.9") "'7.2'" = true) ∧
      notEqual.holds (.bool true) "0" = true ∧ notIdentical.holds (.bool true) "0" = true := by
  obtain ⟨loose, _, held⟩ := identical_is_loosely_equal
  have zeros : (Value.list [.float (.finite true .zero), .list [.string "1e400"]]).identical
      (.list [.float (.finite false .zero), .list [.string "1e400"]]) = true := by decide +kernel
  have strict : identical.holds (.string "7.9") "'7.2'" = true := by decide +kernel
  have different : notEqual.holds (.bool true) "0" = true := by decide +kernel
  exact ⟨zeros, loose _ _ zeros, strict, (held (.string "7.9") "'7.2'").1 strict, different,
    (held (.bool true) "0").2 different⟩

end Operator

end FieldLogic
