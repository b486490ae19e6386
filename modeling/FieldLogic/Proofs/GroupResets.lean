import FieldLogic.Proofs.NamedAttributes
import FieldLogic.Proofs.SourceCalls
import Mathlib.Data.List.TakeWhile

/-! Resets of an inactive group. The active fields and the resets of a group answer to one evaluation of its conditions, so
they fail together or exactly one of them is empty for want of truth. Resets touch only the attributes they list. Where no
condition names one of these, the group stays inactive with the same resets, and carrying them out again changes nothing. -/

namespace FieldLogic

namespace Text

theorem trim_isEmpty (text : List Char) : (trim text).isEmpty = text.all isBlank := by
  rw [Bool.eq_iff_iff, List.isEmpty_iff, List.all_eq_true]
  constructor
  · intro nothing
    obtain ⟨blanks, same, blank⟩ := trimEnd_append_blanks (trimStart text)
    rw [← trim, nothing, List.nil_append] at same
    have whole : text.takeWhile isBlank ++ blanks = text := by
      rw [same]
      exact List.takeWhile_append_dropWhile
    rw [← whole, List.forall_mem_append]
    exact ⟨List.all_eq_true.mp List.all_takeWhile, blank⟩
  · intro blank
    rw [trim, trimStart, List.dropWhile_eq_nil_iff.mpr blank]
    rfl

end Text

/-- Entries with distinct names are known from the order of the names and the value of each. -/
theorem entries_eq {first second : List (String × Value)} (names : first.map (·.1) = second.map (·.1))
    (distinct : (first.map (·.1)).Nodup) (same : ∀ name, first.lookup name = second.lookup name) : first = second := by
  induction first generalizing second with
  | nil => exact (List.map_eq_nil_iff.mp names.symm).symm
  | cons entry rest ih =>
    obtain ⟨name, value⟩ := entry
    obtain ⟨⟨other, more⟩, others, rfl, head, tail⟩ := List.map_eq_cons_iff.mp names.symm
    obtain rfl : other = name := head
    rw [List.map_cons, List.nodup_cons] at distinct
    have here := same other
    rw [List.lookup_cons_self, List.lookup_cons_self, Option.some.injEq] at here
    have behind : rest = others := by
      apply ih tail.symm distinct.2
      intro name
      by_cases found : name = other
      · rw [found, lookup_of_not_mem distinct.1, lookup_of_not_mem (tail ▸ distinct.1)]
      · have later := same name
        simp only [List.lookup_cons, beq_eq_false_iff_ne.mpr found] at later
        exact later
    rw [here, behind]

namespace Record

def names (record : Record) : List String := record.entries.map (·.1)

theorem eq_of_get? {first second : Record} (names : first.names = second.names)
    (same : ∀ name, first.get? name = second.get? name) : first = second := by
  obtain ⟨entries, distinct⟩ := first
  obtain ⟨others, _⟩ := second
  obtain rfl : entries = others := entries_eq names distinct same
  rfl

theorem names_insert (record : Record) (name : String) (value : Value) :
    (record.insert name value).names = if name ∈ record.names then record.names else record.names ++ [name] :=
  insertEntry_names name value record.entries

theorem mem_names_insert (record : Record) (name : String) (value : Value) {other : String} :
    other ∈ (record.insert name value).names ↔ other = name ∨ other ∈ record.names := by
  rw [names_insert]
  split
  · constructor
    · exact .inr
    · rintro (rfl | member)
      · assumption
      · exact member
  · rw [List.mem_append, List.mem_singleton, or_comm]

end Record

namespace FieldGroup

section

variable {resets : List Reset} {name : String}

theorem applyResets_cons (record : Record) (reset : Reset) (others : List Reset) :
    applyResets record (reset :: others) = applyResets (record.insert reset.attributeName reset.value) others := rfl

/-- An attribute holds what is listed last for it, or else what it held before. -/
theorem get?_applyResets (record : Record) (resets : List Reset) (name : String) :
    (applyResets record resets).get? name =
      ((resets.reverse.find? fun reset => reset.attributeName == name).map Reset.value).or (record.get? name) := by
  induction resets generalizing record with
  | nil => rfl
  | cons reset others ih =>
    rw [applyResets_cons, ih, Record.get?_insert, List.reverse_cons, List.find?_append]
    cases others.reverse.find? fun reset => reset.attributeName == name with
    | some later => rfl
    | none =>
      by_cases here : name = reset.attributeName
      · simp [here]
      · simp [here, Ne.symm here]

theorem find?_reverse_isSome_iff :
    (resets.reverse.find? fun reset => reset.attributeName == name).isSome = true ↔ name ∈ resets.map Reset.attributeName := by
  rw [List.find?_isSome, List.mem_map]
  simp only [List.mem_reverse, beq_iff_eq]

theorem get?_applyResets_of_not_mem (record : Record) (unlisted : name ∉ resets.map Reset.attributeName) :
    (applyResets record resets).get? name = record.get? name := by
  have none : (resets.reverse.find? fun reset => reset.attributeName == name) = none :=
    Option.not_isSome_iff_eq_none.mp (mt find?_reverse_isSome_iff.mp unlisted)
  rw [get?_applyResets, none]
  rfl

theorem get?_applyResets_of_mem (record : Record) (listed : name ∈ resets.map Reset.attributeName) :
    (applyResets record resets).get? name =
      (resets.reverse.find? fun reset => reset.attributeName == name).map Reset.value := by
  obtain ⟨last, found⟩ := Option.isSome_iff_exists.mp (find?_reverse_isSome_iff.mpr listed)
  rw [get?_applyResets, found]
  rfl

theorem mem_names_applyResets (record : Record) :
    name ∈ (applyResets record resets).names ↔ name ∈ resets.map Reset.attributeName ∨ name ∈ record.names := by
  induction resets generalizing record with
  | nil => simp [applyResets]
  | cons reset others ih =>
    rw [applyResets_cons, ih, Record.mem_names_insert, List.map_cons, List.mem_cons, or_left_comm, or_assoc]

theorem names_applyResets_of_subset {record : Record} (present : resets.map Reset.attributeName ⊆ record.names) :
    (applyResets record resets).names = record.names := by
  induction resets generalizing record with
  | nil => rfl
  | cons reset others ih =>
    rw [List.map_cons, List.cons_subset] at present
    have kept : (record.insert reset.attributeName reset.value).names = record.names := by
      rw [Record.names_insert, if_pos present.1]
    rw [applyResets_cons, ih (kept ▸ present.2), kept]

theorem applyResets_applyResets (record : Record) (resets : List Reset) :
    applyResets (applyResets record resets) resets = applyResets record resets := by
  apply Record.eq_of_get?
  · exact names_applyResets_of_subset fun _ listed => (mem_names_applyResets record).mpr (.inl listed)
  · intro name
    by_cases listed : name ∈ resets.map Reset.attributeName
    · rw [get?_applyResets_of_mem _ listed, get?_applyResets_of_mem _ listed]
    · exact get?_applyResets_of_not_mem _ listed

end

variable (group : FieldGroup) (record : Record)

theorem activeFields_result :
    (group.activeFields record).1.result =
      (group.conditions.evaluate record).1.result.map fun active => if active then group.fields else [] := rfl

theorem staleResets_result :
    (group.staleResets record).1.result =
      (group.conditions.evaluate record).1.result.map fun active => if active then [] else group.resets :=
  congrArg Traced.result (group.staleResets_fst record)

/-- The resets of the fields that are plain and writable and whose name is not blank. -/
theorem resets_eq :
    group.resets = (group.fields.filter fun field =>
      field.kind == .plain && !field.isReadonly && field.attributeName.toList.any (!Text.isBlank ·)).map Field.reset := by
  rw [resets]
  congr 2
  funext field
  rw [Field.isResettable, Text.trim_isEmpty, List.not_all_eq_any_not]

theorem serve_of_fixed {group : FieldGroup} (fixed : group.conditions.Fixed) (request : Request) :
    (group.serve request).2 = group := by
  rw [serve_snd, ConditionSet.serve_snd, fixed.advanced]

/-- The active fields and the resets of a group with fixed conditions. Both fail with the error of the conditions, or all
fields are active and nothing is reset, or no field is active and the resets are those of the plain writable fields whose
name is not blank, in order. Carried out, these leave all other attributes as they were, and theirs hold what is listed
last for them. If no condition names one of theirs, the group is still inactive with the same resets, which change nothing
any more. -/
theorem resets_settle {group : FieldGroup} (fixed : group.conditions.Fixed) (record : Record) :
    let met := (group.conditions.evaluate record).1.result
    let active (record : Record) := (group.activeFields record).1.result
    let stale (record : Record) := (group.staleResets record).1.result
    let listed := (group.fields.filter fun field =>
      field.kind == .plain && !field.isReadonly && field.attributeName.toList.any (!Text.isBlank ·)).map Field.reset
    (group.activeFields record).2 = group ∧ (group.staleResets record).2 = group ∧
      ((∃ error, met = .error error ∧ active record = .error error ∧ stale record = .error error) ∨
        (met = .ok true ∧ active record = .ok group.fields ∧ stale record = .ok []) ∨
        (met = .ok false ∧ active record = .ok [] ∧ stale record = .ok listed ∧
          let after := applyResets record listed
          (∀ name ∉ listed.map Reset.attributeName, after.get? name = record.get? name) ∧
          (∀ name ∈ listed.map Reset.attributeName,
            after.get? name = (listed.reverse.find? fun reset => reset.attributeName == name).map Reset.value) ∧
          ((∀ name ∈ listed.map Reset.attributeName, name ∉ group.conditions.names) →
            active after = .ok [] ∧ stale after = .ok listed ∧ applyResets after listed = after))) := by
  intro met active stale listed
  have same : group.resets = listed := group.resets_eq
  have activeMet : active record = met.map fun active => if active then group.fields else [] :=
    group.activeFields_result record
  have staleMet : stale record = met.map fun active => if active then [] else listed :=
    same ▸ group.staleResets_result record
  refine ⟨serve_of_fixed fixed (.activeFields record), serve_of_fixed fixed (.staleResets record), ?_⟩
  rw [activeMet, staleMet]
  cases outcome : met with
  | error error => exact .inl ⟨error, rfl, rfl, rfl⟩
  | ok holds =>
    cases holds with
    | true => exact .inr (.inl ⟨rfl, rfl, rfl⟩)
    | false =>
      refine .inr (.inr ⟨rfl, rfl, rfl, fun name => get?_applyResets_of_not_mem record,
        fun name => get?_applyResets_of_mem record, ?_⟩)
      intro unnamed
      have agree : Record.Agree group.conditions.names (applyResets record listed) record := by
        intro name named
        exact get?_applyResets_of_not_mem record fun member => unnamed name member named
      have again : (group.conditions.evaluate (applyResets record listed)).1.result = .ok false := by
        rw [ConditionSet.evaluate_agree agree]
        exact outcome
      refine ⟨?_, ?_, applyResets_applyResets record listed⟩
      · exact (group.activeFields_result _).trans (by rw [again]; rfl)
      · exact (group.staleResets_result _).trans (by rw [again, same]; rfl)

/-- Two fields reset one attribute to different values, and others are readonly, relational or without a name. -/
theorem resets_settle_twice :
    let group : FieldGroup :=
      ⟨[⟨"note", .plain, false, .int 1⟩, ⟨"age", .plain, true, .null⟩, ⟨"tags", .relational, false, .null⟩,
        ⟨" ", .plain, false, .null⟩, ⟨"note", .plain, false, .float .nan⟩], ⟨[.fixed "age >= 18", .fixed "NOT x = 1"], .all⟩⟩
    let record := Record.ofList [("age", .int 17), ("note", .string "x")]
    let listed : List Reset := [⟨"note", .int 1⟩, ⟨"note", .float .nan⟩]
    group.conditions.Fixed ∧ (group.activeFields record).1.result = .ok [] ∧
      (group.staleResets record).1.result = .ok listed ∧
      (applyResets record listed).get? "note" = some (.float .nan) ∧
      (∀ name ∈ listed.map Reset.attributeName, name ∉ group.conditions.names) ∧
      (group.activeFields (applyResets record listed)).1.result = .ok [] ∧
      applyResets (applyResets record listed) listed = applyResets record listed := by
  intro group record listed
  have fixed : group.conditions.Fixed := by simp [ConditionSet.Fixed, group]
  have unmet : (group.conditions.evaluate record).1.result = .ok false := by decide +kernel
  have named : group.conditions.names = ["age", "x"] := by decide +kernel
  have unnamed : ∀ name ∈ listed.map Reset.attributeName, name ∉ group.conditions.names := by simp [named, listed]
  obtain ⟨_, _, ⟨_, failed, _⟩ | ⟨met, _⟩ | ⟨_, inactive, stale, _, held, settled⟩⟩ := resets_settle fixed record
  · rw [unmet] at failed
    cases failed
  · rw [unmet] at met
    cases met
  · obtain ⟨still, _, unchanged⟩ := settled unnamed
    exact ⟨fixed, inactive, stale, held "note" List.mem_cons_self, unnamed, still, unchanged⟩

end FieldGroup

end FieldLogic
