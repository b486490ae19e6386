import FieldLogic.Record.Json
import Mathlib.Data.List.Basic

/-! Flat values and records from JSON. However deep a document nests, its value holds no list inside a list and no null in
one, and what stands for an object is what stands for its `id`. A record has one attribute for each name of the object it is
read from, except for the names of objects without an `id`, and each of these leaves one diagnostic. -/

namespace FieldLogic

/-- An object that has nothing to stand for it. -/
def Json.Document.Anonymous (document : Json.Document) : Prop :=
  ∃ members, document = .object members ∧ "id" ∉ members.map (·.1)

namespace Value
open Json

/-- A scalar, null, or a list of scalars. -/
def IsFlat (value : Value) : Prop := ∀ items, value = list items → ∀ item ∈ items, item.isScalar = true

theorem flatItems_eq_filter (items : List Document) : flatItems items = (items.map ofJson).filter isScalar := by
  induction items with
  | nil => rfl
  | cons item rest ih => simp only [flatItems, List.map_cons, List.filter_cons, ih]

theorem identifier?_eq_lookup (members : List (String × Document)) :
    identifier? members = (members.reverse.lookup "id").map ofJson := by
  induction members with
  | nil => rfl
  | cons member rest ih =>
    obtain ⟨name, document⟩ := member
    rw [identifier?, ih, List.reverse_cons, List.lookup_append]
    cases rest.reverse.lookup "id" with
    | some later => rfl
    | none =>
      by_cases named : name = "id"
      · simp [named]
      · simp [named, List.lookup_cons, beq_eq_false_iff_ne.mpr (Ne.symm named)]

theorem ofJson_array (items : List Document) : ofJson (.array items) = list ((items.map ofJson).filter isScalar) := by
  rw [ofJson, flatItems_eq_filter]

theorem ofJson_object (members : List (String × Document)) :
    ofJson (.object members) = (((Document.entries members).lookup "id").map ofJson).getD null := by
  rw [ofJson, identifier?_eq_lookup, Document.lookup_entries]

theorem ofJson_integer (value : Int) :
    (∃ integer : Int64, integer.toInt = value ∧ ofJson (.integer value) = int integer) ∨
      (∀ integer : Int64, integer.toInt ≠ value) ∧ ofJson (.integer value) = float (.ofInt value) := by
  rw [ofJson, ofInteger]
  split
  next inside =>
    have most : Int64.maxValue.toInt = 9223372036854775807 := rfl
    exact .inl ⟨Int64.ofInt value, Int64.toInt_ofInt_of_le inside.1 (by omega), rfl⟩
  next outside =>
    refine .inr ⟨?_, rfl⟩
    rintro integer rfl
    exact outside ⟨integer.minValue_le_toInt, integer.toInt_le⟩

theorem isFlat_ofInteger (value : Int) : (ofInteger value).IsFlat := by
  unfold ofInteger
  split <;> exact fun _ same => nomatch same

mutual

theorem isFlat_ofJson (document : Document) : (ofJson document).IsFlat := by
  match document with
  | .null | .bool _ | .number _ | .string _ => exact fun _ same => nomatch same
  | .integer value => exact isFlat_ofInteger value
  | .array items =>
    intro kept same item member
    rw [ofJson_array, list.injEq] at same
    rw [← same] at member
    exact (List.mem_filter.mp member).2
  | .object members =>
    rw [ofJson]
    cases found : identifier? members with
    | none => exact fun _ same => nomatch same
    | some value => exact isFlat_identifier members value found

theorem isFlat_identifier (members : List (String × Document)) (value : Value) (found : identifier? members = some value) :
    value.IsFlat := by
  match members with
  | [] => cases found
  | (name, document) :: rest =>
    rw [identifier?] at found
    split at found
    next inner =>
      cases found
      exact isFlat_identifier rest value inner
    next =>
      split at found
      next =>
        cases found
        exact isFlat_ofJson document
      next => cases found

end

end Value

namespace Record
open Json

theorem isSkipped_iff (document : Document) : isSkipped document = true ↔ document.Anonymous := by
  cases document with
  | object members =>
    simp only [isSkipped, Bool.not_eq_true', List.any_eq_false, beq_iff_eq]
    constructor
    · intro other
      refine ⟨members, rfl, ?_⟩
      intro found
      obtain ⟨member, inside, named⟩ := List.mem_map.mp found
      exact other member inside named
    · intro nameless member inside named
      obtain ⟨inner, same, absent⟩ := nameless
      cases same
      exact absent (List.mem_map.mpr ⟨member, inside, named⟩)
  | _ => simp [isSkipped, Document.Anonymous]

instance (document : Document) : Decidable document.Anonymous := decidable_of_iff _ (isSkipped_iff document)

theorem addMember_anonymous {member : String × Document} (nameless : member.2.Anonymous) (traced : Traced Record) :
    addMember traced member = ⟨traced.result, traced.diagnostics ++ [.skippedObject member.1]⟩ :=
  if_pos ((isSkipped_iff member.2).mpr nameless)

theorem addMember_of_not_anonymous {member : String × Document} (named : ¬member.2.Anonymous) (traced : Traced Record) :
    addMember traced member = ⟨traced.result.insert member.1 (Value.ofJson member.2), traced.diagnostics⟩ :=
  if_neg (mt (isSkipped_iff member.2).mp named)

/-- The attributes that members with distinct names become, in order. -/
def attributesOf (members : List (String × Document)) : List (String × Value) :=
  (members.filter fun member => ¬member.2.Anonymous).map fun member => (member.1, Value.ofJson member.2)

def skippedNames (members : List (String × Document)) : List String :=
  (members.filter fun member => member.2.Anonymous).map (·.1)

theorem length_attributesOf (members : List (String × Document)) :
    (attributesOf members).length + (skippedNames members).length = members.length := by
  have parts := @List.length_eq_length_filter_add _ members fun member => decide member.2.Anonymous
  rw [attributesOf, skippedNames, List.length_map, List.length_map, parts, Nat.add_comm]
  simp only [decide_not]

theorem lookup_attributesOf {members : List (String × Document)} (distinct : (members.map (·.1)).Nodup) (name : String) :
    (attributesOf members).lookup name =
      (members.lookup name).bind fun member => if member.Anonymous then none else some (Value.ofJson member) := by
  induction members with
  | nil => rfl
  | cons member rest ih =>
    obtain ⟨first, document⟩ := member
    obtain ⟨absent, distinct⟩ := List.nodup_cons.mp distinct
    have later := ih distinct
    by_cases here : name = first
    · subst here
      rw [lookup_of_not_mem absent] at later
      by_cases nameless : document.Anonymous
      · simpa [attributesOf, nameless] using later
      · simp [attributesOf, nameless]
    · have other := beq_eq_false_iff_ne.mpr here
      by_cases nameless : document.Anonymous
      · simpa [attributesOf, nameless, List.lookup_cons, other] using later
      · simpa [attributesOf, nameless, List.lookup_cons, other] using later

theorem insertEntry_of_not_mem {name : String} {entries : List (String × Value)} (value : Value)
    (absent : name ∉ entries.map (·.1)) : insertEntry name value entries = entries ++ [(name, value)] := by
  induction entries with
  | nil => rfl
  | cons entry rest ih =>
    obtain ⟨other, old⟩ := entry
    rw [List.map_cons, List.mem_cons, not_or] at absent
    rw [insertEntry, if_neg (Ne.symm absent.1), ih absent.2, List.cons_append]

/-- Members with new names are added behind the attributes that are there. -/
theorem foldl_addMember {members : List (String × Document)} {traced : Traced Record}
    (distinct : (members.map (·.1)).Nodup)
    (new : ∀ name ∈ members.map (·.1), name ∉ traced.result.entries.map (·.1)) :
    (members.foldl addMember traced).result.entries = traced.result.entries ++ attributesOf members ∧
      (members.foldl addMember traced).diagnostics = traced.diagnostics ++ (skippedNames members).map .skippedObject := by
  induction members generalizing traced with
  | nil => simp [attributesOf, skippedNames]
  | cons member rest ih =>
    obtain ⟨absent, distinct⟩ := List.nodup_cons.mp distinct
    rw [List.map_cons, List.forall_mem_cons] at new
    rw [List.foldl_cons]
    by_cases nameless : member.2.Anonymous
    · rw [addMember_anonymous nameless]
      obtain ⟨entries, diagnostics⟩ :=
        @ih ⟨traced.result, traced.diagnostics ++ [.skippedObject member.1]⟩ distinct new.2
      rw [entries, diagnostics]
      simp [attributesOf, skippedNames, nameless]
    · rw [addMember_of_not_anonymous nameless]
      have added : (traced.result.insert member.1 (Value.ofJson member.2)).entries =
          traced.result.entries ++ [(member.1, Value.ofJson member.2)] := insertEntry_of_not_mem _ new.1
      have later : ∀ name ∈ rest.map (·.1),
          name ∉ (traced.result.insert member.1 (Value.ofJson member.2)).entries.map (·.1) := by
        intro name inside
        rw [added, List.map_append, List.mem_append, not_or]
        refine ⟨new.2 name inside, ?_⟩
        intro same
        exact absent (List.mem_singleton.mp same ▸ inside)
      obtain ⟨entries, diagnostics⟩ :=
        @ih ⟨traced.result.insert member.1 (Value.ofJson member.2), traced.diagnostics⟩ distinct later
      rw [entries, diagnostics, added]
      simp [attributesOf, skippedNames, nameless]

theorem distinct_entries (members : List (String × Document)) : ((Document.entries members).map (·.1)).Nodup :=
  (Document.sorted_entries members).imp fun before => String.ne_of_lt before

/-- The value of a document is a scalar, null or a list of scalars. Scalars and null stand for themselves, integers as far as
they have 64 bits; a list keeps, in order, the values of those items that have scalars for values, and an object is worth
what its `id` is worth. Only an object makes a record. That has an attribute for
each of its names, with the value of what was written last under it, but none where that is an object without an `id`; those
names are reported, in order, so that attributes and reports together are as many as the names. -/
theorem document_flattened :
    ((∀ document, (Value.ofJson document).IsFlat) ∧
      (Value.ofJson .null = .null ∧ (∀ value, Value.ofJson (.bool value) = .bool value) ∧
        (∀ value, Value.ofJson (.number value) = .float value) ∧
        (∀ value, Value.ofJson (.string value) = .string value) ∧
        ∀ value, (∃ integer : Int64, integer.toInt = value ∧ Value.ofJson (.integer value) = .int integer) ∨
          (∀ integer : Int64, integer.toInt ≠ value) ∧ Value.ofJson (.integer value) = .float (.ofInt value)) ∧
      (∀ items, Value.ofJson (.array items) = .list ((items.map Value.ofJson).filter Value.isScalar)) ∧
      ∀ members, Value.ofJson (.object members) =
        (((Document.entries members).lookup "id").map Value.ofJson).getD .null) ∧
    (∀ document, (∃ traced, ofJson document = .ok traced) ↔ ∃ members, document = .object members) ∧
    ∀ members, ∃ traced, ofJson (.object members) = .ok traced ∧
      (∀ name, traced.result.get? name = ((Document.entries members).lookup name).bind fun member =>
        if member.Anonymous then none else some (Value.ofJson member)) ∧
      traced.diagnostics =
        ((Document.entries members).filter fun member => member.2.Anonymous).map (fun member => .skippedObject member.1) ∧
      traced.result.size + traced.diagnostics.length = (Document.entries members).length := by
  refine ⟨⟨Value.isFlat_ofJson, ⟨rfl, fun _ => rfl, fun _ => rfl, fun _ => rfl, Value.ofJson_integer⟩, Value.ofJson_array,
    Value.ofJson_object⟩, ?_, ?_⟩
  · intro document
    cases document with
    | object members => exact ⟨fun _ => ⟨members, rfl⟩, fun _ => ⟨_, rfl⟩⟩
    | _ => exact ⟨fun ⟨_, read⟩ => (nomatch read), fun ⟨_, same⟩ => (nomatch same)⟩
  · intro members
    have distinct := distinct_entries members
    have new : ∀ name ∈ (Document.entries members).map (·.1), name ∉ (Traced.silent empty).result.entries.map (·.1) :=
      fun _ _ => List.not_mem_nil
    obtain ⟨entries, diagnostics⟩ := foldl_addMember distinct new
    rw [show (Traced.silent empty).result.entries = [] from rfl, List.nil_append] at entries
    rw [show (Traced.silent empty).diagnostics = [] from rfl, List.nil_append] at diagnostics
    refine ⟨_, rfl, ?_, ?_, ?_⟩
    · intro name
      rw [get?, entries, lookup_attributesOf distinct]
    · rw [diagnostics, skippedNames, List.map_map]
      rfl
    · rw [size, entries, diagnostics, List.length_map, length_attributesOf]

end Record

end FieldLogic
