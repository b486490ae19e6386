import FieldLogic.FieldGroup.Basic

/-! What the key of a group tells of it. The digest is taken of the names with a dot between each two, so a name with a
dot reads like two names, and no name at all like an empty one. That text tells the parts of the names between dots, in
order, and nothing else; groups that differ in these share a key only where the half of the digest in it collides. -/

namespace FieldLogic

namespace Digest

theorem hexadecimal_injective {bytes others : List UInt8} (same : hexadecimal bytes = hexadecimal others) :
    bytes = others := by
  have digits : ∀ digit < 16, ∀ other < 16, Nat.digitChar digit = Nat.digitChar other → digit = other := by decide
  induction bytes generalizing others with
  | nil =>
    cases others with
    | nil => rfl
    | cons other others => cases same
  | cons byte bytes ih =>
    cases others with
    | nil => cases same
    | cons other others =>
      simp only [hexadecimal, List.flatMap_cons, List.cons_append, List.nil_append, List.cons.injEq] at same
      obtain ⟨high, low, rest⟩ := same
      have small := byte.toNat_lt
      have limited := other.toNat_lt
      have upper := digits _ (by omega) _ (by omega) high
      have lower := digits _ (by omega) _ (by omega) low
      have first : byte = other := UInt8.toNat_inj.mp (by omega)
      rw [first, ih rest]

end Digest

namespace FieldGroup

/-- The names of fields cut at their dots, in order. Without fields there is one empty part. -/
def nameParts (fields : List Field) : List (List Char) :=
  if fields.isEmpty then [[]] else fields.flatMap fun field => field.attributeName.toList.splitOn '.'

theorem toList_keyText (fields : List Field) :
    (keyText fields).toList = ['.'].intercalate (fields.map (·.attributeName.toList)) := by
  rw [keyText, String.toList_intercalate, List.map_map]
  rfl

/-- Cutting the text of the names gives the parts of each: the dots between names cannot be told from those in names. -/
theorem splitOn_keyText (fields : List Field) : (keyText fields).toList.splitOn '.' = nameParts fields := by
  rw [toList_keyText]
  induction fields with
  | nil => rfl
  | cons first others ih =>
    cases others with
    | nil => simp [nameParts]
    | cons second others =>
      have more : (second :: others).map (·.attributeName.toList) ≠ [] := by simp
      rw [List.map_cons, List.intercalate_cons_of_ne_nil more, List.append_assoc, List.singleton_append,
        List.splitOn_append_cons_self, ih]
      simp [nameParts]

theorem keyText_eq_iff {fields others : List Field} :
    keyText fields = keyText others ↔ nameParts fields = nameParts others := by
  rw [← splitOn_keyText, ← splitOn_keyText, ← String.toList_inj]
  constructor
  · exact congrArg _
  · intro same
    have whole := congrArg (['.'].intercalate ·) same
    simpa only [List.intercalate_splitOn] using whole

theorem nameParts_of_undotted {fields : List Field} (begun : fields ≠ [])
    (undotted : ∀ field ∈ fields, '.' ∉ field.attributeName.toList) :
    nameParts fields = (fields.map (·.attributeName)).map String.toList := by
  rw [← splitOn_keyText, toList_keyText, List.splitOn_intercalate, List.map_map]
  · rfl
  · simpa using undotted
  · simpa using begun

theorem keyText_eq_iff_of_undotted {fields others : List Field}
    (undotted : ∀ field ∈ fields ++ others, '.' ∉ field.attributeName.toList) :
    keyText fields = keyText others ↔
      fields.map (·.attributeName) = others.map (·.attributeName) ∨
      fields = [] ∧ others.map (·.attributeName) = [""] ∨ fields.map (·.attributeName) = [""] ∧ others = [] := by
  have letters {names more : List String} : names.map String.toList = more.map String.toList ↔ names = more :=
    List.map_inj_right fun _ _ => String.toList_injective
  have nothing : nameParts [] = [""].map String.toList := rfl
  rw [List.forall_mem_append] at undotted
  rw [keyText_eq_iff]
  by_cases empty : fields = [] <;> by_cases missing : others = []
  · simp [empty, missing]
  · rw [empty, nothing, nameParts_of_undotted missing undotted.2, letters]
    simp [missing, @eq_comm _ [""]]
  · rw [missing, nothing, nameParts_of_undotted empty undotted.1, letters]
    simp [empty]
  · rw [nameParts_of_undotted empty undotted.1, nameParts_of_undotted missing undotted.2, letters]
    simp [empty, missing]

def halfDigest (text : String) : List UInt8 := (Digest.Blake3.digest text.toUTF8.toList).take 16

/-- Different texts with the same half of their digests. -/
def Collide (text other : String) : Prop := text ≠ other ∧ halfDigest text = halfDigest other

theorem key_eq_iff {group other : FieldGroup} :
    group.key = other.key ↔ halfDigest (keyText group.fields) = halfDigest (keyText other.fields) := by
  have digits : group.key = other.key ↔ Digest.hexadecimal (halfDigest (keyText group.fields)) =
      Digest.hexadecimal (halfDigest (keyText other.fields)) := (String.append_right_inj _).trans String.ofList_inj
  exact digits.trans ⟨Digest.hexadecimal_injective, congrArg Digest.hexadecimal⟩

/-- Groups have the same text of names exactly if their names have the same parts, which for names without dots are the
names, with none at all as an empty one. Groups with different parts share a key only if the digest collides. -/
theorem key_told_by_parts (group other : FieldGroup) :
    (keyText group.fields = keyText other.fields ↔ nameParts group.fields = nameParts other.fields) ∧
    ((∀ field ∈ group.fields ++ other.fields, '.' ∉ field.attributeName.toList) →
      (keyText group.fields = keyText other.fields ↔
        group.fields.map (·.attributeName) = other.fields.map (·.attributeName) ∨
        group.fields = [] ∧ other.fields.map (·.attributeName) = [""] ∨
        group.fields.map (·.attributeName) = [""] ∧ other.fields = [])) ∧
    (group.key = other.key ↔
      nameParts group.fields = nameParts other.fields ∨ Collide (keyText group.fields) (keyText other.fields)) := by
  refine ⟨keyText_eq_iff, keyText_eq_iff_of_undotted, ?_⟩
  rw [key_eq_iff, ← keyText_eq_iff]
  constructor
  · intro same
    by_cases equal : keyText group.fields = keyText other.fields
    · exact .inl equal
    · exact .inr ⟨equal, same⟩
  · rintro (equal | ⟨_, same⟩)
    · rw [equal]
    · exact same

/-- The dot stands on the other side of the only letter. -/
theorem key_told_by_parts_swapped :
    (∀ field ∈ [Field.ofName "", .ofName "a"] ++ [.ofName "a", .ofName ""], '.' ∉ field.attributeName.toList) ∧
      keyText [.ofName "", .ofName "a"] ≠ keyText [.ofName "a", .ofName ""] ∧
      ((ofFields [.ofName "", .ofName "a"]).key = (ofFields [.ofName "a", .ofName ""]).key → Collide ".a" "a.") := by
  have undotted : ∀ field ∈ [Field.ofName "", .ofName "a"] ++ [.ofName "a", .ofName ""],
      '.' ∉ field.attributeName.toList := by simp [Field.ofName]
  obtain ⟨parts, names, shared⟩ :=
    key_told_by_parts (ofFields [.ofName "", .ofName "a"]) (ofFields [.ofName "a", .ofName ""])
  have apart : keyText [.ofName "", .ofName "a"] ≠ keyText [.ofName "a", .ofName ""] := by
    intro same
    have told := (names undotted).mp same
    simp [ofFields, Field.ofName] at told
  refine ⟨undotted, apart, ?_⟩
  intro same
  rcases shared.mp same with equal | collide
  · exact (apart (parts.mpr equal)).elim
  · exact collide

/-- A name with a dot is taken for two names, and no name for an empty one. -/
theorem not_key_told_by_names :
    (keyText [.ofName "a.b"] = keyText [.ofName "a", .ofName "b"] ∧
      (ofFields [.ofName "a.b"]).key = (ofFields [.ofName "a", .ofName "b"]).key ∧
      [Field.ofName "a.b"].map (·.attributeName) ≠ [Field.ofName "a", .ofName "b"].map (·.attributeName)) ∧
    (keyText [] = keyText [.ofName ""] ∧ (ofFields []).key = (ofFields [.ofName ""]).key ∧
      ([] : List Field).map (·.attributeName) ≠ [Field.ofName ""].map (·.attributeName)) := by
  have dotted : keyText [.ofName "a.b"] = keyText [.ofName "a", .ofName "b"] := by decide
  have nothing : keyText [] = keyText [.ofName ""] := by decide
  refine ⟨⟨dotted, ?_, by decide⟩, nothing, ?_, by decide⟩
  · exact key_eq_iff.mpr (congrArg halfDigest dotted)
  · exact key_eq_iff.mpr (congrArg halfDigest nothing)

end FieldGroup

end FieldLogic
