import FieldLogic.Value.Comparison

/-! Records: the values of attributes by name. Each name occurs once; a name with a dot is a name like any other. -/

namespace FieldLogic

/-- The entries with the value of a name replaced, or added at the end. -/
def insertEntry (name : String) (value : Value) : List (String × Value) → List (String × Value)
  | [] => [(name, value)]
  | (other, old) :: rest =>
    if other = name then (name, value) :: rest else (other, old) :: insertEntry name value rest

theorem insertEntry_names (name : String) (value : Value) (entries : List (String × Value)) :
    (insertEntry name value entries).map (·.1) =
      if name ∈ entries.map (·.1) then entries.map (·.1) else entries.map (·.1) ++ [name] := by
  induction entries with
  | nil => rfl
  | cons entry rest ih =>
    obtain ⟨other, old⟩ := entry
    rw [insertEntry]
    by_cases same : other = name
    · simp [same]
    · rw [if_neg same, List.map_cons, ih]
      by_cases later : name ∈ rest.map (·.1)
      · simp only [later, List.map_cons, List.mem_cons, or_true, if_true]
      · simp only [later, List.map_cons, List.mem_cons, Ne.symm same, or_false, if_false, List.cons_append]

theorem lookup_of_not_mem {α : Type} {entries : List (String × α)} {name : String} (absent : name ∉ entries.map (·.1)) :
    entries.lookup name = none := by
  rw [List.lookup_eq_none_iff]
  intro entry member
  rw [bne_iff_ne]
  rintro rfl
  exact absent (List.mem_map_of_mem member)

structure Record where
  entries : List (String × Value)
  distinct : (entries.map (·.1)).Nodup

namespace Record

def empty : Record := ⟨[], List.nodup_nil⟩

instance : Inhabited Record := ⟨empty⟩

def insert (record : Record) (name : String) (value : Value) : Record where
  entries := insertEntry name value record.entries
  distinct := by
    rw [insertEntry_names]
    split
    next => exact record.distinct
    next absent =>
      rw [List.nodup_append]
      exact ⟨record.distinct, by simp, by
        rintro first member second last rfl
        rw [List.mem_singleton] at last
        exact absent (last ▸ member)⟩

def get? (record : Record) (name : String) : Option Value := record.entries.lookup name

def contains (record : Record) (name : String) : Bool := (record.get? name).isSome

def size (record : Record) : Nat := record.entries.length

def isEmpty (record : Record) : Bool := record.entries.isEmpty

/-- The record of a list of attributes, where a later one replaces an earlier one of its name. -/
def ofList (attributes : List (String × Value)) : Record :=
  attributes.foldl (fun record entry => record.insert entry.1 entry.2) empty

/-- The same attributes with identical values, in any order. -/
def identical (first second : Record) : Bool :=
  first.size == second.size &&
    first.entries.all fun (name, value) => (second.get? name).any value.identical

@[simp] theorem get?_empty (name : String) : empty.get? name = none := rfl

private theorem lookup_insertEntry (name other : String) (value : Value) (entries : List (String × Value)) :
    (insertEntry name value entries).lookup other = if other = name then some value else entries.lookup other := by
  induction entries with
  | nil =>
    by_cases same : other = name
    · simp [insertEntry, same]
    · simp [insertEntry, List.lookup_cons, same, beq_eq_false_iff_ne.mpr same]
  | cons entry rest ih =>
    obtain ⟨first, old⟩ := entry
    rw [insertEntry]
    by_cases here : first = name
    · subst here
      by_cases same : other = first
      · simp [same]
      · simp [List.lookup_cons, same, beq_eq_false_iff_ne.mpr same]
    · rw [if_neg here]
      by_cases found : other = first
      · subst found
        simp [here]
      · simp only [List.lookup_cons, beq_eq_false_iff_ne.mpr found]
        exact ih

theorem get?_insert (record : Record) (name other : String) (value : Value) :
    (record.insert name value).get? other = if other = name then some value else record.get? other :=
  lookup_insertEntry name other value record.entries

end Record

end FieldLogic
