import FieldLogic.Json.Document

/-! What the members of an object mean: one for each name, the last one written, in the order of the names. -/

namespace FieldLogic.Json.Document

def insertMember (name : String) (value : Document) : List (String × Document) → List (String × Document)
  | [] => [(name, value)]
  | (other, old) :: rest =>
    if name < other then (name, value) :: (other, old) :: rest
    else if name = other then (name, value) :: rest
    else (other, old) :: insertMember name value rest

def entries (members : List (String × Document)) : List (String × Document) :=
  members.foldl (fun sorted member => insertMember member.1 member.2 sorted) []

theorem lookup_insertMember (name other : String) (value : Document) (members : List (String × Document)) :
    (insertMember name value members).lookup other = if other = name then some value else members.lookup other := by
  induction members with
  | nil =>
    by_cases same : other = name
    · simp [insertMember, same]
    · simp [insertMember, List.lookup_cons, same, beq_eq_false_iff_ne.mpr same]
  | cons member rest ih =>
    obtain ⟨first, old⟩ := member
    rw [insertMember]
    by_cases same : other = name
    · subst same
      split
      next => simp
      next =>
        split
        next => simp
        next different => simp [List.lookup_cons, beq_eq_false_iff_ne.mpr different, ih]
    · have missed := beq_eq_false_iff_ne.mpr same
      split
      next => simp [List.lookup_cons, missed]
      next =>
        split
        next here => subst here; simp [List.lookup_cons, missed]
        next => simp only [List.lookup_cons, ih, if_neg same]

private theorem lookup_foldl (name : String) (members sorted : List (String × Document)) :
    (members.foldl (fun sorted member => insertMember member.1 member.2 sorted) sorted).lookup name =
      (members.reverse.lookup name).or (sorted.lookup name) := by
  induction members generalizing sorted with
  | nil => simp
  | cons member rest ih =>
    obtain ⟨first, value⟩ := member
    rw [List.foldl_cons, ih, lookup_insertMember, List.reverse_cons, List.lookup_append, Option.or_assoc]
    congr 1
    by_cases same : name = first
    · simp [same]
    · simp [List.lookup_cons, same, beq_eq_false_iff_ne.mpr same]

/-- Under each name stands what was written last. -/
theorem lookup_entries (name : String) (members : List (String × Document)) :
    (entries members).lookup name = members.reverse.lookup name := by
  simp [entries, lookup_foldl]

private theorem names_insertMember {name first : String} {value : Document} {members : List (String × Document)}
    (member : first ∈ (insertMember name value members).map (·.1)) :
    first = name ∨ first ∈ members.map (·.1) := by
  induction members with
  | nil => simpa [insertMember] using member
  | cons other rest ih =>
    simp only [insertMember] at member
    split at member
    next => simpa using member
    next =>
      split at member
      next same =>
        subst same
        simpa using member
      next =>
        simp only [List.map_cons, List.mem_cons] at member ⊢
        rcases member with here | later
        · exact .inr (.inl here)
        · rcases ih later with same | inside
          · exact .inl same
          · exact .inr (.inr inside)

theorem sorted_insertMember (name : String) (value : Document) {members : List (String × Document)}
    (sorted : (members.map (·.1)).Pairwise (· < ·)) :
    ((insertMember name value members).map (·.1)).Pairwise (· < ·) := by
  induction members with
  | nil => simp [insertMember]
  | cons member rest ih =>
    obtain ⟨other, old⟩ := member
    obtain ⟨least, later⟩ := List.pairwise_cons.mp sorted
    rw [insertMember]
    split
    next before =>
      refine List.pairwise_cons.mpr ⟨?_, sorted⟩
      intro next inside
      rcases List.mem_cons.mp inside with same | after
      · exact same ▸ before
      · exact String.lt_trans before (least next after)
    next notBefore =>
      split
      next same => subst same; exact sorted
      next different =>
        refine List.pairwise_cons.mpr ⟨?_, ih later⟩
        intro next inside
        rcases names_insertMember inside with same | after
        · subst same
          exact Decidable.byContradiction fun behind =>
            different (String.le_antisymm (String.not_lt.mp behind) (String.not_lt.mp notBefore))
        · exact least next after

/-- The names are in strict order, so each occurs once. -/
theorem sorted_entries (members : List (String × Document)) : ((entries members).map (·.1)).Pairwise (· < ·) := by
  have keeps (sorted : List (String × Document)) (ordered : (sorted.map (·.1)).Pairwise (· < ·)) :
      ((members.foldl (fun sorted member => insertMember member.1 member.2 sorted) sorted).map (·.1)).Pairwise
        (· < ·) := by
    induction members generalizing sorted with
    | nil => exact ordered
    | cons member rest ih => exact ih _ (sorted_insertMember _ _ ordered)
  exact keeps [] List.Pairwise.nil

end FieldLogic.Json.Document
