/-! Looking for one text inside another. -/

namespace FieldLogic.Text

def remainder? : List Char → List Char → Option (List Char)
  | [], text => some text
  | _ :: _, [] => none
  | t :: token, c :: text => if t = c then remainder? token text else none

theorem remainder?_eq_some_iff {token text after : List Char} :
    remainder? token text = some after ↔ text = token ++ after := by
  fun_induction remainder? token text with
  | case1 text => simp [eq_comm]
  | case2 t token => simp
  | case3 t token text ih => simpa using ih
  | case4 t token c text other => simp [Ne.symm other]

/-- The text before and after the first occurrence of a token. -/
def cut (token : List Char) : List Char → Option (List Char × List Char)
  | [] => if token.isEmpty then some ([], []) else none
  | c :: rest =>
    match remainder? token (c :: rest) with
    | some after => some ([], after)
    | none => (cut token rest).map fun (before, after) => (c :: before, after)

def occurs (token text : List Char) : Bool := (cut token text).isSome

theorem eq_append_of_cut {token text before after : List Char} (found : cut token text = some (before, after)) :
    text = before ++ token ++ after := by
  induction text generalizing before with
  | nil =>
    simp only [cut, List.isEmpty_iff] at found
    split at found
    next empty => cases found; simp [empty]
    next => cases found
  | cons c rest ih =>
    rw [cut] at found
    split at found
    next tail start =>
      cases found
      simpa using remainder?_eq_some_iff.mp start
    next =>
      obtain ⟨⟨inner, last⟩, later, same⟩ := Option.map_eq_some_iff.mp found
      cases same
      rw [ih later]
      rfl

/-- No occurrence of a token starts before the first. -/
theorem length_le_of_cut {token text before after front back : List Char}
    (found : cut token text = some (before, after)) (same : text = front ++ token ++ back) :
    before.length ≤ front.length := by
  induction text generalizing before front with
  | nil =>
    simp only [cut, List.isEmpty_iff] at found
    split at found
    next => cases found; exact Nat.zero_le _
    next => cases found
  | cons c rest ih =>
    rw [cut] at found
    split at found
    next => cases found; exact Nat.zero_le _
    next start =>
      obtain ⟨⟨inner, last⟩, later, equal⟩ := Option.map_eq_some_iff.mp found
      cases equal
      cases front with
      | nil =>
        rw [List.nil_append] at same
        rw [remainder?_eq_some_iff.mpr same] at start
        cases start
      | cons first front =>
        rw [List.cons_append, List.cons_append, List.cons.injEq] at same
        exact Nat.succ_le_succ (ih later same.2)

theorem occurs_iff (token text : List Char) : occurs token text = true ↔ token <:+: text := by
  induction text with
  | nil =>
    cases token <;> simp [occurs, cut]
  | cons c rest ih =>
    rw [List.infix_cons_iff, ← ih, occurs, cut]
    split
    next tail start =>
      have front : token <+: c :: rest := ⟨tail, (remainder?_eq_some_iff.mp start).symm⟩
      simp [front]
    next start =>
      have front : ¬ token <+: c :: rest := by
        rintro ⟨tail, same⟩
        rw [remainder?_eq_some_iff.mpr same.symm] at start
        cases start
      simp [front, occurs]

end FieldLogic.Text
