import FieldLogic.Json.Reader

/-! What JSON texts hold. Whatever a text is and however deep it nests, the numbers read from it are finite, and its integers
take no more than 64 bits with a sign or without one; so much is kept from number to value and from item to list. -/

namespace FieldLogic

namespace Json
open Number Text

/-- A document with finite numbers, and integers of at most 64 bits with or without a sign. -/
inductive Document.Bounded : Document → Prop where
  | null : Bounded .null
  | bool (value : Bool) : Bounded (.bool value)
  | integer {value : Int} (lower : -(1 <<< 63) ≤ value) (upper : value < 1 <<< 64) : Bounded (.integer value)
  | number (negative : Bool) (magnitude : Magnitude) : Bounded (.number (.finite negative magnitude))
  | string (text : String) : Bounded (.string text)
  | array {items : List Document} (each : ∀ item ∈ items, Bounded item) : Bounded (.array items)
  | object {members : List (String × Document)} (each : ∀ member ∈ members, Bounded member.2) : Bounded (.object members)

theorem Written.document?_bounded {written : Written} {document : Document} :
    written.document? = some document → document.Bounded := by
  fun_cases Written.document? written with
  | case1 size fits =>
    rintro ⟨⟩
    obtain ⟨_, fits⟩ := fits
    cases sign : written.negative with
    | true =>
      rw [sign, if_pos rfl] at fits
      exact .integer (by rw [signed, if_pos rfl]; omega) (by rw [signed, if_pos rfl]; omega)
    | false =>
      rw [sign, if_neg (by decide)] at fits
      exact .integer (by rw [signed, if_neg (by decide)]; omega) (by rw [signed, if_neg (by decide)]; omega)
  | case2 =>
    rintro ⟨⟩
    exact .number ..
  | case3 => exact fun none => nomatch none

variable {manner : Manner} {text rest : List Char} {document : Document}

theorem scanNumber_bounded (read : scanNumber manner text = .ok (document, rest)) : document.Bounded := by
  rw [scanNumber] at read
  split at read
  next => cases read
  next written after scanned =>
    split at read
    next stands =>
      cases read
      exact Written.document?_bounded stands
    next =>
      cases read
      exact .null
    next => cases read

section

variable {ε α β : Type} {outcome : Except ε α}

theorem exists_of_map_eq_ok {change : α → β} {result : β} (mapped : outcome.map change = .ok result) :
    ∃ found, outcome = .ok found ∧ change found = result := by
  cases outcome with
  | error => cases mapped
  | ok found => exact ⟨found, rfl, Except.ok.inj mapped⟩

theorem exists_of_bind_eq_ok {next : α → Except ε β} {result : β} (bound : (outcome >>= next) = .ok result) :
    ∃ found, outcome = .ok found ∧ next found = .ok result := by
  cases outcome with
  | error => cases bound
  | ok found => exact ⟨found, rfl, bound⟩

end

section

variable {close : Char}

/-- What every item keeps holds of all that is read between brackets. -/
theorem readItems_keeps {σ : Type} {item : σ → List Char → Except Fault (σ × List Char)} {kept : σ → Prop}
    (step : ∀ {before text read rest}, kept before → item before text = .ok (read, rest) → kept read)
    {before read : σ} (holds : kept before) (done : readItems close item before text = .ok (read, rest)) : kept read := by
  fun_induction readItems close item before text with
  | case1 => cases done
  | case2 => cases done
  | case3 before text state after first =>
    cases done
    exact step holds first
  | case4 before text state after first c behind other shorter next ih => exact ih (step holds first) done
  | case5 => cases done

theorem readList_keeps {α : Type} {item : List Char → Except Fault (α × List Char)} {kept : α → Prop}
    (step : ∀ {text read rest}, item text = .ok (read, rest) → kept read) {items : List α}
    (done : readList close item text = .ok (items, rest)) : ∀ item ∈ items, kept item := by
  obtain ⟨⟨read, after⟩, bracketed, same⟩ := exists_of_map_eq_ok done
  obtain ⟨rfl, rfl⟩ := Prod.mk.inj same
  have each : ∀ item ∈ read, kept item := by
    rw [readBracketed] at bracketed
    split at bracketed
    next => cases bracketed
    next =>
      split at bracketed
      next =>
        cases bracketed
        exact List.forall_mem_nil _
      next =>
        have none : ∀ item ∈ ([] : List α), kept item := List.forall_mem_nil kept
        refine @readItems_keeps _ _ close _ _ (fun items => ∀ item ∈ items, kept item) ?_ _ _ none bracketed
        intro before text all rest holds next
        obtain ⟨⟨last, after⟩, found, same⟩ := exists_of_map_eq_ok next
        obtain ⟨rfl, rfl⟩ := Prod.mk.inj same
        exact List.forall_mem_cons.mpr ⟨step found, holds⟩
  exact fun item member => each item (List.mem_reverse.mp member)

end

theorem readMember_value {value : List Char → Except Fault (Document × List Char)} {member : String × Document}
    (read : readMember manner value text = .ok (member, rest)) : ∃ before, value before = .ok (member.2, rest) := by
  rw [readMember] at read
  obtain ⟨_, _, read⟩ := exists_of_bind_eq_ok read
  obtain ⟨before, _, read⟩ := exists_of_bind_eq_ok read
  obtain ⟨last, found, same⟩ := exists_of_bind_eq_ok read
  cases same
  exact ⟨before, found⟩

theorem bounded_of_map {α : Type} {outcome : Except Fault α} {change : α → Document × List Char}
    (mapped : outcome.map change = .ok (document, rest)) (each : ∀ found, outcome = .ok found → (change found).1.Bounded) :
    document.Bounded := by
  obtain ⟨found, outcome, same⟩ := exists_of_map_eq_ok mapped
  have bounded := each found outcome
  rw [same] at bounded
  exact bounded

theorem readValue_bounded {depth : Nat} (read : readValue manner depth text = .ok (document, rest)) :
    document.Bounded := by
  induction depth using Nat.strongRecOn generalizing text document rest with
  | ind depth ih =>
    rw [readValue] at read
    split at read
    next => cases read
    split at read
    next => exact bounded_of_map read fun _ _ => .null
    split at read
    next => exact bounded_of_map read fun _ _ => .bool true
    split at read
    next => exact bounded_of_map read fun _ _ => .bool false
    split at read
    next => exact bounded_of_map read fun _ _ => .string _
    split at read
    next => exact scanNumber_bounded read
    split at read
    next => cases read
    next inner =>
      have inside {text rest : List Char} {document : Document}
          (read : readValue manner inner text = .ok (document, rest)) : document.Bounded :=
        ih inner (Nat.lt_succ_self inner) read
      split at read
      next =>
        refine bounded_of_map read fun _ listed => .array ?_
        exact readList_keeps inside listed
      split at read
      next =>
        refine bounded_of_map read fun _ listed => .object ?_
        have named {text rest : List Char} {member : String × Document}
            (found : readMember manner (readValue manner inner) text = .ok (member, rest)) : member.2.Bounded := by
          obtain ⟨_, value⟩ := readMember_value found
          exact inside value
        exact readList_keeps named listed
      next => cases read

theorem Document.ofText_bounded {text : String} (read : Document.ofText text = .ok document) : document.Bounded := by
  rw [Document.ofText, whole] at read
  split at read
  next => cases read
  next value rest found =>
    split at read
    next =>
      cases read
      exact readValue_bounded found
    next => cases read

end Json

end FieldLogic
