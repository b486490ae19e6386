import FieldLogic.Proofs.BoundedDocuments
import FieldLogic.Proofs.FlatRecord
import FieldLogic.Proofs.WrittenJson
import FieldLogic.Proofs.WrittenNumbers
import FieldLogic.Value.Printer

/-! Values as JSON text. The text of a value does not name its type, and yet it tells the value: an integer is written
without a point or an exponent and every number with one, and a string stands between quotes whatever it looks like. What
is read from a text has finite numbers and small integers only, so its value is one of those that come back. -/

namespace FieldLogic

namespace Value
open Json Number Text

/-- A scalar that JSON has a text for. -/
inductive Writable : Value → Prop where
  | int (value : Int64) : Writable (int value)
  | float (negative : Bool) (magnitude : Magnitude) : Writable (float (.finite negative magnitude))
  | bool (value : Bool) : Writable (bool value)
  | string (text : String) : Writable (string text)

/-- Null, a scalar or a list of scalars, each with a text in JSON. -/
inductive Storable : Value → Prop where
  | null : Storable null
  | scalar {value : Value} (writable : Writable value) : Storable value
  | list {items : List Value} (each : ∀ item ∈ items, Writable item) : Storable (list items)

mutual

def document : Value → Document
  | null => .null
  | int value => .integer value.toInt
  | float value => .number value
  | bool value => .bool value
  | string text => .string text
  | list items => .array (documents items)

def documents : List Value → List Document
  | [] => []
  | first :: others => first.document :: documents others

end

variable {value : Value} {items : List Value} {rest : List Char}

theorem documents_eq_map (items : List Value) : documents items = items.map document := by
  induction items with
  | nil => rfl
  | cons first others ih => rw [documents, ih, List.map_cons]

theorem jsonItems_eq_map (items : List Value) : jsonItems items = items.map jsonCharacters := by
  induction items with
  | nil => rfl
  | cons first others ih => rw [jsonItems, ih, List.map_cons]

theorem ofInteger_toInt (value : Int64) : ofInteger value.toInt = int value := by
  rw [ofInteger, if_pos ⟨value.minValue_le_toInt, value.toInt_le⟩, Int64.ofInt_toInt]

theorem Writable.isScalar (writable : Writable value) : value.isScalar = true := by
  cases writable <;> rfl

theorem Writable.ofJson_document (writable : Writable value) : ofJson value.document = value := by
  cases writable with
  | int value => exact ofInteger_toInt value
  | _ => rfl

theorem Storable.ofJson_document (storable : Storable value) : ofJson value.document = value := by
  cases storable with
  | null => rfl
  | scalar writable => exact writable.ofJson_document
  | @list items each =>
    have same : items.map (ofJson ∘ document) = items :=
      (List.map_congr_left fun item member => (each item member).ofJson_document).trans (List.map_id items)
    rw [document, documents_eq_map, ofJson_array, List.map_map, same]
    exact congrArg Value.list (List.filter_eq_self.mpr fun item member => (each item member).isScalar)

theorem readValue_of_startsNumber {text : List Char} (manner : Manner) (depth : Nat) (starts : StartsNumber text) :
    readValue manner depth text = scanNumber manner text := by
  obtain ⟨c, after, rfl, starts⟩ := starts
  have null : c ≠ 'n' := starts_ne starts (by decide) (by decide)
  have yes : c ≠ 't' := starts_ne starts (by decide) (by decide)
  have no : c ≠ 'f' := starts_ne starts (by decide) (by decide)
  have quote : c ≠ '"' := starts_ne starts (by decide) (by decide)
  rw [readValue, skipSpace_of_not_isSpace after (isSpace_eq_false_of_starts starts)]
  simp only [if_neg null, if_neg yes, if_neg no, if_neg quote, if_pos starts]

/-- A scalar is read from its text as its document, up to what cannot belong to a number. -/
theorem readValue_writable (writable : Writable value) (depth : Nat) (apart : Numeral.Apart rest) :
    readValue .checked depth (value.jsonCharacters ++ rest) = .ok (value.document, rest) := by
  cases writable with
  | int value =>
    have starts := (startsNumber_integer value.toInt).append rest
    rw [jsonCharacters, readValue_of_startsNumber .checked depth starts]
    have least := value.le_toInt
    have most := value.toInt_lt
    exact scanNumber_integer .checked (by omega) (by omega) apart
  | float negative magnitude =>
    have starts := (startsNumber_finite negative magnitude).append rest
    rw [jsonCharacters, readValue_of_startsNumber .checked depth starts]
    exact scanNumber_finite .checked negative magnitude apart
  | bool value =>
    cases value with
    | true =>
      rw [show (bool true).jsonCharacters ++ rest = 't' :: 'r' :: 'u' :: 'e' :: rest from rfl, readValue,
        skipSpace_of_not_isSpace _ (by decide)]
      rfl
    | false =>
      rw [show (bool false).jsonCharacters ++ rest = 'f' :: 'a' :: 'l' :: 's' :: 'e' :: rest from rfl, readValue,
        skipSpace_of_not_isSpace _ (by decide)]
      rfl
  | string text =>
    rw [jsonCharacters, writeString_append, readValue, skipSpace_of_not_isSpace _ (by decide)]
    simp only [scanString_written]
    rfl

theorem Writable.starts (writable : Writable value) :
    ∃ c tail, value.jsonCharacters = c :: tail ∧ isSpace c = false ∧ c ≠ ']' := by
  have numeral {text : List Char} (starts : StartsNumber text) :
      ∃ c tail, text = c :: tail ∧ isSpace c = false ∧ c ≠ ']' := by
    obtain ⟨c, tail, same, starts⟩ := starts
    exact ⟨c, tail, same, isSpace_eq_false_of_starts starts, starts_ne starts (by decide) (by decide)⟩
  cases writable with
  | int value => exact numeral (startsNumber_integer value.toInt)
  | float negative magnitude => exact numeral (startsNumber_finite negative magnitude)
  | bool value => cases value <;> exact ⟨_, _, rfl, by decide, by decide⟩
  | string text => exact ⟨'"', _, rfl, by decide, by decide⟩

theorem readBack_document (writable : Writable value) (depth : Nat) :
    ReadBack (fun document => (ofJson document).jsonCharacters) (readValue .checked depth) value.document where
  starts := by
    rw [writable.ofJson_document]
    exact writable.starts
  inside next rest delimits := by
    have apart : Numeral.Apart (next :: rest) := by
      rintro c ⟨⟩
      rcases delimits with rfl | rfl <;> decide
    rw [writable.ofJson_document]
    exact readValue_writable writable depth apart

theorem readValue_list (each : ∀ item ∈ items, Writable item) (depth : Nat) (rest : List Char) :
    readValue .checked (depth + 1) ((list items).jsonCharacters ++ rest) = .ok ((list items).document, rest) := by
  have written : (documents items).map (fun document => (ofJson document).jsonCharacters) = items.map jsonCharacters := by
    rw [documents_eq_map, List.map_map]
    exact List.map_congr_left fun item member => congrArg jsonCharacters (each item member).ofJson_document
  have opened : (list items).jsonCharacters ++ rest =
      '[' :: (commaSeparated ((documents items).map fun document => (ofJson document).jsonCharacters) ++ ']' :: rest) := by
    rw [written, jsonCharacters, jsonItems_eq_map, writeArray]
    simp
  have back : ∀ document ∈ documents items,
      ReadBack (fun document => (ofJson document).jsonCharacters) (readValue .checked depth) document := by
    rw [documents_eq_map]
    exact List.forall_mem_map.mpr fun item member => readBack_document (each item member) depth
  rw [opened, readValue, skipSpace_of_not_isSpace _ (by decide)]
  simp only [readList_written back]
  rfl

theorem Storable.ofText_jsonText (storable : Storable value) : Document.ofText value.jsonText = .ok value.document := by
  have apart : Numeral.Apart [] := by rintro c ⟨⟩
  have read : readValue .checked nesting value.jsonCharacters = .ok (value.document, []) := by
    rw [← List.append_nil value.jsonCharacters]
    cases storable with
    | null => rfl
    | scalar writable => exact readValue_writable writable nesting apart
    | list each => exact readValue_list each 126 []
  rw [Document.ofText, whole, jsonText, String.toList_ofList, read]
  rfl

/-! What documents become -/

theorem Storable.writable (storable : Storable value) (scalar : value.isScalar = true) : Writable value := by
  cases storable with
  | scalar writable => exact writable
  | null => cases scalar
  | list => cases scalar

theorem storable_ofInteger {value : Int} (lower : -(1 <<< 63) ≤ value) (upper : value < 1 <<< 64) :
    Storable (ofInteger value) := by
  rw [ofInteger]
  split
  next => exact .scalar (.int _)
  next =>
    obtain ⟨magnitude, finite⟩ := Binary64.ofInt_finite (show value.natAbs ≤ 1 <<< 64 by omega) (by decide)
    rw [finite]
    exact .scalar (.float _ magnitude)

theorem storable_ofJson {document : Document} (bounded : document.Bounded) : Storable (ofJson document) := by
  induction bounded with
  | null => exact .null
  | bool value => exact .scalar (.bool value)
  | integer lower upper => exact storable_ofInteger lower upper
  | number negative magnitude => exact .scalar (.float negative magnitude)
  | string text => exact .scalar (.string text)
  | @array items _ ih =>
    rw [ofJson_array]
    refine .list fun item member => ?_
    obtain ⟨inside, scalar⟩ := List.mem_filter.mp member
    obtain ⟨document, listed, rfl⟩ := List.mem_map.mp inside
    exact (ih document listed).writable scalar
  | @object members _ ih =>
    rw [ofJson, identifier?_eq_lookup]
    cases found : members.reverse.lookup "id" with
    | none => exact .null
    | some document =>
      obtain ⟨before, after, parts, _⟩ := List.lookup_eq_some_iff.mp found
      have member : ("id", document) ∈ members := by
        rw [← List.mem_reverse, parts]
        exact List.mem_append_right before (List.mem_cons_self ..)
      exact ih _ member

/-- A value that is null, a scalar or a list of scalars is read back from its text as it was, numbers and integers apart. A
document with finite numbers and small integers has such a value, and only such a document is read from a text, so writing
the value of what was read and reading it again changes nothing. -/
theorem ofJson_ofText_jsonText :
    (∀ {value}, Storable value → (Document.ofText value.jsonText).map ofJson = .ok value) ∧
      (∀ {document : Document}, document.Bounded →
        Storable (ofJson document) ∧ (Document.ofText (ofJson document).jsonText).map ofJson = .ok (ofJson document)) ∧
      ∀ {text : String} {document : Document}, Document.ofText text = .ok document →
        document.Bounded ∧ (Document.ofText (ofJson document).jsonText).map ofJson = .ok (ofJson document) := by
  have stored {value : Value} (storable : Storable value) : (Document.ofText value.jsonText).map ofJson = .ok value := by
    rw [storable.ofText_jsonText]
    exact congrArg Except.ok storable.ofJson_document
  refine ⟨stored, ?_, ?_⟩
  · intro document bounded
    exact ⟨storable_ofJson bounded, stored (storable_ofJson bounded)⟩
  · intro text document read
    have bounded := Document.ofText_bounded read
    exact ⟨bounded, stored (storable_ofJson bounded)⟩

/-- Zeros of all kinds next to the smallest numbers; an integer that is too large for one; and a text with items that are left
out, a zero that is no integer, and an exponent that is not kept. -/
theorem ofJson_ofText_jsonText_zeros :
    (Storable (list [int 0, float (.finite false .zero), float (.finite true .zero), string "0\n\"é", int Int64.minValue,
        float (.finite true ⟨1, by decide +kernel, by decide⟩)]) ∧
      (Document.ofText "[0,0.0,-0.0,\"0\\n\\\"é\",-9223372036854775808,-5e-324]").map ofJson =
        .ok (list [int 0, float (.finite false .zero), float (.finite true .zero), string "0\n\"é", int Int64.minValue,
          float (.finite true ⟨1, by decide +kernel, by decide⟩)])) ∧
    ((Document.object [("id", .integer 18446744073709551615)]).Bounded ∧
      (Document.ofText "1.8446744073709552e+19").map ofJson = .ok (ofJson (.object [("id", .integer 18446744073709551615)]))) ∧
    ∃ document, Document.ofText "[null, [1], \x7b\"id\": -0\x7d, 1e2]" = .ok document ∧ document.Bounded ∧
      (Document.ofText "[-0.0,100.0]").map ofJson = .ok (ofJson document) := by
  obtain ⟨stored, settled, settles⟩ := ofJson_ofText_jsonText
  have read_written {value : Value} {text : String} (storable : Storable value) (written : value.jsonText = text) :
      Storable value ∧ (Document.ofText text).map ofJson = .ok value := ⟨storable, written ▸ stored storable⟩
  refine ⟨read_written ?_ ?_, ?_, ?_⟩
  · apply Storable.list
    simp only [List.forall_mem_cons]
    exact ⟨.int 0, .float false .zero, .float true .zero, .string _, .int _, .float true _, List.forall_mem_nil _⟩
  · decide +kernel
  · have bounded : (Document.object [("id", .integer 18446744073709551615)]).Bounded :=
      .object (List.forall_mem_singleton.mpr (.integer (by decide) (by decide)))
    have written : (ofJson (.object [("id", .integer 18446744073709551615)])).jsonText = "1.8446744073709552e+19" := by
      decide +kernel
    have back := (settled bounded).2
    rw [written] at back
    exact ⟨bounded, back⟩
  · have written : (Document.ofText "[null, [1], \x7b\"id\": -0\x7d, 1e2]").toOption.map
        (fun document => (ofJson document).jsonText) = some "[-0.0,100.0]" := by decide +kernel
    cases read : Document.ofText "[null, [1], \x7b\"id\": -0\x7d, 1e2]" with
    | error fault =>
      rw [read] at written
      cases written
    | ok document =>
      rw [read] at written
      have same : (ofJson document).jsonText = "[-0.0,100.0]" := Option.some.inj written
      obtain ⟨bounded, back⟩ := settles read
      rw [same] at back
      exact ⟨document, rfl, bounded, back⟩

end Value

end FieldLogic
