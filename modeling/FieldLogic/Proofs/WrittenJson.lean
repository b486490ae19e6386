import FieldLogic.Json.Decoder
import FieldLogic.Json.Writer
import Mathlib.Tactic.SplitIfs

/-! Reading what was written. Strings come back whatever characters they hold, and lists come back whatever kind of items
they hold, as long as each item comes back before a comma and before the closing bracket. What stands behind is left. -/

namespace FieldLogic.Json
open Text

/-! Strings -/

/-- How a character stands in a string: as itself, by a letter that means it, or by its number. -/
inductive Escaped (c : Char) : List Char → Prop where
  | plain (quote : c ≠ '"') (backslash : c ≠ '\\') (visible : ¬c.toNat < 0x20) : Escaped c [c]
  | letter {letter : Char} (means : escaped? letter = some c) : Escaped c ['\\', letter]
  | code (control : c.toNat < 0x20) :
      Escaped c ['\\', 'u', '0', '0', Nat.digitChar (c.toNat / 16), Nat.digitChar (c.toNat % 16)]

theorem escaped_escape (c : Char) : Escaped c (escape c) := by
  unfold escape
  split_ifs with quote backslash backspace page line carriage tab control
  · subst quote; exact .letter rfl
  · subst backslash; exact .letter rfl
  · subst backspace; exact .letter rfl
  · subst page; exact .letter rfl
  · subst line; exact .letter rfl
  · subst carriage; exact .letter rfl
  · subst tab; exact .letter rfl
  · exact .code control
  · exact .plain quote backslash control

theorem hexDigit?_digitChar : ∀ digit < 16, hexDigit? (Nat.digitChar digit) = some digit := by decide

theorem scanUnit_control {code : Nat} (control : code < 0x20) (rest : List Char) :
    scanUnit ('0' :: '0' :: Nat.digitChar (code / 16) :: Nat.digitChar (code % 16) :: rest) = .ok (code, rest) := by
  have zero : hexDigit? '0' = some 0 := by decide
  have high := hexDigit?_digitChar (code / 16) (by omega)
  have low := hexDigit?_digitChar (code % 16) (by omega)
  have value : ((0 * 16 + 0) * 16 + code / 16) * 16 + code % 16 = code := by omega
  simp only [scanUnit, zero, high, low, value]

variable (manner : Manner)

theorem scanEscape_letter {letter c : Char} (means : escaped? letter = some c) (rest : List Char) :
    scanEscape manner (letter :: rest) = .ok (c, rest) := by
  rw [scanEscape, means]

theorem scanEscape_code {c : Char} (control : c.toNat < 0x20) (rest : List Char) :
    scanEscape manner ('u' :: '0' :: '0' :: Nat.digitChar (c.toNat / 16) :: Nat.digitChar (c.toNat % 16) :: rest) =
      .ok (c, rest) := by
  have letter : escaped? 'u' = none := by decide
  have small : c.toNat < 0xd800 ∨ 0xdfff < c.toNat := by omega
  simp only [scanEscape, letter, if_true, scanCodePoint, scanUnit_control control, small, Char.ofNat_toNat]

theorem scanCharacters_backslash {text rest : List Char} {c : Char} (escape : scanEscape manner text = .ok (c, rest)) :
    scanCharacters manner ('\\' :: text) = (scanCharacters manner rest).map fun (read, last) => (c :: read, last) := by
  rw [scanCharacters, if_neg (by decide), if_pos rfl]
  split
  next fault found =>
    rw [escape] at found
    cases found
  next meant after found =>
    rw [escape] at found
    cases found
    rfl

/-- Each written character is read as the one it stands for. -/
theorem scanCharacters_escaped {c : Char} {written : List Char} (escaped : Escaped c written) (rest : List Char) :
    scanCharacters manner (written ++ rest) =
      (scanCharacters manner rest).map fun (read, last) => (c :: read, last) := by
  cases escaped with
  | plain quote backslash visible =>
    rw [List.singleton_append, scanCharacters, if_neg quote, if_neg backslash, if_neg visible]
  | letter means => exact scanCharacters_backslash manner (scanEscape_letter manner means rest)
  | code control => exact scanCharacters_backslash manner (scanEscape_code manner control rest)

theorem scanCharacters_written (text rest : List Char) :
    scanCharacters manner (text.flatMap escape ++ '"' :: rest) = .ok (text, rest) := by
  induction text with
  | nil => rw [List.flatMap_nil, List.nil_append, scanCharacters, if_pos rfl]
  | cons c text ih =>
    rw [List.flatMap_cons, List.append_assoc, scanCharacters_escaped manner (escaped_escape c), ih]
    rfl

theorem scanString_written (text : String) (rest : List Char) :
    scanString manner (text.toList.flatMap escape ++ '"' :: rest) = .ok (text, rest) := by
  simp [scanString, scanCharacters_written, Except.map]

theorem writeString_append (text : String) (rest : List Char) :
    writeString text ++ rest = '"' :: (text.toList.flatMap escape ++ '"' :: rest) := by
  simp [writeString]

theorem skipSpace_writeString (text : String) (rest : List Char) :
    skipSpace (writeString text ++ rest) = writeString text ++ rest := by
  rw [writeString_append, skipSpace_of_not_isSpace _ (by decide)]

theorem decodeString_writeString (wanted text : String) (rest : List Char) :
    decodeString wanted (writeString text ++ rest) = .ok (text, rest) := by
  rw [decodeString, skipSpace_writeString, writeString_append]
  exact scanString_written .checked text rest

theorem readName_writeString (name : String) (rest : List Char) :
    readName manner (writeString name ++ rest) = .ok (name, rest) := by
  rw [readName, skipSpace_writeString, writeString_append]
  exact scanString_written manner name rest

theorem decodeVariant_writeString {α : Type} {known : List (String × α)} {name : String} {value : α}
    (found : known.lookup name = some value) (rest : List Char) :
    decodeVariant known (writeString name ++ rest) = .ok (value, rest) := by
  rw [decodeVariant, skipSpace_writeString, writeString_append]
  have meant : variant known name = .ok value := by rw [variant, found]
  simp only [scanString_written, bind, Except.bind, meant]
  rfl

/-! Lists and members -/

theorem readMark_cons {mark : Char} (ink : isSpace mark = false) (rest : List Char) :
    readMark mark (mark :: rest) = .ok rest := by
  rw [readMark, skipSpace_of_not_isSpace rest ink]
  exact if_pos rfl

section

variable {σ : Type} {close : Char} {item : σ → List Char → Except Fault (σ × List Char)} {before read : σ}
  {text rest : List Char}

theorem readItems_comma (next : item before text = .ok (read, ',' :: rest)) (shorter : rest.length < text.length)
    (other : close ≠ ',') : readItems close item before text = readItems close item read rest := by
  have comma : skipSpace (',' :: rest) = ',' :: rest := skipSpace_of_not_isSpace rest (by decide)
  rw [readItems, next]
  simp only [comma, if_neg other.symm]
  rw [dif_pos ⟨trivial, shorter⟩]

theorem readItems_close (last : item before text = .ok (read, close :: rest)) (ink : isSpace close = false) :
    readItems close item before text = .ok (read, rest) := by
  rw [readItems, last]
  simp only [skipSpace_of_not_isSpace rest ink, if_true]

theorem readBracketed_of_ink {c : Char} {more : List Char} (begins : text = c :: more) (ink : isSpace c = false)
    (other : c ≠ close) : readBracketed close item before text = readItems close item before text := by
  subst begins
  rw [readBracketed, skipSpace_of_not_isSpace more ink]
  exact if_neg other

end

theorem commaSeparated_begins (first : List Char) (others : List (List Char)) :
    ∃ more, commaSeparated (first :: others) = first ++ more := by
  cases others with
  | nil => exact ⟨[], (List.append_nil first).symm⟩
  | cons second others => exact ⟨_, rfl⟩

section

variable {α : Type} {write : α → List Char} {decode : List Char → Except Fault (α × List Char)}

/-- What a list needs of an item: that it begins with something that does not close the list, and that it comes back
before a comma and before the bracket that does. -/
structure ReadBack (write : α → List Char) (decode : List Char → Except Fault (α × List Char)) (item : α) : Prop where
  starts : ∃ c tail, write item = c :: tail ∧ isSpace c = false ∧ c ≠ ']'
  inside : ∀ next rest, next = ',' ∨ next = ']' → decode (write item ++ next :: rest) = .ok (item, next :: rest)

theorem readBack_writeString (wanted text : String) : ReadBack writeString (decodeString wanted) text where
  starts := ⟨'"', _, rfl, by decide, by decide⟩
  inside next rest _ := decodeString_writeString wanted text (next :: rest)

theorem readItems_written {first : α} {others : List α} (each : ∀ item ∈ first :: others, ReadBack write decode item)
    (before : List α) (rest : List Char) :
    readItems ']' (fun before text => (decode text).map fun (read, rest) => (read :: before, rest)) before
        (commaSeparated ((first :: others).map write) ++ ']' :: rest) = .ok ((first :: others).reverse ++ before, rest) := by
  induction others generalizing first before with
  | nil =>
    have last := (each first (by simp)).inside ']' rest (.inr rfl)
    refine readItems_close ?_ (by decide)
    simp only [List.map_cons, List.map_nil, commaSeparated, last]
    rfl
  | cons second others ih =>
    have next := (each first (by simp)).inside ',' (commaSeparated ((second :: others).map write) ++ ']' :: rest) (.inl rfl)
    have split : commaSeparated ((first :: second :: others).map write) ++ ']' :: rest =
        write first ++ ',' :: (commaSeparated ((second :: others).map write) ++ ']' :: rest) := by
      simp [commaSeparated]
    have shorter : (commaSeparated ((second :: others).map write) ++ ']' :: rest).length <
        (write first ++ ',' :: (commaSeparated ((second :: others).map write) ++ ']' :: rest)).length := by
      simp only [List.length_append, List.length_cons]
      omega
    have later : ∀ item ∈ second :: others, ReadBack write decode item := fun item member =>
      each item (List.mem_cons_of_mem _ member)
    rw [split]
    refine (readItems_comma ?_ shorter (by decide)).trans ((ih later (first :: before)).trans ?_)
    · rw [next]
      rfl
    · simp

/-- A list of items that each come back comes back whole. -/
theorem readList_written {items : List α} (each : ∀ item ∈ items, ReadBack write decode item) (rest : List Char) :
    readList ']' decode (commaSeparated (items.map write) ++ ']' :: rest) = .ok (items, rest) := by
  cases items with
  | nil =>
    have closed : skipSpace (']' :: rest) = ']' :: rest := skipSpace_of_not_isSpace rest (by decide)
    simp [readList, readBracketed, commaSeparated, closed, Except.map]
  | cons first others =>
    obtain ⟨c, tail, begins, ink, other⟩ := (each first (by simp)).starts
    obtain ⟨more, same⟩ := commaSeparated_begins (write first) (others.map write)
    have text : commaSeparated ((first :: others).map write) ++ ']' :: rest = c :: (tail ++ (more ++ ']' :: rest)) := by
      rw [List.map_cons, same, begins]
      simp
    rw [readList, readBracketed_of_ink text ink other, readItems_written each]
    simp [Except.map]

theorem decodeList_writeArray {items : List α} (each : ∀ item ∈ items, ReadBack write decode item) (rest : List Char) :
    decodeList decode (writeArray (items.map write) ++ rest) = .ok (items, rest) := by
  have opened : writeArray (items.map write) ++ rest = '[' :: (commaSeparated (items.map write) ++ ']' :: rest) := by
    simp [writeArray]
  rw [decodeList, opened, skipSpace_of_not_isSpace _ (by decide)]
  exact readList_written each rest

end

end FieldLogic.Json
