import FieldLogic.Json.Fault
import FieldLogic.Text.Utf8

/-! The words and strings of a JSON text. Each scan gives what it read and the text after it, or the first fault. A
value can also be skipped: then a string may hold a surrogate without its partner. -/

namespace FieldLogic.Json
open Text

inductive Manner where
  | checked
  | skipped
deriving DecidableEq

def finishWord : List Char → List Char → Except Fault (List Char)
  | [], text => .ok text
  | _ :: _, [] => .error .unfinished
  | letter :: word, c :: rest => if c = letter then finishWord word rest else .error .malformed

def hexDigit? (c : Char) : Option Nat :=
  if '0' ≤ c ∧ c ≤ '9' then some (c.toNat - '0'.toNat)
  else if 'a' ≤ c ∧ c ≤ 'f' then some (c.toNat - 'a'.toNat + 10)
  else if 'A' ≤ c ∧ c ≤ 'F' then some (c.toNat - 'A'.toNat + 10)
  else none

/-- The number in the next four hexadecimal digits. A text of fewer than four bytes ends inside them. -/
def scanUnit : List Char → Except Fault (Nat × List Char)
  | a :: b :: c :: d :: rest =>
    match hexDigit? a, hexDigit? b, hexDigit? c, hexDigit? d with
    | some a, some b, some c, some d => .ok (((a * 16 + b) * 16 + c) * 16 + d, rest)
    | _, _, _, _ => .error .malformed
  | short => .error (if byteLength short < 4 then .unfinished else .malformed)

/-- The character of a leading surrogate and the trailing one that must be escaped next. -/
def scanTrailing (leading : Nat) : List Char → Except Fault (Char × List Char)
  | '\\' :: 'u' :: rest =>
    match scanUnit rest with
    | .error fault => .error fault
    | .ok (unit, after) =>
      if 0xdc00 ≤ unit ∧ unit ≤ 0xdfff then
        .ok (Char.ofNat (0x10000 + (leading - 0xd800) * 0x400 + (unit - 0xdc00)), after)
      else .error .malformed
  | [] | ['\\'] => .error .unfinished
  | _ => .error .malformed

/-- The character after a backslash and a `u`. In a skipped string a surrogate counts as the replacement character. -/
def scanCodePoint (manner : Manner) (text : List Char) : Except Fault (Char × List Char) :=
  match scanUnit text with
  | .error fault => .error fault
  | .ok (unit, after) =>
    if unit < 0xd800 ∨ 0xdfff < unit then .ok (Char.ofNat unit, after)
    else
      match manner with
      | .skipped => .ok ('\ufffd', after)
      | .checked => if 0xdc00 ≤ unit then .error .malformed else scanTrailing unit after

def escaped? : Char → Option Char
  | '"' => some '"'
  | '\\' => some '\\'
  | '/' => some '/'
  | 'b' => some '\x08'
  | 'f' => some '\x0c'
  | 'n' => some '\n'
  | 'r' => some '\r'
  | 't' => some '\t'
  | _ => none

def scanEscape (manner : Manner) : List Char → Except Fault (Char × List Char)
  | [] => .error .unfinished
  | c :: rest =>
    match escaped? c with
    | some meant => .ok (meant, rest)
    | none => if c = 'u' then scanCodePoint manner rest else .error .malformed

theorem scanUnit_length {text rest : List Char} {unit : Nat} (found : scanUnit text = .ok (unit, rest)) :
    rest.length < text.length := by
  unfold scanUnit at found
  split at found
  next =>
    split at found
    next =>
      simp only [Except.ok.injEq, Prod.mk.injEq] at found
      simp only [← found.2, List.length_cons]
      omega
    next => cases found
  next => cases found

theorem scanTrailing_length {leading : Nat} {text rest : List Char} {c : Char}
    (found : scanTrailing leading text = .ok (c, rest)) : rest.length < text.length := by
  unfold scanTrailing at found
  split at found
  next inner =>
    split at found
    next => cases found
    next unit after scanned =>
      split at found
      next =>
        simp only [Except.ok.injEq, Prod.mk.injEq] at found
        have := scanUnit_length scanned
        simp only [← found.2, List.length_cons]
        omega
      next => cases found
  all_goals cases found

theorem scanCodePoint_length {manner : Manner} {text rest : List Char} {c : Char}
    (found : scanCodePoint manner text = .ok (c, rest)) : rest.length < text.length := by
  unfold scanCodePoint at found
  split at found
  next => cases found
  next unit after scanned =>
    have := scanUnit_length scanned
    split at found
    next => cases found; exact this
    next =>
      split at found
      next => cases found; exact this
      next =>
        split at found
        next => cases found
        next => exact Nat.lt_trans (scanTrailing_length found) this

theorem scanEscape_length {manner : Manner} {text rest : List Char} {c : Char}
    (found : scanEscape manner text = .ok (c, rest)) : rest.length < text.length := by
  cases text with
  | nil => cases found
  | cons first text =>
    simp only [scanEscape] at found
    split at found
    next => cases found; simp
    next =>
      split at found
      next =>
        have := scanCodePoint_length found
        simp only [List.length_cons]
        omega
      next => cases found

def scanCharacters (manner : Manner) : List Char → Except Fault (List Char × List Char)
  | [] => .error .unfinished
  | c :: rest =>
    if c = '"' then .ok ([], rest)
    else if c = '\\' then
      match _found : scanEscape manner rest with
      | .error fault => .error fault
      | .ok (meant, after) => (scanCharacters manner after).map fun (read, last) => (meant :: read, last)
    else if c.toNat < 0x20 then .error .malformed
    else (scanCharacters manner rest).map fun (read, last) => (c :: read, last)
termination_by text => text.length
decreasing_by
  · exact Nat.lt_succ_of_lt (scanEscape_length _found)
  · exact Nat.lt_succ_self _

def scanString (manner : Manner) (text : List Char) : Except Fault (String × List Char) :=
  (scanCharacters manner text).map fun (read, rest) => (String.ofList read, rest)

end FieldLogic.Json
