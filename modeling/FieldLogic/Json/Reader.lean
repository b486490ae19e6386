import FieldLogic.Json.Number
import FieldLogic.Text.Blank

/-! JSON documents from their text. Reading goes through the text once, so of several faults the first in the text
is found. Arrays and objects nest to a limited depth, except in values that are skipped. -/

namespace FieldLogic.Json
open Text

/-- Items separated by commas up to a closing bracket, from the first item on; each item is read in the light of
those before it. An item always takes some text, so the test of lengths never fails. -/
def readItems {σ : Type} (close : Char) (item : σ → List Char → Except Fault (σ × List Char)) (before : σ)
    (text : List Char) : Except Fault (σ × List Char) :=
  match item before text with
  | .error fault => .error fault
  | .ok (read, after) =>
    match skipSpace after with
    | [] => .error .unfinished
    | c :: rest =>
      if c = close then .ok (read, rest)
      else if _shorter : c = ',' ∧ rest.length < text.length then readItems close item read rest
      else .error .malformed
termination_by text.length
decreasing_by exact _shorter.2

def readBracketed {σ : Type} (close : Char) (item : σ → List Char → Except Fault (σ × List Char)) (before : σ)
    (text : List Char) : Except Fault (σ × List Char) :=
  match skipSpace text with
  | [] => .error .unfinished
  | c :: rest => if c = close then .ok (before, rest) else readItems close item before (c :: rest)

/-- A list between brackets, of items that do not depend on each other. -/
def readList {α : Type} (close : Char) (item : List Char → Except Fault (α × List Char)) (text : List Char) :
    Except Fault (List α × List Char) :=
  (readBracketed close (fun before text => (item text).map fun (read, rest) => (read :: before, rest)) [] text).map
    fun (read, rest) => (read.reverse, rest)

def readName (manner : Manner) (text : List Char) : Except Fault (String × List Char) :=
  match skipSpace text with
  | [] => .error .unfinished
  | c :: rest => if c = '"' then scanString manner rest else .error .malformed

def readMark (mark : Char) (text : List Char) : Except Fault (List Char) :=
  match skipSpace text with
  | [] => .error .unfinished
  | c :: rest => if c = mark then .ok rest else .error .malformed

def readMember (manner : Manner) (value : List Char → Except Fault (Document × List Char)) (text : List Char) :
    Except Fault ((String × Document) × List Char) := do
  let (name, afterName) ← readName manner text
  let afterColon ← readMark ':' afterName
  let (document, rest) ← value afterColon
  return ((name, document), rest)

/-- A value in which arrays and objects nest at most to the depth. -/
def readValue (manner : Manner) (depth : Nat) (text : List Char) : Except Fault (Document × List Char) :=
  match skipSpace text with
  | [] => .error .unfinished
  | c :: rest =>
    if c = 'n' then (finishWord ['u', 'l', 'l'] rest).map fun after => (.null, after)
    else if c = 't' then (finishWord ['r', 'u', 'e'] rest).map fun after => (.bool true, after)
    else if c = 'f' then (finishWord ['a', 'l', 's', 'e'] rest).map fun after => (.bool false, after)
    else if c = '"' then (scanString manner rest).map fun (read, after) => (.string read, after)
    else if c = '-' ∨ c.isDigit then scanNumber manner (c :: rest)
    else
      match depth with
      | 0 => .error .malformed
      | inner + 1 =>
        if c = '[' then
          (readList ']' (readValue manner inner) rest).map fun (items, after) => (.array items, after)
        else if c = '{' then
          (readList '}' (readMember manner (readValue manner inner)) rest).map fun (members, after) =>
            (.object members, after)
        else .error .malformed

def nesting : Nat := 127

def skipValue (text : List Char) : Except Fault (List Char) := (readValue .skipped text.length text).map (·.2)

def whole {α : Type} (read : List Char → Except Fault (α × List Char)) (text : String) : Except Fault α :=
  match read text.toList with
  | .error fault => .error fault
  | .ok (value, rest) => if (skipSpace rest).isEmpty then .ok value else .error .malformed

def Document.ofText (text : String) : Except Fault Document := whole (readValue .checked nesting) text

end FieldLogic.Json
