import FieldLogic.Json.Reader

/-! Values of given shapes from JSON text, read as the text goes by: strings, lists and names of variants. A value of
another shape is a fault that tells what was found and what was wanted. -/

namespace FieldLogic.Json
open Text

/-- The fault of the value that comes next, where another kind is wanted. Scalars are read to their end first, so
that a fault inside one comes before. -/
def unsuited (wanted : String) (text : List Char) : Fault :=
  match skipSpace text with
  | '[' :: _ => .unsuited (.invalidType (Document.array []).description wanted)
  | '{' :: _ => .unsuited (.invalidType (Document.object []).description wanted)
  | here =>
    match readValue .checked 0 here with
    | .error fault => fault
    | .ok (document, _) => .unsuited (.invalidType document.description wanted)

def decodeString (wanted : String) (text : List Char) : Except Fault (String × List Char) :=
  match skipSpace text with
  | '"' :: rest => scanString .checked rest
  | here => .error (unsuited wanted here)

def decodeList {α : Type} (item : List Char → Except Fault (α × List Char)) (text : List Char) :
    Except Fault (List α × List Char) :=
  match skipSpace text with
  | '[' :: rest => readList ']' item rest
  | here => .error (unsuited "a sequence" here)

def decodeUnit (text : List Char) : Except Fault (List Char) :=
  match skipSpace text with
  | 'n' :: rest => finishWord ['u', 'l', 'l'] rest
  | here => .error (unsuited "unit" here)

def variant {α : Type} (known : List (String × α)) (name : String) : Except Fault α :=
  match known.lookup name with
  | some value => .ok value
  | none => .error (.unsuited (.unknownVariant name (known.map (·.1))))

/-- A variant without content, as its name or as an object with the name and a null. -/
def decodeVariant {α : Type} (known : List (String × α)) (text : List Char) : Except Fault (α × List Char) :=
  match skipSpace text with
  | [] => .error .unfinished
  | '"' :: rest => do
    let (name, after) ← scanString .checked rest
    let value ← variant known name
    return (value, after)
  | '{' :: rest => do
    let (name, afterName) ← readName .checked rest
    let value ← variant known name
    let afterColon ← readMark ':' afterName
    let afterUnit ← decodeUnit afterColon
    let after ← readMark '\x7d' afterUnit
    return (value, after)
  | _ => .error .malformed

end FieldLogic.Json
