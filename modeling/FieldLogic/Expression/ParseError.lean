import FieldLogic.Text.Utf8

/-! Where and how a condition text is malformed. The offset counts bytes; each context is one pair of
parentheses, or the whole text, in which a condition was expected. -/

namespace FieldLogic

structure ParseError where
  expression : String
  offset : Nat
  contexts : Nat
deriving DecidableEq, Repr

namespace ParseError
open Text

def expectation (contexts : Nat) : String :=
  if contexts = 0 then "" else "expected " ++ String.intercalate ", " (List.replicate contexts "condition")

def spaces (count : Nat) : String := String.ofList (List.replicate count ' ')

def splitAtByte : Nat → List Char → List Char × List Char
  | _, [] => ([], [])
  | offset, c :: rest =>
    if offset = 0 then ([], c :: rest)
    else
      let (before, after) := splitAtByte (offset - c.utf8Size) rest
      (c :: before, after)

structure Position where
  line : String
  linesBefore : Nat
  column : Nat
deriving DecidableEq, Repr

/-- The position of the first character of `after` in the text `before ++ after`. -/
def positionOf (before after : List Char) (column : List Char → Nat) : Position :=
  let lineStart := (before.reverse.takeWhile (· ≠ '\n')).reverse
  ⟨String.ofList (lineStart ++ after.takeWhile (· ≠ '\n')), before.count '\n', column lineStart⟩

/-- The position of a byte offset. Columns count characters, but bytes where the character at the place takes
several; the end of the text lies one column behind its last character. -/
def position (text : List Char) (offset : Nat) : Position :=
  match splitAtByte offset text with
  | (before, []) =>
    positionOf before.dropLast (before.drop (before.length - 1)) fun lineStart => lineStart.length + 1
  | (before, c :: rest) =>
    positionOf before (c :: rest) fun lineStart => if c.utf8Size = 1 then lineStart.length else byteLength lineStart

def excerpt (place : Position) : String :=
  let number := toString (place.linesBefore + 1)
  let gutter := spaces number.length
  "parse error at line " ++ number ++ ", column " ++ toString (place.column + 1) ++ "\n" ++
    gutter ++ " |\n" ++ number ++ " | " ++ place.line ++ "\n" ++ gutter ++ " | " ++ spaces place.column ++ "^\n"

/-- A text of one line is repeated whole with a mark below the place, of several lines only the line concerned. -/
def detail (error : ParseError) : String :=
  (if '\n' ∈ error.expression.toList then excerpt (position error.expression.toList error.offset)
    else error.expression ++ "\n" ++ spaces error.offset ++ "^\n") ++ expectation error.contexts

def message (error : ParseError) : String := "parse error: " ++ error.detail

end ParseError

end FieldLogic
