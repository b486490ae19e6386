import FieldLogic.Json.Document
import FieldLogic.Number.Notation
import FieldLogic.Text.Quoted

/-! What can be wrong with a JSON text: it ends too early, it goes on as no value can, or it holds a value that does
not suit what is wanted. Only the last has a wording here. -/

namespace FieldLogic.Json
open Number Text

inductive Mismatch where
  | unknownVariant (name : String) (known : List String)
  | duplicateField (name : String)
  | invalidType (found wanted : String)
deriving DecidableEq, Repr

inductive Fault where
  | unfinished
  | malformed
  | unsuited (mismatch : Mismatch)
deriving DecidableEq, Repr

def marked (text : String) : String := "`" ++ text ++ "`"

def alternatives : List String → String
  | [first, second] => marked first ++ " or " ++ marked second
  | [single] => marked single
  | names => "one of " ++ String.intercalate ", " (names.map marked)

/-- A document as named when another kind is wanted: scalars with their value. -/
def Document.description : Document → String
  | null => "null"
  | bool value => "boolean " ++ marked (if value then "true" else "false")
  | integer value => "integer " ++ marked (integerText value)
  | number value => "floating point " ++ marked (String.ofList value.jsonCharacters)
  | string value => "string " ++ quoted value
  | array _ => "sequence"
  | object _ => "map"

def Mismatch.message : Mismatch → String
  | unknownVariant name known => "unknown variant " ++ marked name ++ ", expected " ++ alternatives known
  | duplicateField name => "duplicate field " ++ marked name
  | invalidType found wanted => "invalid type: " ++ found ++ ", expected " ++ wanted

end FieldLogic.Json
