import FieldLogic.Json.Decoder
import FieldLogic.Text.Blank
import FieldLogic.Value.Printer

/-! The fields of a host as a group sees them, and the resets of their attributes. Only plain fields that can be
written and have a name are reset. -/

namespace FieldLogic
open Json

namespace Field

/-- What a field holds: a value, identifiers of related things, or fields of its own. -/
inductive Kind where
  | plain
  | relational
  | composite
deriving DecidableEq, Repr, Inhabited

def Kind.name : Kind → String
  | plain => "plain"
  | relational => "relational"
  | composite => "composite"

def Kind.known : List (String × Kind) := [("plain", plain), ("relational", relational), ("composite", composite)]

def Kind.ofJson (text : String) : Except Fault Kind := whole (decodeVariant known) text

def Kind.jsonCharacters (kind : Kind) : List Char := writeString kind.name

end Field

structure Field where
  attributeName : String
  kind : Field.Kind
  isReadonly : Bool
  /-- The value to which a stale attribute is reset. -/
  default : Value

structure Reset where
  attributeName : String
  value : Value

namespace Field

/-- A writable plain field that is null unless filled. -/
def ofName (name : String) : Field := ⟨name, .plain, false, .null⟩

def isResettable (field : Field) : Bool :=
  field.kind == .plain && !field.isReadonly && !(Text.trim field.attributeName.toList).isEmpty

def reset (field : Field) : Reset := ⟨field.attributeName, field.default⟩

def jsonCharacters (field : Field) : List Char :=
  writeObject [("attribute", writeString field.attributeName), ("kind", field.kind.jsonCharacters),
    ("readonly", writeBool field.isReadonly), ("default", field.default.jsonCharacters)]

end Field

namespace Reset

def jsonCharacters (reset : Reset) : List Char :=
  writeObject [("attribute", writeString reset.attributeName), ("value", reset.value.jsonCharacters)]

def jsonText (resets : List Reset) : String := String.ofList (writeArray (resets.map jsonCharacters))

end Reset

end FieldLogic
