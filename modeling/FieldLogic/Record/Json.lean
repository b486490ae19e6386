import FieldLogic.Diagnostic
import FieldLogic.Json.Entries
import FieldLogic.Record
import FieldLogic.Value.Json

/-! Records from JSON objects. Members are taken in the order of their names; a member that is an object without an
`id` is left out. -/

namespace FieldLogic

structure RecordError where
  found : String
deriving DecidableEq, Repr

def RecordError.message (error : RecordError) : String :=
  "record source must be a JSON object, found " ++ error.found

namespace Record

/-- Whether a member has nothing to stand for it in a flat record. -/
def isSkipped : Json.Document → Bool
  | .object members => !(members.any fun member => member.1 == "id")
  | _ => false

def addMember (traced : Traced Record) (member : String × Json.Document) : Traced Record :=
  if isSkipped member.2 then ⟨traced.result, traced.diagnostics ++ [.skippedObject member.1]⟩
  else ⟨traced.result.insert member.1 (Value.ofJson member.2), traced.diagnostics⟩

def ofJson : Json.Document → Except RecordError (Traced Record)
  | .object members => .ok ((Json.Document.entries members).foldl addMember (.silent empty))
  | other => .error ⟨other.kind⟩

end Record

end FieldLogic
