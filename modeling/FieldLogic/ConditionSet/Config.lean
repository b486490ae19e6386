import FieldLogic.ConditionSet.Mode
import FieldLogic.Json.Decoder
import FieldLogic.Json.Writer

/-! Condition sets as plain data, and their JSON form: an object with `mode` and `expressions`, or an array of the
two. What is left out is `any` and no expression; members of other names are passed over. -/

namespace FieldLogic
open Json Text

namespace Mode

def known : List (String × Mode) := [("any", any), ("all", all)]

def decode : List Char → Except Fault (Mode × List Char) := decodeVariant known

end Mode

structure Config where
  mode : Mode
  expressions : List String
deriving DecidableEq, Repr, Inhabited

namespace Config

structure Members where
  mode? : Option Mode
  expressions? : Option (List String)

def Members.config (members : Members) : Config := ⟨members.mode?.getD .any, members.expressions?.getD []⟩

def decodeExpressions : List Char → Except Fault (List String × List Char) := decodeList (decodeString "a string")

/-- One member; a second one of its name is a fault before its value is looked at. -/
def decodeMember (members : Members) (text : List Char) : Except Fault (Members × List Char) := do
  let (name, afterName) ← readName .checked text
  if name = "mode" then
    if members.mode?.isSome then throw (.unsuited (.duplicateField name))
    let afterColon ← readMark ':' afterName
    let (mode, rest) ← Mode.decode afterColon
    return ({ members with mode? := some mode }, rest)
  else if name = "expressions" then
    if members.expressions?.isSome then throw (.unsuited (.duplicateField name))
    let afterColon ← readMark ':' afterName
    let (expressions, rest) ← decodeExpressions afterColon
    return ({ members with expressions? := some expressions }, rest)
  else
    let afterColon ← readMark ':' afterName
    let rest ← skipValue afterColon
    return (members, rest)

/-- The array form, from after its bracket. Nothing may follow the second item. -/
def decodeItems (text : List Char) : Except Fault (Config × List Char) :=
  match skipSpace text with
  | ']' :: rest => .ok (⟨.any, []⟩, rest)
  | here => do
    let (mode, afterMode) ← Mode.decode here
    match skipSpace afterMode with
    | [] => throw .unfinished
    | ']' :: rest => return (⟨mode, []⟩, rest)
    | ',' :: rest =>
      let (expressions, afterExpressions) ← decodeExpressions rest
      let after ← readMark ']' afterExpressions
      return (⟨mode, expressions⟩, after)
    | _ => throw .malformed

def decode (text : List Char) : Except Fault (Config × List Char) :=
  match skipSpace text with
  | '{' :: rest =>
    (readBracketed '\x7d' decodeMember ⟨none, none⟩ rest).map fun (members, after) => (members.config, after)
  | '[' :: rest => decodeItems rest
  | here => .error (unsuited "struct ConditionSetConfig" here)

def ofJson (text : String) : Except Fault Config := whole decode text

def jsonText (config : Config) : String :=
  String.ofList (writeObject
    [("mode", writeString config.mode.name), ("expressions", writeArray (config.expressions.map writeString))])

def faultMessage (mismatch : Mismatch) : String := "invalid condition config: " ++ mismatch.message

end Config

end FieldLogic
