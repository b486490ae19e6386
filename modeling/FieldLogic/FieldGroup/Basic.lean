import FieldLogic.ConditionSet.Basic
import FieldLogic.Digest.Blake3
import FieldLogic.Digest.Hexadecimal
import FieldLogic.FieldGroup.Field

/-! Groups of fields that are active while their conditions hold. Values entered while a group was active would stay
behind when it is not; its resets bring them back to their defaults. The record given is never changed. -/

namespace FieldLogic

structure FieldGroup where
  fields : List Field
  conditions : ConditionSet

namespace FieldGroup

def ofFields (fields : List Field) : FieldGroup := ⟨fields, .empty⟩

def keyText (fields : List Field) : String := String.intercalate "." (fields.map (·.attributeName))

/-- A name for the group that depends on its attributes only: half of the digest of their text. -/
def key (group : FieldGroup) : String :=
  "conditional_group_" ++
    String.ofList (Digest.hexadecimal ((Digest.Blake3.digest (keyText group.fields).toUTF8.toList).take 16))

def add (group : FieldGroup) (source : Source) : FieldGroup :=
  { group with conditions := group.conditions.add source }

def requireAll (group : FieldGroup) : FieldGroup := { group with conditions := group.conditions.requireAll }

/-- All fields while the conditions hold, otherwise none; and the group afterwards. -/
def activeFields (group : FieldGroup) (record : Record) : Traced (Except ParseError (List Field)) × FieldGroup :=
  let (outcome, conditions) := group.conditions.evaluate record
  (outcome.map fun result => result.map fun active => if active then group.fields else [],
    { group with conditions := conditions })

def resets (group : FieldGroup) : List Reset := (group.fields.filter Field.isResettable).map Field.reset

/-- The resets of an inactive group; an active one has none. -/
def staleResets (group : FieldGroup) (record : Record) : Traced (Except ParseError (List Reset)) × FieldGroup :=
  let (outcome, conditions) := group.conditions.evaluate record
  let stale : Traced (Except ParseError (List Reset)) :=
    match outcome.result with
    | .error error => ⟨.error error, outcome.diagnostics⟩
    | .ok true => ⟨.ok [], outcome.diagnostics⟩
    | .ok false => ⟨.ok group.resets, outcome.diagnostics ++ [.inactiveGroup group.key group.resets.length]⟩
  (stale, { group with conditions := conditions })

def applyResets (record : Record) (resets : List Reset) : Record :=
  resets.foldl (fun record reset => record.insert reset.attributeName reset.value) record

def snapshot (group : FieldGroup) : String × FieldGroup :=
  let (config, conditions) := group.conditions.snapshot
  (String.ofList (Json.writeObject
    [("key", Json.writeString group.key), ("mode", Json.writeString config.mode.name),
     ("fields", Json.writeArray (group.fields.map Field.jsonCharacters)),
     ("expressions", Json.writeArray (config.expressions.map Json.writeString))]),
    { group with conditions := conditions })

end FieldGroup

end FieldLogic
