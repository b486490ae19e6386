import FieldLogic.ConditionSet.Config
import FieldLogic.ConditionSet.Source
import FieldLogic.Evaluation
import FieldLogic.Expression.Reader

/-! Condition sets: conditions in order with the mode that combines them. Each evaluation asks every source anew and
reads every condition, so a malformed one is found whatever the others say. The empty set never holds. -/

namespace FieldLogic

structure ConditionSet where
  sources : List Source
  mode : Mode

inductive LoadError where
  | parse (error : ParseError)
  | config (fault : Json.Fault)
  | missingFile
  | notUtf8
deriving DecidableEq

namespace ConditionSet

def empty : ConditionSet := ⟨[], .any⟩

instance : Inhabited ConditionSet := ⟨empty⟩

def add (set : ConditionSet) (source : Source) : ConditionSet := { set with sources := set.sources ++ [source] }

def withMode (set : ConditionSet) (mode : Mode) : ConditionSet := { set with mode := mode }

def requireAll (set : ConditionSet) : ConditionSet := set.withMode .all

def isEmpty (set : ConditionSet) : Bool := set.sources.isEmpty

def description (set : ConditionSet) : String :=
  "ConditionSet(" ++ toString set.sources.length ++ " expressions, mode " ++ set.mode.name ++ ")"

/-- The results of the sources in order up to the first malformed text, with the sources afterwards. Sources behind
a malformed text are not asked. -/
def evaluateSources (record : Record) : List Source → Traced (Except ParseError (List Bool)) × List Source
  | [] => (.silent (.ok []), [])
  | source :: rest =>
    match Expression.parse source.resolve.1 with
    | .error error => (.silent (.error error), source.resolve.2 :: rest)
    | .ok expression =>
      let first := expression.evaluate record
      let later := evaluateSources record rest
      (first.followedBy (later.1.map fun results => results.map (first.result :: ·)), source.resolve.2 :: later.2)

def evaluate (set : ConditionSet) (record : Record) : Traced (Except ParseError Bool) × ConditionSet :=
  if set.isEmpty then (⟨.ok false, [.emptySet set.mode]⟩, set)
  else
    let (results, sources) := evaluateSources record set.sources
    let outcome : Traced (Except ParseError Bool) :=
      match results.result with
      | .error error => ⟨.error error, results.diagnostics⟩
      | .ok flags =>
        let matched := set.mode.combine flags
        ⟨.ok matched, results.diagnostics ++ [.evaluatedSet set.mode flags.length matched]⟩
    (outcome, { set with sources := sources })

/-- The set as plain data, with the text that each source gives, and the set afterwards. -/
def snapshot (set : ConditionSet) : Config × ConditionSet :=
  let (texts, sources) := Source.resolveAll set.sources
  (⟨set.mode, texts⟩, { set with sources := sources })

/-- The set of a config whose conditions are all well-formed, or the first that is not. -/
def ofConfig (config : Config) : Except ParseError ConditionSet :=
  (config.expressions.mapM Expression.parse).map fun _ => ⟨config.expressions.map .fixed, config.mode⟩

def ofJson (text : String) : Except LoadError ConditionSet :=
  match Config.ofJson text with
  | .error fault => .error (.config fault)
  | .ok config => (ofConfig config).mapError .parse

def ofFile : Option ByteArray → Except LoadError ConditionSet
  | none => .error .missingFile
  | some bytes =>
    match String.fromUTF8? bytes with
    | none => .error .notUtf8
    | some text => ofJson text

end ConditionSet

end FieldLogic
