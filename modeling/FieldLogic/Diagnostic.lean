import FieldLogic.Condition.Basic
import FieldLogic.ConditionSet.Mode

/-! Diagnostics that evaluation leaves behind, in the order in which things happened. They show which parts of a
condition were looked at. -/

namespace FieldLogic

inductive Severity where
  | trace
  | debug
deriving DecidableEq, Repr

namespace Severity

def name : Severity → String
  | trace => "TRACE"
  | debug => "DEBUG"

end Severity

inductive Diagnostic where
  | noOperator (literal : String)
  | missingAttribute (name : String)
  | compared (condition : Condition) (kind : String) (matched : Bool)
  | emptySet (mode : Mode)
  | evaluatedSet (mode : Mode) (conditions : Nat) (matched : Bool)
  | inactiveGroup (key : String) (resets : Nat)
  | skippedObject (name : String)
deriving DecidableEq, Repr

inductive Detail where
  | text (value : String)
  | flag (value : Bool)
  | count (value : Nat)
deriving DecidableEq, Repr

namespace Diagnostic

def severity : Diagnostic → Severity
  | noOperator _ | emptySet _ | evaluatedSet .. | inactiveGroup .. => .debug
  | missingAttribute _ | compared .. | skippedObject _ => .trace

def message : Diagnostic → String
  | noOperator _ => "leaf evaluates to false"
  | missingAttribute _ => "attribute missing from record"
  | compared .. => "leaf evaluated"
  | emptySet _ => "condition set has no expressions"
  | evaluatedSet .. => "condition set evaluated"
  | inactiveGroup .. => "inactive group resets"
  | skippedObject _ => "skipping nested object without id"

def details : Diagnostic → List (String × Detail)
  | noOperator literal => [("err", .text (Condition.noOperatorMessage literal))]
  | missingAttribute name | skippedObject name => [("attribute", .text name)]
  | compared condition kind matched =>
    [("attribute", .text condition.attributeName), ("operator", .text condition.operator.token),
     ("value", .text condition.operand), ("attribute_type", .text kind), ("matched", .flag matched)]
  | emptySet mode => [("mode", .text mode.name)]
  | evaluatedSet mode conditions matched =>
    [("mode", .text mode.name), ("expressions", .count conditions), ("matched", .flag matched)]
  | inactiveGroup key resets => [("group", .text key), ("resets", .count resets)]

end Diagnostic

/-- A result with the diagnostics on the way to it. -/
structure Traced (α : Type) where
  result : α
  diagnostics : List Diagnostic
deriving DecidableEq

namespace Traced

def silent {α : Type} (result : α) : Traced α := ⟨result, []⟩

def map {α β : Type} (f : α → β) (traced : Traced α) : Traced β := ⟨f traced.result, traced.diagnostics⟩

/-- The later result, after the diagnostics of both. -/
def followedBy {α β : Type} (first : Traced α) (later : Traced β) : Traced β :=
  ⟨later.result, first.diagnostics ++ later.diagnostics⟩

end Traced

end FieldLogic
