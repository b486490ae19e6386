import FieldLogic.Expression.Printer
import FieldLogic.FieldGroup.Basic
import FieldLogic.Proofs.ReaderRun
import FieldLogic.Record.Json
import FieldLogic.Proofs.LeafGrammar
import FieldLogic.Proofs.TextLayout
import FieldLogic.Proofs.TreeDepth
import FieldLogic.Proofs.EvaluationOrder
import FieldLogic.Proofs.PrintedForm
import FieldLogic.Proofs.Normalization
import FieldLogic.Proofs.RoundTrip
import FieldLogic.Proofs.Composition
import FieldLogic.Proofs.FaultPlaces
import FieldLogic.Proofs.BareText
import FieldLogic.Proofs.ConditionText
import FieldLogic.Proofs.ConditionParts
import FieldLogic.Proofs.QuotedOperand
import FieldLogic.Proofs.SetOutcome
import FieldLogic.Proofs.SourceCalls
import FieldLogic.Proofs.LoadedSet
import FieldLogic.Proofs.WrittenJson
import FieldLogic.Proofs.ConfigText
import FieldLogic.Proofs.ComparisonOrder
import FieldLogic.Proofs.ComparisonSymmetry
import FieldLogic.Proofs.Rounding
import FieldLogic.Proofs.IntegerOperand
import FieldLogic.Proofs.NumeralGrammar
import FieldLogic.Proofs.TextNumbers
import FieldLogic.Proofs.GroupResets
import FieldLogic.Proofs.GroupKeys
import FieldLogic.Proofs.ComparisonAgreement
import FieldLogic.Proofs.TextSearch
import FieldLogic.Proofs.BooleanAlgebra
import FieldLogic.Proofs.DecimalRounding
import FieldLogic.Proofs.FlatRecord
import FieldLogic.Proofs.TruthTest
import FieldLogic.Proofs.WrittenNumbers
import FieldLogic.Proofs.ValueText
