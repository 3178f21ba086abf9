import InfixCalculator.Decimal.PlainForm
import InfixCalculator.Expression.WholeValue
import InfixCalculator.Json.Reader
import InfixCalculator.Main
import InfixCalculator.Proofs.Chains
import InfixCalculator.Proofs.Literals
import InfixCalculator.Proofs.NumberTokens
import InfixCalculator.Proofs.Precedence
import InfixCalculator.Proofs.Resolution
import InfixCalculator.Proofs.Rows
import InfixCalculator.Proofs.Scanning
import InfixCalculator.Proofs.Validation
import InfixCalculator.Reduction.Chain
import InfixCalculator.Reduction.Resolution
import InfixCalculator.Token.Grammar
import InfixCalculator.Proofs.Engines
import InfixCalculator.Proofs.Agreement
import InfixCalculator.Proofs.Exactness
import InfixCalculator.Proofs.Derivations
import InfixCalculator.Proofs.Phases
import InfixCalculator.Proofs.Acceptance
import InfixCalculator.Proofs.Waiting
import InfixCalculator.Proofs.PlainForms
import InfixCalculator.Proofs.Expansion
import InfixCalculator.Proofs.Separators
import InfixCalculator.Proofs.Recognition
import InfixCalculator.Proofs.Places
import InfixCalculator.Proofs.Parentheses
import InfixCalculator.Proofs.GroupValues
import InfixCalculator.Proofs.StepCounts
import InfixCalculator.Proofs.OperatorCounts
import InfixCalculator.Proofs.ReductionSteps
import InfixCalculator.Proofs.SingleApplication
import InfixCalculator.Settings.Field
import InfixCalculator.Proofs.SettingsLayers
import InfixCalculator.CommandLine.LineByLine
import InfixCalculator.Proofs.Sessions
import InfixCalculator.Proofs.Refusals
import InfixCalculator.Proofs.StackHeights
import InfixCalculator.Proofs.LexicalFaults
import InfixCalculator.Proofs.TokenLayout
import InfixCalculator.Proofs.Arithmetic
import InfixCalculator.Proofs.NegatedGroups
import InfixCalculator.Proofs.ZeroSigns
import InfixCalculator.Proofs.FaultPlaces
import InfixCalculator.Proofs.ReportedFaults
import InfixCalculator.Proofs.LeftmostGroups
import InfixCalculator.Proofs.BinaryOperands
import InfixCalculator.Proofs.NaturalForms
import InfixCalculator.Proofs.JsonReading
import InfixCalculator.Proofs.EvaluationCommand
