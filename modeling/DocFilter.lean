import DocFilter.Main
import DocFilter.Proofs.Logged
import DocFilter.Proofs.Text
import DocFilter.Proofs.Grammar
import DocFilter.Proofs.Numeral
import DocFilter.Proofs.Pattern
import DocFilter.Proofs.Validation
import DocFilter.Proofs.Reading.Operand
import DocFilter.Proofs.Reading.Predicate
import DocFilter.Proofs.Reading.Formula
import DocFilter.Proofs.Reading.Failures
import DocFilter.Proofs.Reading.OpenGroups
import DocFilter.Proofs.Reading.Again
import DocFilter.Proofs.Equality
import DocFilter.Proofs.Rendering
import DocFilter.Proofs.Rendering.Exact
import DocFilter.Proofs.Matching.Runs
import DocFilter.Proofs.Matching.Shapes
import DocFilter.Proofs.Matching.Faults
import DocFilter.Proofs.Matching.Containment
import DocFilter.Proofs.Cursor
import DocFilter.Proofs.Composition
import DocFilter.Proofs.Matching.Locality
import DocFilter.Proofs.Matching.Options
import DocFilter.Proofs.Matching.EqualFormulas
import DocFilter.Proofs.Number.Rounding
import DocFilter.Proofs.Number.Shortest
import DocFilter.Proofs.Json.Equality
import DocFilter.Proofs.Matching.EqualDocuments
import DocFilter.Proofs.Json.Reader
import DocFilter.Proofs.Json.NumberText
import DocFilter.Proofs.Number.Order
import DocFilter.Proofs.Matching.ExactOrder
import DocFilter.Proofs.Json.ExactValue
import DocFilter.Proofs.Matching.Membership
import DocFilter.Proofs.Reading.FailurePlace
import DocFilter.Proofs.Rendering.Legible
import DocFilter.Proofs.Rendering.Places
import DocFilter.Proofs.Rendering.FirstOffender
import DocFilter.Proofs.Action.Basic
import DocFilter.Proofs.Action.Literal
import DocFilter.Proofs.Action.Operand
import DocFilter.Proofs.Action.Formula
import DocFilter.Proofs.Action.Restoring
import DocFilter.Proofs.Action.Located
import DocFilter.Proofs.Number.Literal
import DocFilter.Proofs.Action.Keywords
import DocFilter.Proofs.Cursor.Requests
