import JsonPath.Main
import JsonPath.Query.Printer
import JsonPath.Proofs.Evaluation.Soundness
import JsonPath.Proofs.Evaluation.Arrangement
import JsonPath.Proofs.Json.WellFormed
import JsonPath.Proofs.Edit.Removal
import JsonPath.Proofs.Edit.Update
import JsonPath.Proofs.Edit.Store
import JsonPath.Proofs.Edit.Frame
import JsonPath.Proofs.Edit.Preservation
import JsonPath.Proofs.Edit.Flat
import JsonPath.Proofs.Edit.Reordering
import JsonPath.Proofs.Query.Slice
import JsonPath.Proofs.Evaluation.Descent
import JsonPath.Proofs.Query.RoundTrip
import JsonPath.Proofs.Evaluation.Direction
import JsonPath.Proofs.Evaluation.Pipeline
import JsonPath.Proofs.Evaluation.Failure
import JsonPath.Proofs.Evaluation.Relocation
import JsonPath.Proofs.Evaluation.Limit
import JsonPath.Proofs.Query.Nesting
import JsonPath.Proofs.Query.Spelling
import JsonPath.Proofs.Location.Selection
import JsonPath.Proofs.Query.Chains
import JsonPath.Proofs.Query.Formula
import JsonPath.Proofs.Evaluation.Bracket
import JsonPath.Proofs.Query.Extension
import JsonPath.Proofs.Query.Depth
import JsonPath.Proofs.Query.Continuation
import JsonPath.Proofs.Query.Segments
import JsonPath.Proofs.Evaluation.Repetition
import JsonPath.Proofs.Edit.Flattening
import JsonPath.Proofs.Query.Shorthand
import JsonPath.Proofs.Query.Progress
import JsonPath.Proofs.Query.Faults
import JsonPath.Proofs.Evaluation.Negation
import JsonPath.Proofs.Evaluation.Arity
import JsonPath.Proofs.Evaluation.Comparison
import JsonPath.Proofs.Json.Equivalence
import JsonPath.Proofs.Evaluation.Calculation
import JsonPath.Proofs.Function.Extremes
import JsonPath.Proofs.Function.Aggregates
import JsonPath.Proofs.Query.Integers
import JsonPath.Proofs.Location.Subtree
import JsonPath.Proofs.Query.Opposites
