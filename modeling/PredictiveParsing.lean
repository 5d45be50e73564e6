import PredictiveParsing.Parsing.Configuration
import PredictiveParsing.Parsing.Notice
import PredictiveParsing.Parsing.Trace
import PredictiveParsing.Pattern.Search
import PredictiveParsing.Report.Card
import PredictiveParsing.Report.ParsingTable
import PredictiveParsing.Report.Sets
import PredictiveParsing.Proofs.Grammar.Derivation
import PredictiveParsing.Proofs.Grammar.Saturation
import PredictiveParsing.Proofs.Grammar.First
import PredictiveParsing.Proofs.Grammar.Follow
import PredictiveParsing.Proofs.Grammar.Table
import PredictiveParsing.Proofs.Parsing.Compilation
import PredictiveParsing.Proofs.Parsing.Tree
import PredictiveParsing.Proofs.Parsing.Visit
import PredictiveParsing.Proofs.Parsing.Soundness
import PredictiveParsing.Proofs.Parsing.Prediction
import PredictiveParsing.Proofs.Grammar.LL1
import PredictiveParsing.Proofs.Parsing.Completeness
import PredictiveParsing.Proofs.Parsing.Upcoming
import PredictiveParsing.Proofs.Grammar.LeftRecursion
import PredictiveParsing.Proofs.Parsing.Nesting
import PredictiveParsing.Proofs.Parsing.Limit
import PredictiveParsing.Proofs.Parsing.Progress
import PredictiveParsing.Proofs.Parsing.Unguarded
import PredictiveParsing.Proofs.Parsing.Locality
import PredictiveParsing.Proofs.Parsing.Unexpected
import PredictiveParsing.Proofs.Action.Failure
import PredictiveParsing.Proofs.Parsing.Actions
import PredictiveParsing.Proofs.Action.Printing
import PredictiveParsing.Proofs.Action.Reading
import PredictiveParsing.Proofs.Action.Scanning
import PredictiveParsing.Proofs.Grammar.SameRules
import PredictiveParsing.Proofs.Parsing.RuleOrder
import PredictiveParsing.Proofs.Grammar.Inclusion
import PredictiveParsing.Proofs.Grammar.AddedStates
import PredictiveParsing.Proofs.Parsing.AddedStates
import PredictiveParsing.Proofs.Parsing.Depth
import PredictiveParsing.Proofs.Parsing.Listing
import PredictiveParsing.Proofs.Parsing.CutOff
import PredictiveParsing.Proofs.Parsing.Switched
import PredictiveParsing.Proofs.Parsing.Tracing
import PredictiveParsing.Proofs.Grammar.LeftCorners
import PredictiveParsing.Proofs.Report.ParsingTable
import PredictiveParsing.Proofs.Parsing.Acceptance
import PredictiveParsing.Proofs.Grammar.FirstDeclared
import PredictiveParsing.Proofs.Grammar.Requirements
import PredictiveParsing.Proofs.Parsing.Course
import PredictiveParsing.Proofs.Action.Combination
import PredictiveParsing.Proofs.Action.Foresight
import PredictiveParsing.Proofs.Action.Integers
import PredictiveParsing.Proofs.Parsing.Partition
import PredictiveParsing.Proofs.Action.Malformed
import PredictiveParsing.Proofs.Numeral.Rounding
import PredictiveParsing.Proofs.Numeral.OfInt
import PredictiveParsing.Proofs.Action.Comparison
import PredictiveParsing.Proofs.Grammar.Passes
import PredictiveParsing.Proofs.Action.Conversion
import PredictiveParsing.Proofs.Action.Inlining
import PredictiveParsing.Proofs.Action.Locality
import PredictiveParsing.Proofs.Action.Assignment
