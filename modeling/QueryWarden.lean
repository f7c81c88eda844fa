import QueryWarden.Proofs.Filter.Conjunction
import QueryWarden.Proofs.Schema.Resolution
import QueryWarden.Proofs.Scope.Conjunction
import QueryWarden.Proofs.Tool.QueryText
import QueryWarden.Proofs.Tool.ReadOnly
import QueryWarden.Proofs.Tool.RowCap
import QueryWarden.Filter.Program
import QueryWarden.Log.Timing
import QueryWarden.Raised
import QueryWarden.Scope.Given
import QueryWarden.Settings
import QueryWarden.Tool.Call
import QueryWarden.Tool.Spec
import QueryWarden.Validator.Chain
import QueryWarden.Sorting.Gallop
import QueryWarden.Sorting.Merge
import QueryWarden.Proofs.Bindings
import QueryWarden.Proofs.Filter.Naming
import QueryWarden.Proofs.Scope.Binding
import QueryWarden.Proofs.Sorting.Kinds
import QueryWarden.Proofs.Sorting.Merging
import QueryWarden.Proofs.Value.Family
import QueryWarden.Proofs.Filter.Labels
import QueryWarden.Proofs.Filter.References
import QueryWarden.Proofs.Filter.Writing
import QueryWarden.Validator.Timed
import QueryWarden.Proofs.Validator.Chain
import QueryWarden.Proofs.Query.Verdict
import QueryWarden.Proofs.Query.CallLayout
import QueryWarden.Proofs.Interpolation
import QueryWarden.Proofs.Schema.Straightening
import QueryWarden.Proofs.Query.Pattern
import QueryWarden.Proofs.Validator.Adherence
import QueryWarden.Proofs.Query.Keyword
import QueryWarden.Proofs.Query.Closing
import QueryWarden.Proofs.Schema.Relationships
import QueryWarden.Proofs.Validator.Strictness
import QueryWarden.Proofs.Query.PatternText
import QueryWarden.Proofs.Value.LikeEquality
import QueryWarden.Proofs.Value.Agreement
import QueryWarden.Proofs.Scope.Commuting
import QueryWarden.Proofs.Query.Segment
import QueryWarden.Proofs.Tool.SecondPass
import QueryWarden.Proofs.Text.Layout
import QueryWarden.Proofs.Query.Layout
import QueryWarden.Proofs.Validator.Layout
import QueryWarden.Proofs.Text.Sigma
import QueryWarden.Proofs.Tool.NameSearch
import QueryWarden.Proofs.Query.Normal
import QueryWarden.Proofs.Scope.Emptiness
import QueryWarden.Proofs.Graph.Columns
import QueryWarden.Proofs.Tool.Cells
