import FullText.Client.Metric
import FullText.Client.Operation
import FullText.Json.Aggregation
import FullText.Json.Index
import FullText.Json.Reader
import FullText.Json.Search
import FullText.Json.Settings
import FullText.Proofs.Aggregation.Command
import FullText.Proofs.Aggregation.Page
import FullText.Proofs.Aggregation.Projections
import FullText.Proofs.Client.Metrics
import FullText.Proofs.Index.Command
import FullText.Proofs.Index.Info
import FullText.Proofs.Query.Count
import FullText.Proofs.Query.Fields
import FullText.Proofs.Query.Interval
import FullText.Proofs.Query.Parens
import FullText.Proofs.Query.Precedence
import FullText.Proofs.Query.ReadBack
import FullText.Proofs.Query.Signs
import FullText.Proofs.Reply.Alike
import FullText.Proofs.Reply.Double
import FullText.Proofs.Reply.Moves
import FullText.Proofs.Reply.Spelling
import FullText.Proofs.Reply.Tail
import FullText.Proofs.Search.Command
import FullText.Proofs.Search.Form
import FullText.Proofs.Search.Layout
import FullText.Proofs.Search.Offsets
import FullText.Proofs.Search.Settings
import FullText.Proofs.Suggestion.Draft
import FullText.Proofs.Suggestion.Layout
