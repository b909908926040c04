import SearchQL.Settings
import SearchQL.Query.Call
import SearchQL.Query.Equality
import SearchQL.Binary64.Read
import SearchQL.Tracing
import SearchQL.Proofs.Token
import SearchQL.Proofs.Alike
import SearchQL.Proofs.Edge
import SearchQL.Proofs.Redact
import SearchQL.Proofs.Outcome
import SearchQL.Proofs.Structure
import SearchQL.Proofs.Datum
import SearchQL.Proofs.Reading
import SearchQL.Proofs.Bracket
import SearchQL.Proofs.Reachable
import SearchQL.Proofs.Forest
import SearchQL.Proofs.Descent
import SearchQL.Proofs.Path
import SearchQL.Proofs.Comparison
import SearchQL.Proofs.Grouping
import SearchQL.Proofs.Segment
import SearchQL.Proofs.Success
import SearchQL.Proofs.Binding
import SearchQL.Proofs.Match
import SearchQL.Proofs.Parts
import SearchQL.Proofs.Built
import SearchQL.Proofs.Renders
import SearchQL.Proofs.Outline
import SearchQL.Proofs.Sealed
import SearchQL.Proofs.Closed
import SearchQL.Proofs.Keywords
import SearchQL.Proofs.Inserted
import SearchQL.Proofs.Paired
import SearchQL.Proofs.Announced
import SearchQL.Proofs.Precedence
import SearchQL.Proofs.Narrowed
import SearchQL.Proofs.Fields
import SearchQL.Proofs.Run
import SearchQL.Proofs.Area
import SearchQL.Proofs.Supplied
import SearchQL.Proofs.Sent
import SearchQL.Proofs.Nesting
import SearchQL.Proofs.Traced
import SearchQL.Proofs.Scoped
import SearchQL.Proofs.Form
import SearchQL.Proofs.Naming
import SearchQL.Proofs.Ending
import SearchQL.Proofs.Lowered
import SearchQL.Proofs.Words
import SearchQL.Proofs.Commanded
import SearchQL.Proofs.Unescaped
import SearchQL.Proofs.Missing
import SearchQL.Proofs.Gathered
import SearchQL.Proofs.Selected
import SearchQL.Proofs.Variables
import SearchQL.Proofs.Rounding
