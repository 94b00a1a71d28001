import RouteView.Application.Basic
import RouteView.Application.Dispatch
import RouteView.Callback
import RouteView.CommandLine.Arguments
import RouteView.CommandLine.Execution
import RouteView.Decimal.Binary64
import RouteView.Decimal.Format
import RouteView.Decimal.Shortest
import RouteView.Dictionary
import RouteView.Fault
import RouteView.Files.Path
import RouteView.Files.Tree
import RouteView.Guestbook.Entry
import RouteView.Guestbook.Site
import RouteView.Guestbook.Views
import RouteView.Http.Address
import RouteView.Http.Exchange
import RouteView.Http.Target
import RouteView.Main
import RouteView.Parameters
import RouteView.Pattern.Assembly
import RouteView.Pattern.Basic
import RouteView.Pattern.Matching
import RouteView.Pattern.Regex
import RouteView.Pattern.Segments
import RouteView.Proofs.Application.Abort
import RouteView.Proofs.Application.Arguments
import RouteView.Proofs.Application.Calls
import RouteView.Proofs.Application.Failure
import RouteView.Proofs.Application.Milestones
import RouteView.Proofs.Application.Outcome
import RouteView.Proofs.Application.Redirects
import RouteView.Proofs.Application.Skeleton
import RouteView.Proofs.Files.Descent
import RouteView.Proofs.Files.Extension
import RouteView.Proofs.Guestbook.Echo
import RouteView.Proofs.Guestbook.Forwarding
import RouteView.Proofs.Guestbook.Routes
import RouteView.Proofs.Pattern.Assembly
import RouteView.Proofs.Pattern.Backtracking
import RouteView.Proofs.Pattern.Brackets
import RouteView.Proofs.Pattern.Captures
import RouteView.Proofs.Pattern.Chain
import RouteView.Proofs.Pattern.Draft
import RouteView.Proofs.Pattern.Elimination
import RouteView.Proofs.Pattern.Expression
import RouteView.Proofs.Pattern.Marks
import RouteView.Proofs.Pattern.Parameters
import RouteView.Proofs.Pattern.Priority
import RouteView.Proofs.Pattern.Readings
import RouteView.Proofs.Pattern.Repetition
import RouteView.Proofs.Pattern.RoundTrip
import RouteView.Proofs.Pattern.Signs
import RouteView.Proofs.Pattern.Sources
import RouteView.Proofs.Pattern.WrittenForm
import RouteView.Proofs.Request.Changes
import RouteView.Proofs.Request.Columns
import RouteView.Proofs.Request.Operations
import RouteView.Proofs.Response.Fields
import RouteView.Proofs.RouteTable.MatchOrder
import RouteView.Proofs.RouteTable.Provenance
import RouteView.Proofs.RouteTable.Refinement
import RouteView.Proofs.RouteTable.Reverse
import RouteView.Proofs.Settings.Files
import RouteView.Proofs.Settings.Layers
import RouteView.Proofs.Settings.Loading
import RouteView.Proofs.Settings.Overlay
import RouteView.Proofs.Template.Confinement
import RouteView.Proofs.Template.DefaultExtension
import RouteView.Proofs.Template.Defaults
import RouteView.Proofs.Template.Dependence
import RouteView.Proofs.Template.EscapeFilter
import RouteView.Proofs.Template.Escaping
import RouteView.Proofs.Template.Layout
import RouteView.Proofs.Template.Loading
import RouteView.Proofs.Template.Positions
import RouteView.Proofs.Template.Precedence
import RouteView.Proofs.Template.Spans
import RouteView.Proofs.Template.WrittenForm
import RouteView.Proofs.Text.Entities
import RouteView.Proofs.Text.Markup
import RouteView.Proofs.Text.Splitting
import RouteView.Proofs.Value.Ascending
import RouteView.Proofs.Value.Merging
import RouteView.Proofs.Value.ReadBack
import RouteView.Request
import RouteView.Response
import RouteView.RouteTable
import RouteView.RouteTable.Indexed
import RouteView.Settings.Basic
import RouteView.Settings.Environment
import RouteView.Settings.Loading
import RouteView.Signature
import RouteView.Signature.Columns
import RouteView.Template.Evaluation
import RouteView.Template.Expression
import RouteView.Template.Item
import RouteView.Template.Loader
import RouteView.Template.Lookup
import RouteView.Template.Renderer
import RouteView.Template.Token
import RouteView.Text.Basic
import RouteView.Text.Blank
import RouteView.Text.CaseMap
import RouteView.Text.CaseTable
import RouteView.Text.ConcealedTable
import RouteView.Text.Entity
import RouteView.Text.Quoted
import RouteView.Toml.Document
import RouteView.Toml.Item
import RouteView.Toml.Scalar
import RouteView.Value.Basic
import RouteView.Value.Merge
import RouteView.Value.Number
import RouteView.Value.Reader
import RouteView.Value.Writer
