import PageAudit.Text.Kind
import PageAudit.Text.Case
import PageAudit.Text.Quoted
import PageAudit.Text.Cells
import PageAudit.Number.Decimal
import PageAudit.Pattern.Basic
import PageAudit.Url
import PageAudit.Check.Basic
import PageAudit.Json.Parser
import PageAudit.Json.Printer
import PageAudit.Rule.Catalog
import PageAudit.Rule.Source
import PageAudit.Evaluation
import PageAudit.Moment
import PageAudit.Analysis
import PageAudit.Audit
import PageAudit.Settings
import PageAudit.Http.Message
import PageAudit.Http.Address
import PageAudit.CommandLine.Run
import PageAudit.Service.Basic
import PageAudit.Main
import PageAudit.Proofs.Failure
import PageAudit.Proofs.Site
import PageAudit.Proofs.Text.Case
import PageAudit.Proofs.Text.Digit
import PageAudit.Proofs.Text.Line
import PageAudit.Proofs.Pattern.Matches
import PageAudit.Proofs.Pattern.Scan
import PageAudit.Proofs.Pattern.Visible
import PageAudit.Proofs.Pattern.Lowered
import PageAudit.Proofs.Pattern.Caseless
import PageAudit.Proofs.Excerpt
import PageAudit.Proofs.Check.Numbers
import PageAudit.Proofs.Check.Faults
import PageAudit.Proofs.Check.Evidence
import PageAudit.Proofs.Check.Passing
import PageAudit.Proofs.Check.Lowered
import PageAudit.Proofs.Number.Rounding
import PageAudit.Proofs.Number.Order
import PageAudit.Proofs.Number.Double
import PageAudit.Proofs.Number.Share
import PageAudit.Proofs.Number.Half
import PageAudit.Proofs.Number.Hundredths
import PageAudit.Proofs.Rule.Selection
import PageAudit.Proofs.Audit.Sources
import PageAudit.Proofs.Evaluation
import PageAudit.Proofs.Analysis
import PageAudit.Proofs.Fetch.Ways
import PageAudit.Proofs.Fetch.Basic
import PageAudit.Proofs.Fetch.Faults
import PageAudit.Proofs.Fetch.Course
import PageAudit.Proofs.Fetch.Hops
import PageAudit.Proofs.Fetch.Deadline
import PageAudit.Proofs.Audit.Basic
import PageAudit.Proofs.Audit.Reconciliation
import PageAudit.Proofs.Audit.Outcome
import PageAudit.Proofs.Audit.Evidence
import PageAudit.Proofs.Service.Outcome
import PageAudit.Proofs.Pattern.Followed
import PageAudit.Proofs.Pattern.Extent
import PageAudit.Proofs.Check.Growing
import PageAudit.Proofs.Check.Lasting
import PageAudit.Proofs.Json.Reading
import PageAudit.Proofs.CommandLine.Agreement
import PageAudit.Proofs.Settings
import PageAudit.Proofs.CommandLine.Shorthand
import PageAudit.Proofs.CommandLine.Override
import PageAudit.Proofs.Fetch.Warning
import PageAudit.Proofs.Audit.Warning
import PageAudit.Proofs.Http.Address
import PageAudit.Proofs.Audit.Transport
import PageAudit.Proofs.Report.Header
import PageAudit.Proofs.Check.Unclosed
import PageAudit.Proofs.Text.Parted
import PageAudit.Proofs.Url.Resolve
import PageAudit.Proofs.Check.ThirdParty
import PageAudit.Proofs.Pattern.Value
import PageAudit.Proofs.Check.Deferred
import PageAudit.Proofs.Check.Description
import PageAudit.Proofs.Pattern.Narrow
import PageAudit.Proofs.Check.Stylesheet
import PageAudit.Proofs.Check.Threshold
import PageAudit.Proofs.Url.Spelled
import PageAudit.Proofs.Text.Piece
import PageAudit.Proofs.Pattern.Piece
import PageAudit.Proofs.Check.Scanned
import PageAudit.Proofs.Check.Consistent
import PageAudit.Proofs.Check.Located
import PageAudit.Proofs.Text.Place
import PageAudit.Proofs.Pattern.Leftmost
import PageAudit.Proofs.Check.Linewise
import PageAudit.Proofs.Check.Title
import PageAudit.Proofs.Check.Snippet
import PageAudit.Proofs.Check.Blamed
import PageAudit.Proofs.Check.Member
import PageAudit.Proofs.Check.Key
import PageAudit.Proofs.Check.Spacing
import PageAudit.Proofs.Check.Link
import PageAudit.Proofs.Analysis.Advice
import PageAudit.Proofs.Check.Protection
import PageAudit.Proofs.Check.Related
import PageAudit.Proofs.Check.Resource
import PageAudit.Proofs.Report.ScoreBar
import PageAudit.Proofs.Moment.Stamp
import PageAudit.Proofs.Site.Name
import PageAudit.Proofs.Number.Carried
import PageAudit.Proofs.Rule.Index
import PageAudit.Proofs.Excerpt.Context
import PageAudit.Proofs.Pattern.Span
