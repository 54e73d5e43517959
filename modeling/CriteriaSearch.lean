import CriteriaSearch.Command.Arguments
import CriteriaSearch.Command.Markup
import CriteriaSearch.Command.Run
import CriteriaSearch.Criteria
import CriteriaSearch.Criteria.Clause
import CriteriaSearch.Failure
import CriteriaSearch.Filter
import CriteriaSearch.Filter.Condition
import CriteriaSearch.Filter.Operand
import CriteriaSearch.Filter.Split
import CriteriaSearch.Http.Client
import CriteriaSearch.Http.Reply
import CriteriaSearch.Http.Request
import CriteriaSearch.Json.Reader
import CriteriaSearch.Json.Writer
import CriteriaSearch.Main
import CriteriaSearch.Named
import CriteriaSearch.Number.Binary64
import CriteriaSearch.Number.Binary64.Reader
import CriteriaSearch.Number.Binary64.Shortest
import CriteriaSearch.Number.Decimal
import CriteriaSearch.Number.Numeral
import CriteriaSearch.Page.Expand
import CriteriaSearch.Page.Expansion
import CriteriaSearch.Page.Hierarchy
import CriteriaSearch.Page.Merge
import CriteriaSearch.Page.Reconcile
import CriteriaSearch.Page.Supplement
import CriteriaSearch.Page.Table
import CriteriaSearch.Query
import CriteriaSearch.Query.Compile
import CriteriaSearch.Search.Engine
import CriteriaSearch.Search.Journal
import CriteriaSearch.Search.Replay
import CriteriaSearch.Search.Run
import CriteriaSearch.Search.Source
import CriteriaSearch.Service.Api
import CriteriaSearch.Service.Body
import CriteriaSearch.Settings
import CriteriaSearch.Text.Blank
import CriteriaSearch.Text.Case
import CriteriaSearch.Text.Digit
import CriteriaSearch.Text.Emoji
import CriteriaSearch.Text.Emoji.Names
import CriteriaSearch.Text.Encoding
import CriteriaSearch.Text.Printable
import CriteriaSearch.Text.Quoted
import CriteriaSearch.Text.Uppercase
import CriteriaSearch.Time.Calendar
import CriteriaSearch.Time.DateTime
import CriteriaSearch.Time.Iso
import CriteriaSearch.Time.MonthName
import CriteriaSearch.Url
import CriteriaSearch.Url.Address
import CriteriaSearch.Url.Form
import CriteriaSearch.Value
import CriteriaSearch.Value.Instant
import CriteriaSearch.Value.Number
import CriteriaSearch.Value.Text
import CriteriaSearch.Proofs.Lists
import CriteriaSearch.Proofs.Page.Order
import CriteriaSearch.Proofs.Page.Legible
import CriteriaSearch.Proofs.Search.Journal
import CriteriaSearch.Proofs.Search.Exchanges
import CriteriaSearch.Proofs.Search.Replies
import CriteriaSearch.Proofs.Search.Gathering
import CriteriaSearch.Proofs.Page.Merge
import CriteriaSearch.Proofs.Page.Requests
import CriteriaSearch.Proofs.Page.Completion
import CriteriaSearch.Proofs.Page.Failing
import CriteriaSearch.Proofs.Page.Hits
import CriteriaSearch.Proofs.Page.Relatives
import CriteriaSearch.Proofs.Search.Index
import CriteriaSearch.Proofs.Page.TwoLevels
import CriteriaSearch.Proofs.Page.Closing
import CriteriaSearch.Proofs.Search.Pool
import CriteriaSearch.Proofs.Page.Pooling
import CriteriaSearch.Proofs.Page.FanOut
import CriteriaSearch.Proofs.Page.Bare
import CriteriaSearch.Proofs.Page.Identified
import CriteriaSearch.Proofs.Number.Numeral
import CriteriaSearch.Proofs.Value.Text
import CriteriaSearch.Proofs.Text.Blank
import CriteriaSearch.Proofs.Text.Case
import CriteriaSearch.Proofs.Text.Encoding
import CriteriaSearch.Proofs.Url.Form
import CriteriaSearch.Proofs.Filter.Writing
import CriteriaSearch.Proofs.Filter.Splitting
import CriteriaSearch.Proofs.Filter.Matching
import CriteriaSearch.Proofs.Filter.Operands
import CriteriaSearch.Proofs.Filter.RoundTrip
import CriteriaSearch.Proofs.Criteria.Reading
import CriteriaSearch.Proofs.Criteria.Clauses
import CriteriaSearch.Proofs.Query.Effects
import CriteriaSearch.Proofs.Query.Concatenation
import CriteriaSearch.Proofs.Query.Failures
import CriteriaSearch.Proofs.Filter.Outcomes
import CriteriaSearch.Proofs.Filter.Contribution
import CriteriaSearch.Proofs.Filter.Refusals
import CriteriaSearch.Proofs.Search.Lockstep
import CriteriaSearch.Proofs.Url.Parts
import CriteriaSearch.Proofs.Query.RoundTrip
import CriteriaSearch.Proofs.Search.Directive
import CriteriaSearch.Proofs.Service.Preview
import CriteriaSearch.Proofs.Page.Columns
import CriteriaSearch.Proofs.Page.Visits
import CriteriaSearch.Proofs.Page.Stability
import CriteriaSearch.Proofs.Page.Emission
import CriteriaSearch.Proofs.Page.Lineage
import CriteriaSearch.Proofs.Page.Arrangement
import CriteriaSearch.Proofs.Page.Siblings
import CriteriaSearch.Proofs.Page.Following
import CriteriaSearch.Proofs.Page.Blocks
import CriteriaSearch.Proofs.Page.Tiers
import CriteriaSearch.Proofs.Page.Settling
import CriteriaSearch.Proofs.Criteria.Selections
import CriteriaSearch.Proofs.Criteria.WholeNumbers
import CriteriaSearch.Proofs.Time.Calendar
import CriteriaSearch.Proofs.Time.Stamp
import CriteriaSearch.Proofs.Time.Reading
import CriteriaSearch.Proofs.Criteria.Instants
import CriteriaSearch.Proofs.Filter.Joining
import CriteriaSearch.Proofs.Criteria.Operands
import CriteriaSearch.Proofs.Number.Decimal.Sums
import CriteriaSearch.Proofs.Number.Decimal.RoundTrip
import CriteriaSearch.Proofs.Number.Binary64
import CriteriaSearch.Proofs.Criteria.Decimals
import CriteriaSearch.Proofs.Criteria.FiniteNumbers
import CriteriaSearch.Proofs.Filter.Admission
import CriteriaSearch.Proofs.Page.Expansion
import CriteriaSearch.Proofs.Query.Line
import CriteriaSearch.Proofs.Json.Reader
import CriteriaSearch.Proofs.Http.Reply
import CriteriaSearch.Proofs.Http.Request
