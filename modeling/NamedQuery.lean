import NamedQuery.Access.Kind
import NamedQuery.Access.Path
import NamedQuery.Calendar
import NamedQuery.Config
import NamedQuery.Config.Connection
import NamedQuery.Config.Defect
import NamedQuery.Config.Environment
import NamedQuery.Config.Validation
import NamedQuery.Criterion
import NamedQuery.Decimal.Notation
import NamedQuery.Description.Config
import NamedQuery.Description.Method
import NamedQuery.Endpoint
import NamedQuery.Endpoint.Ipv4
import NamedQuery.Endpoint.Ipv6
import NamedQuery.Entity
import NamedQuery.Error
import NamedQuery.Fields
import NamedQuery.Limit
import NamedQuery.Method
import NamedQuery.Method.Name
import NamedQuery.Metrics
import NamedQuery.Operator
import NamedQuery.Paging
import NamedQuery.Proofs.Access.Chosen
import NamedQuery.Proofs.Access.Conservation
import NamedQuery.Proofs.Query.Bound
import NamedQuery.Report
import NamedQuery.Repository
import NamedQuery.Request
import NamedQuery.Store
import NamedQuery.Store.Chunk
import NamedQuery.Store.Client
import NamedQuery.Store.Configured
import NamedQuery.Text.Blank
import NamedQuery.Text.Keyword
import NamedQuery.Text.LowerCase
import NamedQuery.Text.Punycode
import NamedQuery.Value
import NamedQuery.Value.Json
import NamedQuery.Proofs.Access.Servable
import NamedQuery.Proofs.Fields
import NamedQuery.Proofs.Request.Expression
import NamedQuery.Proofs.Request.Placeholders
import NamedQuery.Proofs.Request.Requirement
import NamedQuery.Proofs.Access.Transparency
import NamedQuery.Proofs.Run.Journal
import NamedQuery.Proofs.Run.Pages
import NamedQuery.Proofs.Run.Script
import NamedQuery.Proofs.Run.PageReading
import NamedQuery.Proofs.Method.Derived
import NamedQuery.Proofs.Method.Calls
import NamedQuery.Proofs.Method.StaticFilter
import NamedQuery.Proofs.Method.Deletion
import NamedQuery.Proofs.Store.Renaming
import NamedQuery.Proofs.Store.Configured
import NamedQuery.Proofs.Repository.RoundTrip
import NamedQuery.Proofs.Request.Projection
import NamedQuery.Proofs.Store.Identity
import NamedQuery.Proofs.Method.Identification
import NamedQuery.Proofs.Store.Sent
import NamedQuery.Proofs.Repository.Usage
import NamedQuery.Proofs.Repository.Scans
import NamedQuery.Proofs.Run.Consumption
import NamedQuery.Proofs.Method.Naming
import NamedQuery.Proofs.Method.Shapes
import NamedQuery.Proofs.Method.Counting
import NamedQuery.Proofs.Request.ClosedForm
import NamedQuery.Proofs.Text.Keyword
import NamedQuery.Proofs.Method.Spelling
import NamedQuery.Proofs.Method.Phrase
import NamedQuery.Proofs.Method.CountCommands
import NamedQuery.Proofs.Request.Mentions
import NamedQuery.Proofs.Request.Refusals
import NamedQuery.Proofs.Run.Confined
import NamedQuery.Proofs.Store.Confined
import NamedQuery.Proofs.Method.Misconfiguration
import NamedQuery.Proofs.Text.Word
import NamedQuery.Proofs.Method.Filler
import NamedQuery.Proofs.Entity.Declarations
import NamedQuery.Proofs.Entity.Acceptance
import NamedQuery.Proofs.Entity.Registry
import NamedQuery.Proofs.Entity.Indexes
import NamedQuery.Proofs.Entity.StoredNames
import NamedQuery.Proofs.Request.StoredNames
import NamedQuery.Proofs.Decimal.Sums
import NamedQuery.Proofs.Request.Bindable
import NamedQuery.Proofs.Run.Exact
import NamedQuery.Proofs.Method.Rejected
import NamedQuery.Proofs.Store.Chain
import NamedQuery.Proofs.Method.Chain
import NamedQuery.Proofs.Metrics
import NamedQuery.Proofs.Store.Exchange
import NamedQuery.Proofs.Store.Accounting
import NamedQuery.Proofs.Run.Asking
import NamedQuery.Proofs.Run.Consumers
import NamedQuery.Proofs.Access.LastResort
import NamedQuery.Proofs.Access.Pushdown
import NamedQuery.Proofs.Method.LimitWord
import NamedQuery.Proofs.Store.Batches
import NamedQuery.Proofs.Access.BestIndex
import NamedQuery.Proofs.Access.Ordering
import NamedQuery.Proofs.Access.Rearranged
import NamedQuery.Proofs.Entity.MoreIndexes
import NamedQuery.Proofs.Query.LongestKeyword
import NamedQuery.Proofs.Query.Layout
import NamedQuery.Proofs.Request.Formula
import NamedQuery.Proofs.Request.Reads
import NamedQuery.Proofs.Request.Rebinding
import NamedQuery.Proofs.Method.PropertyText
import NamedQuery.Proofs.Method.Ordering
import NamedQuery.Proofs.Request.Unambiguous
import NamedQuery.Proofs.Request.Accepted
import NamedQuery.Proofs.Request.StaticPlaceholders
import NamedQuery.Proofs.Request.KeyLoads
import NamedQuery.Proofs.Logging
import NamedQuery.Proofs.Method.NamedProperties
import NamedQuery.Proofs.Run.Waiting
import NamedQuery.Proofs.Method.Laziness
import NamedQuery.Proofs.Decimal.Extremes
import NamedQuery.Proofs.Text.Alphabetical
import NamedQuery.Proofs.Metrics.Labels
import NamedQuery.Proofs.Metrics.Series
import NamedQuery.Proofs.Method.UniquePath
