import HttpDispatch.Arguments
import HttpDispatch.Completion
import HttpDispatch.Config.Applied
import HttpDispatch.Config.Basic
import HttpDispatch.Config.Document
import HttpDispatch.ConfigError
import HttpDispatch.Context
import HttpDispatch.Dispatch.Dispatcher
import HttpDispatch.Dispatch.Journal
import HttpDispatch.Dispatch.Selection
import HttpDispatch.Handler
import HttpDispatch.Json.Basic
import HttpDispatch.Json.Decode
import HttpDispatch.Json.Error
import HttpDispatch.Json.Literal
import HttpDispatch.Json.Parser
import HttpDispatch.Json.Printer
import HttpDispatch.Logging.Directive
import HttpDispatch.Logging.FieldValue
import HttpDispatch.Logging.Regex
import HttpDispatch.Logging.Settings
import HttpDispatch.Method
import HttpDispatch.Middleware
import HttpDispatch.Negotiation.Accept
import HttpDispatch.Negotiation.Registry
import HttpDispatch.Negotiation.Translator
import HttpDispatch.Negotiation.Xml
import HttpDispatch.Number.Binary
import HttpDispatch.Number.Decimal
import HttpDispatch.Number.Shortest
import HttpDispatch.Parameter
import HttpDispatch.Path
import HttpDispatch.Pattern
import HttpDispatch.Proofs.Dispatch.Negotiation
import HttpDispatch.Proofs.Dispatch.Selection
import HttpDispatch.Proofs.Entries
import HttpDispatch.Proofs.Negotiation.Extension
import HttpDispatch.Proofs.Pattern.Matching
import HttpDispatch.Proofs.Preference
import HttpDispatch.Proofs.PropertyPath.RoundTrip
import HttpDispatch.Proofs.RouteTable.Lookup
import HttpDispatch.Proofs.RouteTable.Registration
import HttpDispatch.Proofs.StructuredValue.Flattening
import HttpDispatch.Proofs.StructuredValue.RoundTrip
import HttpDispatch.Proofs.StructuredValue.Writing
import HttpDispatch.PropertyPath
import HttpDispatch.RateLimiter
import HttpDispatch.Request
import HttpDispatch.RequestId
import HttpDispatch.RequestValues
import HttpDispatch.Resolution
import HttpDispatch.Response
import HttpDispatch.Route
import HttpDispatch.RouteTable.Basic
import HttpDispatch.RouteTable.Plan
import HttpDispatch.Schema
import HttpDispatch.SortedMap
import HttpDispatch.StructuredValue
import HttpDispatch.Text.Alphabetic
import HttpDispatch.Text.Blank
import HttpDispatch.Text.Case
import HttpDispatch.Text.CodePoints
import HttpDispatch.Text.Form
import HttpDispatch.Text.Numeral
import HttpDispatch.Text.Numeric
import HttpDispatch.Text.Printable
import HttpDispatch.Text.Quoted
import HttpDispatch.Text.Split
import HttpDispatch.Text.Utf8
import HttpDispatch.Yaml.Block
import HttpDispatch.Yaml.Cursor
import HttpDispatch.Yaml.Document
import HttpDispatch.Yaml.Layout
import HttpDispatch.Yaml.Node
import HttpDispatch.Yaml.Scalar
import HttpDispatch.Yaml.Tag
import HttpDispatch.Yaml.Token
import HttpDispatch.Proofs.Dispatch.Transparency
import HttpDispatch.Proofs.Dispatch.Course
import HttpDispatch.Proofs.Dispatch.Hooks
import HttpDispatch.Proofs.Dispatch.Consistency
import HttpDispatch.Proofs.Dispatch.Calls
import HttpDispatch.Proofs.Dispatch.Redaction
import HttpDispatch.Proofs.Dispatch.Confidentiality
import HttpDispatch.Proofs.RateLimiter.Limit
import HttpDispatch.Proofs.Dispatch.Containment
import HttpDispatch.Proofs.Text.Utf8
import HttpDispatch.Proofs.Xml.Reader
import HttpDispatch.Proofs.Number.Writing
import HttpDispatch.Proofs.Xml.Document
import HttpDispatch.Proofs.Xml.WellFormed
import HttpDispatch.Proofs.Path.Normalization
import HttpDispatch.Proofs.Dispatch.TrailingSlashes
import HttpDispatch.Proofs.Resolution.Attribution
import HttpDispatch.Proofs.Resolution.Slots
import HttpDispatch.Proofs.Resolution.Violations
import HttpDispatch.Proofs.Dispatch.Log
import HttpDispatch.Proofs.Pattern.Compilation
import HttpDispatch.Proofs.Pattern.Binding
import HttpDispatch.Proofs.StructuredValue.Acceptance
import HttpDispatch.Proofs.StructuredValue.Order
import HttpDispatch.Proofs.StructuredValue.Conformance
import HttpDispatch.Proofs.RequestValues
import HttpDispatch.Proofs.Resolution.Locality
import HttpDispatch.Proofs.Resolution.Defaults
import HttpDispatch.Proofs.Negotiation.Quality
import HttpDispatch.Proofs.Negotiation.Choice
import HttpDispatch.Proofs.Negotiation.Registration
import HttpDispatch.Proofs.RateLimiter.Refusals
import HttpDispatch.Proofs.Resolution.Parcels
import HttpDispatch.Proofs.Resolution.Uploads
import HttpDispatch.Proofs.PathVariables
import HttpDispatch.Proofs.Negotiation.Configuration
import HttpDispatch.Proofs.RouteTable.Grouping
import HttpDispatch.Proofs.RouteTable.Building
import HttpDispatch.Proofs.Dispatch.Handlers
import HttpDispatch.Proofs.StableOrder
import HttpDispatch.Proofs.Dispatch.PostProcessors
import HttpDispatch.Proofs.RequestId
import HttpDispatch.Proofs.PropertyPath.Grammar
import HttpDispatch.Proofs.Resolution.Partition
import HttpDispatch.Proofs.Negotiation.Stripping
import HttpDispatch.Proofs.RequestValues.History
