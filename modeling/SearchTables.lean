import SearchTables.Cache
import SearchTables.Calendar.Date
import SearchTables.Calendar.DateTime
import SearchTables.Calendar.Epoch
import SearchTables.Calendar.Moment
import SearchTables.Calendar.Reader
import SearchTables.Calendar.WebDate
import SearchTables.Calendar.Zone
import SearchTables.Calendar.ZoneTable
import SearchTables.Client.Basic
import SearchTables.Client.Endpoint
import SearchTables.Client.Event
import SearchTables.Client.Memory
import SearchTables.Decimal.Exact
import SearchTables.Decimal.Nearest
import SearchTables.Decimal.Numeral
import SearchTables.Decimal.Order
import SearchTables.Decimal.Remainder
import SearchTables.Decimal.Shortest
import SearchTables.Error
import SearchTables.Expression.Arithmetic
import SearchTables.Expression.Basic
import SearchTables.Expression.ClockField
import SearchTables.Expression.Comparison
import SearchTables.Expression.Conversion
import SearchTables.Expression.Datum
import SearchTables.Expression.Escape
import SearchTables.Expression.Evaluation
import SearchTables.Expression.Function
import SearchTables.Expression.Lexical
import SearchTables.Expression.Reader
import SearchTables.Expression.Scope
import SearchTables.Expression.Shown
import SearchTables.Filter.Builder
import SearchTables.Filter.Predicate
import SearchTables.Filter.Translator
import SearchTables.Geometry.Basic
import SearchTables.Geometry.BoundingBox
import SearchTables.Geometry.Shape
import SearchTables.Geometry.Wkt
import SearchTables.Geometry.WktToken
import SearchTables.Http.Address
import SearchTables.Http.ContentCoding
import SearchTables.Http.Cookie
import SearchTables.Http.CookieJar
import SearchTables.Http.DomainName
import SearchTables.Http.Escape
import SearchTables.Http.Inflate
import SearchTables.Http.InternetAddress
import SearchTables.Http.MediaType
import SearchTables.Http.Message
import SearchTables.Http.Reference
import SearchTables.Json.Basic
import SearchTables.Json.Printer
import SearchTables.Json.Reader
import SearchTables.Json.Shown
import SearchTables.Mapping.Field
import SearchTables.Mapping.Merge
import SearchTables.Mapping.Resolution
import SearchTables.Mapping.Sample
import SearchTables.Path
import SearchTables.Query.Clause
import SearchTables.Regex.Basic
import SearchTables.Regex.Reader
import SearchTables.Row.Cell
import SearchTables.Row.Decoder
import SearchTables.Row.Filter
import SearchTables.Row.Residual
import SearchTables.Scan.Cursor
import SearchTables.Scan.Engine
import SearchTables.Scan.Request
import SearchTables.Schema.Basic
import SearchTables.Schema.ColumnType
import SearchTables.Session
import SearchTables.Settings.Connection
import SearchTables.Settings.Field
import SearchTables.Settings.Scan
import SearchTables.Text.Blank
import SearchTables.Text.Case
import SearchTables.Text.Category
import SearchTables.Text.Charset
import SearchTables.Text.CharsetTable
import SearchTables.Text.CodePoint
import SearchTables.Text.CodeRange
import SearchTables.Text.Composition
import SearchTables.Text.Cut
import SearchTables.Text.Digit
import SearchTables.Text.Direction
import SearchTables.Text.DomainLetter
import SearchTables.Text.FullCase
import SearchTables.Text.Joining
import SearchTables.Text.LikePattern
import SearchTables.Text.Printable
import SearchTables.Text.Punycode
import SearchTables.Text.Quoted
import SearchTables.Text.Script
import SearchTables.Text.Utf8
import SearchTables.Value
import SearchTables.Proofs.Filter.Pushdown
import SearchTables.Proofs.Outcome
import SearchTables.Proofs.Text.LikeReadings
import SearchTables.Proofs.Filter.Patterns
import SearchTables.Proofs.Client.Attempts
import SearchTables.Proofs.Scan.Selection
import SearchTables.Proofs.Filter.ExactTargets
import SearchTables.Proofs.Mapping.DeclaredTypes
import SearchTables.Proofs.Mapping.MergeOrder
import SearchTables.Proofs.Scan.Feed
import SearchTables.Proofs.Scan.Lifecycle
import SearchTables.Proofs.Scan.Step
import SearchTables.Proofs.Scan.Yield
import SearchTables.Proofs.Scan.Delivery
import SearchTables.Proofs.Client.Losses
import SearchTables.Proofs.Client.Answering
import SearchTables.Proofs.Client.MemoryScrolls
import SearchTables.Proofs.Expression.Fragment
import SearchTables.Proofs.Expression.Names
import SearchTables.Proofs.Text.LikeEscapes
import SearchTables.Proofs.Filter.Agreement
import SearchTables.Proofs.Filter.Qualification
import SearchTables.Proofs.Json.Place
import SearchTables.Proofs.Row.Residual
import SearchTables.Proofs.Row.Typing
import SearchTables.Proofs.Decimal.Rounding
import SearchTables.Proofs.Row.Range
import SearchTables.Proofs.Scan.Decoding
import SearchTables.Proofs.Scan.Separation
import SearchTables.Proofs.Scan.Interleaving
import SearchTables.Proofs.Client.SharedClient
import SearchTables.Proofs.Row.Coverage
import SearchTables.Proofs.Mapping.Resolution
import SearchTables.Proofs.Mapping.Sampling
import SearchTables.Proofs.Decimal.NumberText
import SearchTables.Proofs.Json.Canonical
import SearchTables.Proofs.Json.PlainText
import SearchTables.Proofs.Json.KeyOrder
import SearchTables.Proofs.Session.CacheKey
import SearchTables.Proofs.Mapping.Requests
import SearchTables.Proofs.Session.SharedCache
import SearchTables.Proofs.Session.LocalCheck
import SearchTables.Proofs.Decimal.PlainNumeral
import SearchTables.Proofs.Geometry.WktLexing
import SearchTables.Proofs.Geometry.WktGrammar
import SearchTables.Proofs.Geometry.WktRendering
import SearchTables.Proofs.Geometry.BoxFailures
import SearchTables.Proofs.Expression.ReadNames
import SearchTables.Proofs.Filter.Refusals
import SearchTables.Proofs.Filter.Depth
import SearchTables.Proofs.Scan.Views
import SearchTables.Proofs.Client.Events
import SearchTables.Proofs.Client.Releases
import SearchTables.Proofs.Scan.Faults
import SearchTables.Proofs.Mapping.Faults
import SearchTables.Proofs.Client.Bodies
import SearchTables.Proofs.Session.Faults
import SearchTables.Proofs.Scan.Uses
import SearchTables.Proofs.Scan.Tally
import SearchTables.Proofs.Scan.Economy
import SearchTables.Proofs.Mapping.ListUpgrade
import SearchTables.Proofs.Client.Backoff
import SearchTables.Proofs.Scan.Pace
import SearchTables.Proofs.Client.Closing
import SearchTables.Proofs.Row.Answers
import SearchTables.Proofs.Filter.Plain
import SearchTables.Proofs.Decimal.FloatOrder
import SearchTables.Proofs.Geometry.Rectangle
import SearchTables.Proofs.Geometry.Region
import SearchTables.Proofs.Geometry.Stumbles
import SearchTables.Proofs.Filter.Flattening
import SearchTables.Proofs.Filter.Demands
import SearchTables.Proofs.Filter.ResidualColumns
import SearchTables.Proofs.Mapping.Blame
import SearchTables.Proofs.Text.Parts
import SearchTables.Proofs.Geometry.Points
import SearchTables.Proofs.Geometry.NormalForms
import SearchTables.Proofs.Scan.Projection
import SearchTables.Proofs.Calendar.Instants
import SearchTables.Proofs.Calendar.TimestampText
import SearchTables.Proofs.Expression.Operands
import SearchTables.Proofs.Filter.TimestampConstants
import SearchTables.Proofs.Calendar.EpochMillis
import SearchTables.Proofs.Filter.Reuse
import SearchTables.Proofs.Expression.QuotedTexts
import SearchTables.Proofs.Mapping.Disagreement
