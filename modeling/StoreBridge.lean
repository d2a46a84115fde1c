import StoreBridge.Adapter.Basic
import StoreBridge.Adapter.Database
import StoreBridge.Adapter.Lifecycle
import StoreBridge.Adapter.Recording
import StoreBridge.Argument
import StoreBridge.Backend
import StoreBridge.Bson.Basic
import StoreBridge.Bson.ExtendedJson
import StoreBridge.Bytes.Base64
import StoreBridge.Bytes.Hex
import StoreBridge.Column.Category
import StoreBridge.Column.Numeric
import StoreBridge.Column.Value
import StoreBridge.Config.Address
import StoreBridge.Config.Basic
import StoreBridge.Config.PoolOptions
import StoreBridge.Failure
import StoreBridge.Identifier
import StoreBridge.Json.Basic
import StoreBridge.Json.Literal
import StoreBridge.Json.Reader
import StoreBridge.Json.Writer
import StoreBridge.Mongo.Document
import StoreBridge.Mongo.Server
import StoreBridge.Mongo.Store
import StoreBridge.Number.Binary64
import StoreBridge.Number.Digits
import StoreBridge.Number.HexDigit
import StoreBridge.Number.Power
import StoreBridge.Number.Reading
import StoreBridge.Number.Shortest
import StoreBridge.Query.Compile
import StoreBridge.Query.Document
import StoreBridge.Query.Operation
import StoreBridge.Query.Shown
import StoreBridge.Query.Statement
import StoreBridge.Query.Tabular
import StoreBridge.Request
import StoreBridge.Schema
import StoreBridge.Serial.Form
import StoreBridge.Serial.Request
import StoreBridge.Serial.Schema
import StoreBridge.Sql.Cast
import StoreBridge.Sql.Classify
import StoreBridge.Sql.Dialect
import StoreBridge.Sql.Placeholder
import StoreBridge.Sql.Pool
import StoreBridge.Sql.RowLimit
import StoreBridge.Sql.Server
import StoreBridge.Sql.Store
import StoreBridge.Sqlite.Affinity
import StoreBridge.Sqlite.Aggregate
import StoreBridge.Sqlite.Change
import StoreBridge.Sqlite.ColumnType
import StoreBridge.Sqlite.Connection
import StoreBridge.Sqlite.Datum
import StoreBridge.Sqlite.Definition
import StoreBridge.Sqlite.Engine
import StoreBridge.Sqlite.Function
import StoreBridge.Sqlite.Joins
import StoreBridge.Sqlite.Names
import StoreBridge.Sqlite.Parser.Basic
import StoreBridge.Sqlite.Parser.Query
import StoreBridge.Sqlite.Parser.Statement
import StoreBridge.Sqlite.Pattern
import StoreBridge.Sqlite.Plan
import StoreBridge.Sqlite.Query
import StoreBridge.Sqlite.Relation
import StoreBridge.Sqlite.StatementCache
import StoreBridge.Sqlite.Syntax
import StoreBridge.Sqlite.Table
import StoreBridge.Sqlite.Term
import StoreBridge.Sqlite.Token
import StoreBridge.Text.Blank
import StoreBridge.Text.Fold
import StoreBridge.Text.Percent
import StoreBridge.Text.Printable
import StoreBridge.Text.Quoted
import StoreBridge.Time.Calendar
import StoreBridge.Time.Instant
import StoreBridge.Transaction
import StoreBridge.Url.Basic
import StoreBridge.Url.Host
import StoreBridge.Url.Parser
import StoreBridge.Url.Path
import StoreBridge.Proofs.Identifier
import StoreBridge.Proofs.Checked
import StoreBridge.Proofs.Steps
import StoreBridge.Proofs.Members
import StoreBridge.Proofs.Query.Chain
import StoreBridge.Proofs.Query.Binding
import StoreBridge.Proofs.Query.Unambiguous
import StoreBridge.Proofs.Query.Shape
import StoreBridge.Proofs.Query.Collection
import StoreBridge.Proofs.Query.Filter
import StoreBridge.Proofs.Adapter.Call
import StoreBridge.Proofs.Adapter.Work
import StoreBridge.Proofs.Adapter.Bracket
import StoreBridge.Proofs.Adapter.Atomic
import StoreBridge.Proofs.Adapter.History
import StoreBridge.Proofs.Sql.Frame
import StoreBridge.Proofs.Sql.Scope
import StoreBridge.Proofs.Sql.Session
import StoreBridge.Proofs.Sql.Snapshot
import StoreBridge.Proofs.Sql.Step
import StoreBridge.Proofs.Sql.Lineage
import StoreBridge.Proofs.Sql.Undo
import StoreBridge.Proofs.Query.Reorder
import StoreBridge.Proofs.Adapter.Batch
import StoreBridge.Proofs.Adapter.Expiry
import StoreBridge.Proofs.Sql.Expiry
import StoreBridge.Proofs.Mongo.Expiry
import StoreBridge.Proofs.EndedScope
import StoreBridge.Proofs.Sql.Durable
import StoreBridge.Proofs.Sql.Rendering
import StoreBridge.Proofs.RefusedNesting
import StoreBridge.Proofs.Adapter.Failure
import StoreBridge.Proofs.Sql.Failure
import StoreBridge.Proofs.Mongo.Failure
import StoreBridge.Proofs.CompileError
import StoreBridge.Proofs.Disconnected
import StoreBridge.Proofs.Text.Opening
import StoreBridge.Proofs.Sql.Classification
import StoreBridge.Proofs.Number.Digits
import StoreBridge.Proofs.Column.Worth
import StoreBridge.Proofs.Column.Numeric
import StoreBridge.Proofs.Serial.Form
import StoreBridge.Proofs.Serial.RoundTrip
import StoreBridge.Proofs.Query.Faults
import StoreBridge.Proofs.Query.RowSpelling
import StoreBridge.Proofs.Query.Actions
import StoreBridge.Proofs.Mongo.Dispatch
import StoreBridge.Proofs.Sql.LimitClause
import StoreBridge.Proofs.Sql.RowLimit
import StoreBridge.Proofs.Sqlite.GuessedKind
import StoreBridge.Proofs.Mongo.SortOrder
import StoreBridge.Proofs.Mongo.FindLimit
import StoreBridge.Proofs.Text.Percent
import StoreBridge.Proofs.Url.Authority
import StoreBridge.Proofs.Config.Credentials
import StoreBridge.Proofs.Url.Password
import StoreBridge.Proofs.Config.Masking
import StoreBridge.Proofs.Config.PoolSettings
import StoreBridge.Proofs.Number.Nearest
import StoreBridge.Proofs.Column.NumberText
import StoreBridge.Proofs.Sql.ServerInvariant
import StoreBridge.Proofs.Sqlite.InsertedRows
import StoreBridge.Proofs.Sqlite.LastNumber
import StoreBridge.Proofs.Json.RoundTrip
import StoreBridge.Proofs.Column.StructuredText
import StoreBridge.Proofs.IdentifierGrammar
import StoreBridge.Proofs.Mongo.OrdinaryRow
import StoreBridge.Proofs.ParamTypes
import StoreBridge.Proofs.EndedAnswers
import StoreBridge.Proofs.DeclaredSchema
