import AqlGateway.Aql.Clause
import AqlGateway.Aql.Identifier
import AqlGateway.Aql.Kind
import AqlGateway.Aql.Predicate
import AqlGateway.Aql.Sentence
import AqlGateway.Aql.Statement
import AqlGateway.Aql.Template
import AqlGateway.Aql.Translation
import AqlGateway.Binary64.Basic
import AqlGateway.Binary64.Layout
import AqlGateway.Binary64.Reader
import AqlGateway.Binary64.Shortest
import AqlGateway.Calendar.Date
import AqlGateway.Calendar.Instant
import AqlGateway.Command.Admin
import AqlGateway.Command.Console
import AqlGateway.Command.Options
import AqlGateway.Command.Translate
import AqlGateway.Duration
import AqlGateway.Error
import AqlGateway.Executor.Cursor
import AqlGateway.Executor.Operations
import AqlGateway.Executor.Recording
import AqlGateway.Executor.Session
import AqlGateway.Json.Basic
import AqlGateway.Json.Fields
import AqlGateway.Json.Reader
import AqlGateway.Json.Text
import AqlGateway.Main
import AqlGateway.Postgres.Address
import AqlGateway.Postgres.Column
import AqlGateway.Postgres.Numeric
import AqlGateway.Postgres.Parameter
import AqlGateway.Postgres.Server
import AqlGateway.Proofs.Aql.Acceptance
import AqlGateway.Proofs.Aql.Boundaries
import AqlGateway.Proofs.Aql.Clause
import AqlGateway.Proofs.Aql.ColumnList
import AqlGateway.Proofs.Aql.Condition
import AqlGateway.Proofs.Aql.Dangling
import AqlGateway.Proofs.Aql.DariColumns
import AqlGateway.Proofs.Aql.Filling
import AqlGateway.Proofs.Aql.Grammar
import AqlGateway.Proofs.Aql.Identifier
import AqlGateway.Proofs.Aql.Inline
import AqlGateway.Proofs.Aql.KeptFilter
import AqlGateway.Proofs.Aql.Leaves
import AqlGateway.Proofs.Aql.Names
import AqlGateway.Proofs.Aql.Passthrough
import AqlGateway.Proofs.Aql.Preparation
import AqlGateway.Proofs.Aql.QuotedData
import AqlGateway.Proofs.Aql.ReadBack
import AqlGateway.Proofs.Aql.Reference
import AqlGateway.Proofs.Aql.Rendering
import AqlGateway.Proofs.Aql.Separation
import AqlGateway.Proofs.Aql.SetClause
import AqlGateway.Proofs.Aql.Sheltered
import AqlGateway.Proofs.Aql.Slots
import AqlGateway.Proofs.Aql.Stacked
import AqlGateway.Proofs.Aql.Straying
import AqlGateway.Proofs.Aql.TokenList
import AqlGateway.Proofs.Aql.UpdateCondition
import AqlGateway.Proofs.Binary64.Whole
import AqlGateway.Proofs.Calendar.Digits
import AqlGateway.Proofs.Calendar.Text
import AqlGateway.Proofs.Executor.Audit
import AqlGateway.Proofs.Executor.Cursor
import AqlGateway.Proofs.Executor.DropGate
import AqlGateway.Proofs.Executor.Reading
import AqlGateway.Proofs.Executor.Rounds
import AqlGateway.Proofs.Executor.Run
import AqlGateway.Proofs.Executor.Session
import AqlGateway.Proofs.Json.RoundTrip
import AqlGateway.Proofs.Json.Scalars
import AqlGateway.Proofs.Json.Spelling
import AqlGateway.Proofs.Postgres.Delivery
import AqlGateway.Proofs.Postgres.Fetching
import AqlGateway.Proofs.Postgres.Invariant
import AqlGateway.Proofs.Remote.Answers
import AqlGateway.Proofs.Remote.Calls
import AqlGateway.Proofs.Remote.Connection
import AqlGateway.Proofs.Remote.Envelope
import AqlGateway.Proofs.Remote.Exchange
import AqlGateway.Proofs.Remote.Exclusion
import AqlGateway.Proofs.Remote.InsertLine
import AqlGateway.Proofs.Remote.Lines
import AqlGateway.Proofs.Remote.Locks
import AqlGateway.Proofs.Remote.Request
import AqlGateway.Proofs.Remote.Retry
import AqlGateway.Proofs.Remote.Stages
import AqlGateway.Proofs.Remote.Steps
import AqlGateway.Proofs.Remote.Turns
import AqlGateway.Proofs.Repository.Agreement
import AqlGateway.Proofs.Repository.Bindings
import AqlGateway.Proofs.Repository.EngineFailure
import AqlGateway.Proofs.Repository.FreshCode
import AqlGateway.Proofs.Repository.ListQuery
import AqlGateway.Proofs.Repository.Lookup
import AqlGateway.Proofs.Repository.NextCode
import AqlGateway.Proofs.Repository.OneCall
import AqlGateway.Proofs.Repository.Pages
import AqlGateway.Proofs.Repository.Payload
import AqlGateway.Proofs.Repository.Records
import AqlGateway.Proofs.Repository.RowQuery
import AqlGateway.Proofs.Repository.Shape
import AqlGateway.Proofs.Text.ByteOrder
import AqlGateway.Proofs.Text.Items
import AqlGateway.Proofs.Text.Join
import AqlGateway.Proofs.Text.Occurrence
import AqlGateway.Proofs.Text.Pieces
import AqlGateway.Proofs.Text.Quoted
import AqlGateway.Proofs.Text.Stretches
import AqlGateway.Proofs.Text.Trim
import AqlGateway.Proofs.Text.Utf8
import AqlGateway.Proofs.Text.Words
import AqlGateway.Proofs.Tree.Code
import AqlGateway.Proofs.Tree.Filter
import AqlGateway.Proofs.Tree.Integer
import AqlGateway.Proofs.Tree.Record
import AqlGateway.Proofs.Tree.Row
import AqlGateway.Proofs.Tree.Update
import AqlGateway.Proofs.Value.Literal
import AqlGateway.Remote.Client
import AqlGateway.Remote.Config
import AqlGateway.Remote.Envelope
import AqlGateway.Remote.Offline
import AqlGateway.Remote.Request
import AqlGateway.Remote.Stream
import AqlGateway.Remote.Tasks
import AqlGateway.Repository.Relational
import AqlGateway.Repository.Remote
import AqlGateway.Repository.Store
import AqlGateway.Row
import AqlGateway.Settings.Basic
import AqlGateway.Settings.Entry
import AqlGateway.Settings.Environment
import AqlGateway.Settings.Load
import AqlGateway.Settings.Mode
import AqlGateway.Settings.Path
import AqlGateway.Settings.Toml.Reader
import AqlGateway.Settings.Toml.Scalar
import AqlGateway.Settings.Toml.Table
import AqlGateway.Settings.Toml.Text
import AqlGateway.Shell.Launch
import AqlGateway.Shell.Payload
import AqlGateway.Shell.Session
import AqlGateway.Table
import AqlGateway.Text.Blank
import AqlGateway.Text.Bytes
import AqlGateway.Text.Percent
import AqlGateway.Text.Quoted
import AqlGateway.Text.Split
import AqlGateway.Text.Utf8
import AqlGateway.Text.Width
import AqlGateway.Text.Width.Ranges
import AqlGateway.Tree.Basic
import AqlGateway.Tree.Code
import AqlGateway.Tree.Filter
import AqlGateway.Tree.Json
import AqlGateway.Tree.Record
import AqlGateway.Tree.Row
import AqlGateway.Tree.Status
import AqlGateway.Value.Basic
import AqlGateway.Value.Json
