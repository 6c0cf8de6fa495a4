import ObjectCatalog.Calendar.Moment
import ObjectCatalog.Decimal.Binary64
import ObjectCatalog.Decimal.Scientific
import ObjectCatalog.Decimal.Shortest
import ObjectCatalog.Decimal.Whole
import ObjectCatalog.Detection.Attempt
import ObjectCatalog.Detection.Probe
import ObjectCatalog.Dialect.Builtin
import ObjectCatalog.Dialect.Descriptor
import ObjectCatalog.Dialect.Insert
import ObjectCatalog.Dialect.Vocabulary
import ObjectCatalog.Diff.Builder
import ObjectCatalog.Engine.Embedded
import ObjectCatalog.Engine.Pool
import ObjectCatalog.Engine.Url
import ObjectCatalog.Failure.Basic
import ObjectCatalog.Failure.Classification
import ObjectCatalog.Failure.Construction
import ObjectCatalog.Failure.Handler
import ObjectCatalog.Failure.Mapping
import ObjectCatalog.Failure.StoreError
import ObjectCatalog.Log.ColorLine
import ObjectCatalog.Log.Configuration
import ObjectCatalog.Log.Event
import ObjectCatalog.Log.Filter
import ObjectCatalog.Log.JsonLine
import ObjectCatalog.Log.Layout
import ObjectCatalog.Log.LinePattern
import ObjectCatalog.Log.Record
import ObjectCatalog.Log.Redaction
import ObjectCatalog.Log.Rotation
import ObjectCatalog.Log.Session
import ObjectCatalog.Log.Template
import ObjectCatalog.Log.Transaction
import ObjectCatalog.Manifest.Lookup
import ObjectCatalog.Manifest.Own
import ObjectCatalog.Manifest.Version
import ObjectCatalog.Path.Basic
import ObjectCatalog.Path.Tree
import ObjectCatalog.Schema.Binds
import ObjectCatalog.Schema.Initialization
import ObjectCatalog.Schema.Script
import ObjectCatalog.Schema.Statement
import ObjectCatalog.Schema.Table
import ObjectCatalog.Settings.Basic
import ObjectCatalog.Settings.Dotenv
import ObjectCatalog.Settings.Sources
import ObjectCatalog.Text.Blank
import ObjectCatalog.Text.Casing
import ObjectCatalog.Text.CasingTable
import ObjectCatalog.Text.DecimalDigit
import ObjectCatalog.Text.Keyword
import ObjectCatalog.Text.Percent
import ObjectCatalog.Text.Printable
import ObjectCatalog.Text.Quoted
import ObjectCatalog.Text.RangeTable
import ObjectCatalog.Text.Split
import ObjectCatalog.Text.Utf8
import ObjectCatalog.Text.WordChar
import ObjectCatalog.Toml.Document
import ObjectCatalog.Toml.Error
import ObjectCatalog.Toml.Read
import ObjectCatalog.Toml.Scalar
import ObjectCatalog.Toml.Scan
import ObjectCatalog.Validation.Coercion
import ObjectCatalog.Validation.Issue
import ObjectCatalog.Value.Basic
import ObjectCatalog.Value.Json
import ObjectCatalog.Proofs.Detection.Plans
import ObjectCatalog.Proofs.Detection.Moves
import ObjectCatalog.Proofs.Detection.WellFormed
import ObjectCatalog.Proofs.Detection.Generations
import ObjectCatalog.Proofs.Detection.SingleFlight
import ObjectCatalog.Proofs.Detection.Agree
import ObjectCatalog.Proofs.Detection.Agreement
import ObjectCatalog.Proofs.Detection.Due
import ObjectCatalog.Proofs.Detection.Deliveries
import ObjectCatalog.Proofs.Detection.Reaching
import ObjectCatalog.Proofs.Detection.Cancellation
import ObjectCatalog.Proofs.Detection.Runs
import ObjectCatalog.Proofs.Dialect.Classes
import ObjectCatalog.Proofs.Failure.Consistency
import ObjectCatalog.Proofs.Failure.Withholding
import ObjectCatalog.Proofs.Detection.Visits
import ObjectCatalog.Proofs.Detection.Course
import ObjectCatalog.Proofs.Text.Pieces
import ObjectCatalog.Proofs.Log.Directives
import ObjectCatalog.Proofs.Log.Fits
import ObjectCatalog.Proofs.Log.Passwords
import ObjectCatalog.Proofs.Log.RedactedMessage
import ObjectCatalog.Proofs.Log.Addresses
import ObjectCatalog.Proofs.Log.ClearedArguments
import ObjectCatalog.Proofs.Log.Secrets
import ObjectCatalog.Proofs.Failure.Blocks
import ObjectCatalog.Proofs.Schema.Courses
import ObjectCatalog.Proofs.Schema.Calls
import ObjectCatalog.Proofs.Schema.Database
import ObjectCatalog.Proofs.Schema.Progress
import ObjectCatalog.Proofs.Schema.Attribution
import ObjectCatalog.Proofs.Results
import ObjectCatalog.Proofs.Schema.Accounts
import ObjectCatalog.Proofs.Schema.Containment
import ObjectCatalog.Proofs.Engine.Shelf
import ObjectCatalog.Proofs.Engine.Sharing
import ObjectCatalog.Proofs.Log.Handling
import ObjectCatalog.Proofs.Log.Tree
import ObjectCatalog.Proofs.Log.Delivery
import ObjectCatalog.Proofs.Log.SafetyNet
import ObjectCatalog.Proofs.Text.Phrases
import ObjectCatalog.Proofs.Dialect.Adaptation
import ObjectCatalog.Proofs.Dialect.Terminators
import ObjectCatalog.Proofs.Log.RedactedText
import ObjectCatalog.Proofs.Log.Urls
import ObjectCatalog.Proofs.Log.Attributes
import ObjectCatalog.Proofs.Log.Members
import ObjectCatalog.Proofs.Log.Unnoticed
import ObjectCatalog.Proofs.Dialect.Construction
import ObjectCatalog.Proofs.Schema.Definitions
import ObjectCatalog.Proofs.Schema.Inserts
import ObjectCatalog.Proofs.Decimal.Numerals
import ObjectCatalog.Proofs.Decimal.Nearest
import ObjectCatalog.Proofs.Json.Grammar
import ObjectCatalog.Proofs.Json.Encoding
import ObjectCatalog.Proofs.Log.JsonLines
import ObjectCatalog.Proofs.Log.Transactions
import ObjectCatalog.Proofs.Path.Ancestors
import ObjectCatalog.Proofs.Manifest.Nearest
import ObjectCatalog.Proofs.Text.Utf8
import ObjectCatalog.Proofs.Toml.Numbers
import ObjectCatalog.Proofs.Toml.Readers
import ObjectCatalog.Proofs.Manifest.Keys
import ObjectCatalog.Proofs.Manifest.Versions
import ObjectCatalog.Proofs.Diff.Requests
