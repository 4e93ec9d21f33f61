import BsonTable.Bson.Equivalence
import BsonTable.Bson.ExtendedJson
import BsonTable.Bson.OfJson
import BsonTable.Bson.Quoted
import BsonTable.Bson.Text
import BsonTable.Bson.TypeName
import BsonTable.Bson.Value
import BsonTable.Calendar.Date
import BsonTable.Calendar.Instant
import BsonTable.Calendar.Rfc3339
import BsonTable.Calendar.Timestamp
import BsonTable.Error
import BsonTable.Fields
import BsonTable.Json.Printer
import BsonTable.Json.Tokens
import BsonTable.Json.Tree
import BsonTable.Library.Basic
import BsonTable.Library.Standard
import BsonTable.Number.Binary
import BsonTable.Number.Decimal128
import BsonTable.Number.DecimalLiteral
import BsonTable.Number.Fixed96
import BsonTable.Number.FixedText
import BsonTable.Number.Literal
import BsonTable.Number.Shortest
import BsonTable.Options.Basic
import BsonTable.Options.Properties
import BsonTable.Options.Toml
import BsonTable.Proofs.Calendar.CalendarLibrary
import BsonTable.Proofs.Calendar.CivilDate
import BsonTable.Proofs.Calendar.IsoText
import BsonTable.Proofs.Calendar.JulianDays
import BsonTable.Proofs.Calendar.Rules
import BsonTable.Proofs.Calendar.SortedText
import BsonTable.Proofs.Json.FiniteTrees
import BsonTable.Proofs.Json.Numbers
import BsonTable.Proofs.Json.ReadBack
import BsonTable.Proofs.Json.Reader
import BsonTable.Proofs.Json.SpacedText
import BsonTable.Proofs.Json.Spacing
import BsonTable.Proofs.Json.StandardTokens
import BsonTable.Proofs.Json.Tokens
import BsonTable.Proofs.Number.BinaryRounding
import BsonTable.Proofs.Number.CheckedWord
import BsonTable.Proofs.Number.DecimalLibrary
import BsonTable.Proofs.Number.FixedPlaces
import BsonTable.Proofs.Number.FixedPoint
import BsonTable.Proofs.Number.Rational
import BsonTable.Proofs.Number.ShortestDecimal
import BsonTable.Proofs.Reading.Dates
import BsonTable.Proofs.Reading.Decimals
import BsonTable.Proofs.Reading.HostForms
import BsonTable.Proofs.Reading.Integers
import BsonTable.Proofs.Reading.Modes
import BsonTable.Proofs.Reading.Truth
import BsonTable.Proofs.ResultSet.Columns
import BsonTable.Proofs.ResultSet.Completion
import BsonTable.Proofs.ResultSet.Cursor
import BsonTable.Proofs.ResultSet.Delivery
import BsonTable.Proofs.ResultSet.Failure
import BsonTable.Proofs.ResultSet.Invariant
import BsonTable.Proofs.ResultSet.Labels
import BsonTable.Proofs.ResultSet.Level
import BsonTable.Proofs.ResultSet.Lifecycle
import BsonTable.Proofs.ResultSet.Memory
import BsonTable.Proofs.ResultSet.Modes
import BsonTable.Proofs.ResultSet.Navigation
import BsonTable.Proofs.ResultSet.Places
import BsonTable.Proofs.ResultSet.Position
import BsonTable.Proofs.ResultSet.Recorded
import BsonTable.Proofs.ResultSet.Release
import BsonTable.Proofs.ResultSet.SchemaRequest
import BsonTable.Proofs.ResultSet.Simulation
import BsonTable.Proofs.ResultSet.Steps
import BsonTable.Proofs.ResultSet.Strategies
import BsonTable.Proofs.Schema.Acceptance
import BsonTable.Proofs.Schema.Agreement
import BsonTable.Proofs.Schema.Alike
import BsonTable.Proofs.Schema.Canonical
import BsonTable.Proofs.Schema.Equality
import BsonTable.Proofs.Schema.Flattening
import BsonTable.Proofs.Schema.Grammar
import BsonTable.Proofs.Schema.Leaves
import BsonTable.Proofs.Schema.Malformed
import BsonTable.Proofs.Schema.Nullability
import BsonTable.Proofs.Schema.Reading
import BsonTable.Proofs.Schema.Respelling
import BsonTable.Proofs.Schema.RoundTrip
import BsonTable.Proofs.Schema.UnreadKeys
import BsonTable.Proofs.Table.Addressing
import BsonTable.Proofs.Table.DeclaredColumns
import BsonTable.Proofs.Table.RegularRows
import BsonTable.Proofs.Table.RequestedColumns
import BsonTable.Proofs.Table.RowColumns
import BsonTable.Proofs.Text.ByteOrder
import BsonTable.Proofs.Text.Numeral
import BsonTable.Proofs.Text.Slots
import BsonTable.Reading.HostValue
import BsonTable.Reading.Object
import BsonTable.Reading.Scalar
import BsonTable.Reading.Target
import BsonTable.ResultSet.Asking
import BsonTable.ResultSet.Basic
import BsonTable.ResultSet.Call
import BsonTable.ResultSet.Cursor
import BsonTable.ResultSet.Moving
import BsonTable.ResultSet.Opening
import BsonTable.ResultSet.Reading
import BsonTable.ResultSet.Statement
import BsonTable.Schema.Basic
import BsonTable.Schema.Document
import BsonTable.Schema.Equality
import BsonTable.Schema.OfJson
import BsonTable.Schema.Parse
import BsonTable.Schema.Reply
import BsonTable.Schema.Union
import BsonTable.Sql.ColumnType
import BsonTable.Sql.Nullability
import BsonTable.Sql.Type
import BsonTable.Table.Column
import BsonTable.Table.Header
import BsonTable.Table.Source
import BsonTable.Text.Ascii
import BsonTable.Text.Base64
import BsonTable.Text.Hex
import BsonTable.Text.Numeral
import BsonTable.Toml.Document
import BsonTable.Toml.Number
import BsonTable.Toml.Text
import BsonTable.Toml.Value
