import GeoTables.Calendar.Basic
import GeoTables.Calendar.Reading
import GeoTables.Catalog.Cache
import GeoTables.Catalog.Definition
import GeoTables.Catalog.Registry
import GeoTables.Entries
import GeoTables.Failure
import GeoTables.Filter.Basic
import GeoTables.Filter.Compilation
import GeoTables.Filter.Operator
import GeoTables.Filter.Reading
import GeoTables.Filter.Split
import GeoTables.Geometry.Basic
import GeoTables.Geometry.Parts
import GeoTables.Geometry.Place
import GeoTables.Geometry.Plane
import GeoTables.Geometry.Relation
import GeoTables.Geometry.Wkt.Printing
import GeoTables.Geometry.Wkt.Reading
import GeoTables.Geometry.Wkt.Token
import GeoTables.Json.Basic
import GeoTables.Json.Document
import GeoTables.Json.Lexeme
import GeoTables.Json.Number
import GeoTables.Json.Outline
import GeoTables.Json.Printing
import GeoTables.Json.Record
import GeoTables.Main
import GeoTables.Number.Binary64
import GeoTables.Number.Decimal
import GeoTables.Number.Reading
import GeoTables.Number.Shortest
import GeoTables.Output.Format
import GeoTables.Output.Reading
import GeoTables.Output.Value
import GeoTables.Output.Writing
import GeoTables.Output.Xml
import GeoTables.Predicate.Basic
import GeoTables.Predicate.Evaluation
import GeoTables.Predicate.Pattern
import GeoTables.Predicate.Sql
import GeoTables.Proofs.Calendar.RoundTrip
import GeoTables.Proofs.Catalog.Cache
import GeoTables.Proofs.Catalog.Latest
import GeoTables.Proofs.Catalog.Seeding
import GeoTables.Proofs.Catalog.Sharing
import GeoTables.Proofs.Entries
import GeoTables.Proofs.Filter.Aliases
import GeoTables.Proofs.Filter.Bodies
import GeoTables.Proofs.Filter.Classification
import GeoTables.Proofs.Filter.Entailment
import GeoTables.Proofs.Filter.Failures
import GeoTables.Proofs.Filter.Leaves
import GeoTables.Proofs.Filter.Meaning
import GeoTables.Proofs.Filter.Membership
import GeoTables.Proofs.Filter.Normalisation
import GeoTables.Proofs.Filter.Operands
import GeoTables.Proofs.Filter.Reading
import GeoTables.Proofs.Filter.Respelled
import GeoTables.Proofs.Filter.Sides
import GeoTables.Proofs.Filter.Splitting
import GeoTables.Proofs.Filter.SuppliedText
import GeoTables.Proofs.Filter.Tree
import GeoTables.Proofs.Filter.WellFormed
import GeoTables.Proofs.Filter.Wire
import GeoTables.Proofs.Geometry.Durable
import GeoTables.Proofs.Geometry.Entailment
import GeoTables.Proofs.Geometry.Filled
import GeoTables.Proofs.Geometry.Finite
import GeoTables.Proofs.Geometry.Parts
import GeoTables.Proofs.Geometry.Wkt.Grammar
import GeoTables.Proofs.Geometry.Wkt.LetterCase
import GeoTables.Proofs.Geometry.Wkt.Names
import GeoTables.Proofs.Geometry.Wkt.Occurrence
import GeoTables.Proofs.Geometry.Wkt.Reference
import GeoTables.Proofs.Geometry.Wkt.RoundTrip
import GeoTables.Proofs.Geometry.Wkt.Spelled
import GeoTables.Proofs.Geometry.Wkt.Taken
import GeoTables.Proofs.Geometry.Wkt.Tokens
import GeoTables.Proofs.Json.Depth
import GeoTables.Proofs.Json.Documents
import GeoTables.Proofs.Json.Fields
import GeoTables.Proofs.Json.Numbers
import GeoTables.Proofs.Json.RoundTrip
import GeoTables.Proofs.Json.Scanning
import GeoTables.Proofs.Json.Spelling
import GeoTables.Proofs.Number.DecimalText
import GeoTables.Proofs.Number.LetterCase
import GeoTables.Proofs.Number.Monotone
import GeoTables.Proofs.Number.Nearest
import GeoTables.Proofs.Number.PlainText
import GeoTables.Proofs.Number.Shortest
import GeoTables.Proofs.Outcome
import GeoTables.Proofs.Output.Agreement
import GeoTables.Proofs.Output.Cancellation
import GeoTables.Proofs.Output.Layout
import GeoTables.Proofs.Output.Markup
import GeoTables.Proofs.Output.Nodes
import GeoTables.Proofs.Output.PlainText
import GeoTables.Proofs.Output.RoundTrip
import GeoTables.Proofs.Output.Structure
import GeoTables.Proofs.Output.TableDocument
import GeoTables.Proofs.Output.Texts
import GeoTables.Proofs.Output.Value
import GeoTables.Proofs.Output.WellFormed
import GeoTables.Proofs.Output.Writable
import GeoTables.Proofs.Predicate.AnyRelation
import GeoTables.Proofs.Predicate.Operands
import GeoTables.Proofs.Predicate.Pattern
import GeoTables.Proofs.Predicate.Reach
import GeoTables.Proofs.Predicate.ReadColumns
import GeoTables.Proofs.Predicate.Tests
import GeoTables.Proofs.Predicate.Truth
import GeoTables.Proofs.Predicate.WellFormed
import GeoTables.Proofs.Query.Counting
import GeoTables.Proofs.Query.Evaluation
import GeoTables.Proofs.Query.Lookup
import GeoTables.Proofs.Query.NullLogic
import GeoTables.Proofs.Query.OwnKeys
import GeoTables.Proofs.Query.Results
import GeoTables.Proofs.Query.SortOrder
import GeoTables.Proofs.Query.Sorting
import GeoTables.Proofs.Query.Trichotomy
import GeoTables.Proofs.Service.Lookup
import GeoTables.Proofs.Service.Pages
import GeoTables.Proofs.Service.Segments
import GeoTables.Proofs.Sql.Parameters
import GeoTables.Proofs.Sql.Pieces
import GeoTables.Proofs.Sql.Tokens
import GeoTables.Proofs.Sql.Unambiguous
import GeoTables.Proofs.Store.Calls
import GeoTables.Proofs.Store.Isolation
import GeoTables.Proofs.Store.KeyBytes
import GeoTables.Proofs.Store.Keys
import GeoTables.Proofs.Store.LastWrites
import GeoTables.Proofs.Store.Passes
import GeoTables.Proofs.Store.Replay
import GeoTables.Proofs.Store.Rows
import GeoTables.Proofs.Store.Scanned
import GeoTables.Proofs.Store.Sessions
import GeoTables.Proofs.Store.SharedRows
import GeoTables.Proofs.Store.Snapshots
import GeoTables.Proofs.Store.Tree
import GeoTables.Proofs.Table.Columns
import GeoTables.Proofs.Table.Describable
import GeoTables.Proofs.Table.References
import GeoTables.Proofs.Table.Single
import GeoTables.Proofs.Table.TypeSpelling
import GeoTables.Proofs.Table.TypeText
import GeoTables.Proofs.Text.Blank
import GeoTables.Proofs.Text.LetterCase
import GeoTables.Proofs.Text.Numeral
import GeoTables.Proofs.Text.Occurrence
import GeoTables.Proofs.Text.Splitting
import GeoTables.Proofs.Text.Utf8
import GeoTables.Proofs.Text.Words
import GeoTables.Proofs.Value.Coherence
import GeoTables.Proofs.Value.Comparison
import GeoTables.Proofs.Value.Durable
import GeoTables.Proofs.Value.OneSpelling
import GeoTables.Proofs.Value.Order
import GeoTables.Proofs.Value.OwnText
import GeoTables.Proofs.Value.WholeNumbers
import GeoTables.Query.Execution
import GeoTables.Query.Order
import GeoTables.Service.Answer
import GeoTables.Service.Arguments
import GeoTables.Service.Configuration
import GeoTables.Service.Response
import GeoTables.Service.Route
import GeoTables.Service.Url
import GeoTables.Store.Memory
import GeoTables.Store.Rows
import GeoTables.Store.Tree
import GeoTables.Table.Basic
import GeoTables.Table.Declaration
import GeoTables.Table.Description
import GeoTables.Table.ForeignKey
import GeoTables.Table.Record
import GeoTables.Table.StoreType
import GeoTables.Text.Ascii
import GeoTables.Text.Blank
import GeoTables.Text.Letter
import GeoTables.Text.Numeral
import GeoTables.Text.Utf8
import GeoTables.Value.Basic
import GeoTables.Value.Coercion
import GeoTables.Value.Comparison
import GeoTables.Value.Stored
