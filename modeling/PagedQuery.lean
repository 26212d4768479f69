import PagedQuery.Coercion.Basic
import PagedQuery.Coercion.Cache
import PagedQuery.Coercion.Error
import PagedQuery.CommandLine.Arguments
import PagedQuery.CommandLine.Help
import PagedQuery.CommandLine.Invocation
import PagedQuery.CommandLine.Outcome
import PagedQuery.CommandLine.PageSetting
import PagedQuery.Console.Markup
import PagedQuery.Console.Picture
import PagedQuery.Console.PictureTable
import PagedQuery.Console.Style
import PagedQuery.Console.Table
import PagedQuery.Console.Wrap
import PagedQuery.Fault
import PagedQuery.FileTree
import PagedQuery.Identifier
import PagedQuery.Json.Basic
import PagedQuery.Json.Printer
import PagedQuery.Json.Reader
import PagedQuery.Main
import PagedQuery.Number.Binary64
import PagedQuery.Number.Decimal
import PagedQuery.Number.Integer
import PagedQuery.Page.Basic
import PagedQuery.Page.Document
import PagedQuery.Page.Slice
import PagedQuery.Page.Window
import PagedQuery.Plan.Basic
import PagedQuery.Plan.Ordering
import PagedQuery.Plan.Predicate
import PagedQuery.Query.Builder
import PagedQuery.Query.Clause
import PagedQuery.Query.Grammar
import PagedQuery.Query.Include
import PagedQuery.Query.Request
import PagedQuery.Query.Saved
import PagedQuery.Sample.Library
import PagedQuery.Schema.Basic
import PagedQuery.Schema.Discovery
import PagedQuery.Schema.Expression
import PagedQuery.Schema.Expression.Access
import PagedQuery.Schema.Expression.Builtin
import PagedQuery.Schema.Expression.Evaluation
import PagedQuery.Schema.Expression.Function
import PagedQuery.Schema.Expression.Layout
import PagedQuery.Schema.Expression.Meaning
import PagedQuery.Schema.Expression.Method
import PagedQuery.Schema.Expression.Operation
import PagedQuery.Schema.Expression.Term
import PagedQuery.Schema.Expression.Token
import PagedQuery.Schema.FieldType
import PagedQuery.Schema.Lineage
import PagedQuery.Schema.TypeForm
import PagedQuery.Session
import PagedQuery.Settings
import PagedQuery.Sorting
import PagedQuery.Sorting.Merge
import PagedQuery.Sorting.Runs
import PagedQuery.Sorting.Search
import PagedQuery.Source.Basic
import PagedQuery.Source.Memory
import PagedQuery.Source.Stored
import PagedQuery.Table.Basic
import PagedQuery.Table.Cell
import PagedQuery.Table.Connection
import PagedQuery.Table.Statement
import PagedQuery.Text.Blank
import PagedQuery.Text.Case
import PagedQuery.Text.CaseTable
import PagedQuery.Text.Digit
import PagedQuery.Text.Percent
import PagedQuery.Text.PrintableTable
import PagedQuery.Text.Quoted
import PagedQuery.Text.Search
import PagedQuery.Text.Split
import PagedQuery.Text.Utf8
import PagedQuery.Text.Width
import PagedQuery.Text.WidthTable
import PagedQuery.Text.Word
import PagedQuery.Text.WordTable
import PagedQuery.Time.Calendar
import PagedQuery.Time.Iso
import PagedQuery.Time.Pattern
import PagedQuery.Time.Span
import PagedQuery.Toml.Failure
import PagedQuery.Toml.Printer
import PagedQuery.Toml.Reader
import PagedQuery.Toml.Scalar
import PagedQuery.Toml.Table
import PagedQuery.Toml.Text
import PagedQuery.Value.Attribute
import PagedQuery.Value.Basic
import PagedQuery.Value.Order
import PagedQuery.Workspace
import PagedQuery.Yaml.Cursor
import PagedQuery.Yaml.Document
import PagedQuery.Yaml.Node
import PagedQuery.Yaml.Resolution
import PagedQuery.Yaml.Scalar
import PagedQuery.Yaml.Token
import PagedQuery.Proofs.Sorting.Stable
import PagedQuery.Proofs.Sorting.Search
import PagedQuery.Proofs.Sorting.Steps
import PagedQuery.Proofs.Sorting.Merge
import PagedQuery.Proofs.Sorting.Runs
import PagedQuery.Proofs.Sorting.Rearrangement
import PagedQuery.Proofs.Sorting.Sort
import PagedQuery.Proofs.Sorting.Comparator
import PagedQuery.Proofs.Ordering.Kind
import PagedQuery.Proofs.Ordering.Clauses
import PagedQuery.Proofs.Paging.Pages
import PagedQuery.Proofs.Sources.Memory
import PagedQuery.Proofs.Sources.Joins
import PagedQuery.Proofs.Sources.Steps
import PagedQuery.Proofs.Ordering.Cell
import PagedQuery.Proofs.Sources.Rows
import PagedQuery.Proofs.Sources.Reading
import PagedQuery.Proofs.Sources.Incremental
import PagedQuery.Proofs.Binding.Skipped
import PagedQuery.Proofs.Paging.Walk
import PagedQuery.Proofs.Text.Percent
import PagedQuery.Proofs.Text.Split
import PagedQuery.Proofs.Grammar.Filter
import PagedQuery.Proofs.Text.Capital
import PagedQuery.Proofs.Grammar.RoundTrip
import PagedQuery.Proofs.Text.Order
import PagedQuery.Proofs.Time.Order
import PagedQuery.Proofs.Time.Reading
import PagedQuery.Proofs.Sources.ToOne
import PagedQuery.Proofs.Schema.Closed
import PagedQuery.Proofs.Library.Columns
import PagedQuery.Proofs.Library.Paths
import PagedQuery.Proofs.Library.Rows
import PagedQuery.Proofs.Library.Queries
import PagedQuery.Proofs.Library.Selection
import PagedQuery.Proofs.Library.Search
import PagedQuery.Proofs.Library.Agreement
import PagedQuery.Proofs.Ordering.Magnitude
import PagedQuery.Proofs.Text.Blank
import PagedQuery.Proofs.Text.Utf8
import PagedQuery.Proofs.Text.Dotted
import PagedQuery.Proofs.Including.Routes
import PagedQuery.Proofs.Including.Rebuild
import PagedQuery.Proofs.Including.Trie
import PagedQuery.Proofs.Schema.Instance
import PagedQuery.Proofs.Ordering.Undecided
import PagedQuery.Proofs.Binding.Refusal
import PagedQuery.Proofs.Ordering.Clash
import PagedQuery.Proofs.Sources.Sorted
import PagedQuery.Proofs.Entries
import PagedQuery.Proofs.Schema.Spelling
import PagedQuery.Proofs.Schema.Naming
import PagedQuery.Proofs.Schema.Sameness
import PagedQuery.Proofs.Coercion.Remembering
import PagedQuery.Proofs.Coercion.History
import PagedQuery.Proofs.Saved.Registering
import PagedQuery.Proofs.Saved.Loading
import PagedQuery.Proofs.Saved.History
import PagedQuery.Proofs.Paging.Parameters
import PagedQuery.Proofs.Paging.Limits
import PagedQuery.Proofs.Saved.Mistyped
import PagedQuery.Proofs.Library.Boundary
import PagedQuery.Proofs.Text.Folding
import PagedQuery.Proofs.Library.Patterns
import PagedQuery.Proofs.Grammar.Sort
import PagedQuery.Proofs.Sources.Selected
import PagedQuery.Proofs.Sources.Partition
import PagedQuery.Proofs.Related
import PagedQuery.Proofs.Schema.Annotations
import PagedQuery.Proofs.Schema.Unknown
import PagedQuery.Proofs.Schema.Loosening
import PagedQuery.Proofs.Binding.Deferred
import PagedQuery.Proofs.Binding.Crossing
import PagedQuery.Proofs.Schema.Alternatives
import PagedQuery.Proofs.Schema.Forms
import PagedQuery.Proofs.Schema.Optional
import PagedQuery.Proofs.Schema.Locality
import PagedQuery.Proofs.Including.Sharing
import PagedQuery.Proofs.Text.Digits
import PagedQuery.Proofs.Text.Lower
import PagedQuery.Proofs.Time.Clock
import PagedQuery.Proofs.Time.Iso
import PagedQuery.Proofs.Time.Rendering
import PagedQuery.Proofs.Time.Printed
import PagedQuery.Proofs.Number.Printed
import PagedQuery.Proofs.Number.Identifier
import PagedQuery.Proofs.Coercion.Members
import PagedQuery.Proofs.Binding.Returning
import PagedQuery.Proofs.Coercion.Names
import PagedQuery.Proofs.Coercion.Separators
import PagedQuery.Proofs.Sources.Containing
import PagedQuery.Proofs.Ordering.Equality
import PagedQuery.Proofs.Sources.Lookup
import PagedQuery.Proofs.Paging.Windows
import PagedQuery.Proofs.Settings.Layers
import PagedQuery.Proofs.Toml.Kinds
import PagedQuery.Proofs.Settings.Loading
import PagedQuery.Proofs.Including.Rendering
