import Rulebook.Calendar.Day
import Rulebook.Calendar.Instant
import Rulebook.Calendar.Stamp
import Rulebook.Catalog
import Rulebook.Coercion
import Rulebook.Command.Arguments
import Rulebook.Command.Failure
import Rulebook.Command.Report
import Rulebook.Command.Run
import Rulebook.Default
import Rulebook.Document
import Rulebook.Enforcement
import Rulebook.Entries
import Rulebook.Fault
import Rulebook.Format
import Rulebook.Json.Basic
import Rulebook.Json.Field
import Rulebook.Json.Loose
import Rulebook.Json.Printer
import Rulebook.Json.Reader
import Rulebook.Main
import Rulebook.Number.Decimal
import Rulebook.Number.Digits
import Rulebook.Number.Double
import Rulebook.Number.Layout
import Rulebook.Number.Shortest
import Rulebook.Number.Whole
import Rulebook.Pattern.Basic
import Rulebook.Pattern.CharSet
import Rulebook.Pattern.Extent
import Rulebook.Pattern.Form
import Rulebook.Pattern.Meaning
import Rulebook.Pattern.Query
import Rulebook.Pattern.Reader
import Rulebook.Pattern.Search
import Rulebook.Pattern.Store
import Rulebook.Proofs.Enforcement.Blocks
import Rulebook.Proofs.Pattern.Remembered
import Rulebook.Record
import Rulebook.Rule.Bounds
import Rulebook.Rule.Directive
import Rulebook.Rule.Evaluation
import Rulebook.Rule.Match
import Rulebook.Rule.Measure
import Rulebook.Rule.Membership
import Rulebook.Rule.Roster
import Rulebook.Rule.Violation
import Rulebook.Schema
import Rulebook.Text.Blank
import Rulebook.Text.Cut
import Rulebook.Toml.Item
import Rulebook.Toml.Lexical
import Rulebook.Toml.Meaning
import Rulebook.Toml.Reader
import Rulebook.Unicode.Case
import Rulebook.Unicode.Category
import Rulebook.Unicode.Property
import Rulebook.Unicode.RangeTable
import Rulebook.Unicode.Script
import Rulebook.Unicode.ScriptExtension
import Rulebook.Value
import Rulebook.Yaml.Cursor
import Rulebook.Yaml.Meaning
import Rulebook.Yaml.Node
import Rulebook.Yaml.Plain
import Rulebook.Yaml.Printer
import Rulebook.Yaml.Scan
import Rulebook.Yaml.Token
import Rulebook.Proofs.Default.Injection
import Rulebook.Proofs.Default.Pass
import Rulebook.Proofs.Default.Typed
import Rulebook.Proofs.Calendar.Day
import Rulebook.Proofs.Number.Digits
import Rulebook.Proofs.Text.Blank
import Rulebook.Proofs.Calendar.Stamp
import Rulebook.Proofs.Calendar.Instant
import Rulebook.Proofs.Json.Field
import Rulebook.Proofs.Default.Json
import Rulebook.Proofs.Default.Failure
import Rulebook.Proofs.Default.Repetition
import Rulebook.Proofs.Rule.Spelling
import Rulebook.Proofs.Rule.Quotation
import Rulebook.Proofs.Rule.Stretch
import Rulebook.Proofs.Enforcement.Elision
import Rulebook.Proofs.Enforcement.Findings
import Rulebook.Proofs.Enforcement.Influence
import Rulebook.Proofs.Enforcement.Mismatch
import Rulebook.Proofs.Number.Whole
import Rulebook.Proofs.Rule.FirstNumber
import Rulebook.Proofs.Rule.Measured
import Rulebook.Proofs.Number.Decimal
import Rulebook.Proofs.Rule.Blame
import Rulebook.Proofs.Catalog.Valid
import Rulebook.Proofs.Default.Fault
import Rulebook.Proofs.Command.Ending
import Rulebook.Proofs.Coercion.Whole
import Rulebook.Proofs.Enforcement.Numeral
import Rulebook.Proofs.Rule.Wording
import Rulebook.Proofs.Calendar.DateTime
import Rulebook.Proofs.Command.SingleValue
import Rulebook.Proofs.Default.Twins
import Rulebook.Proofs.Toml.Time
import Rulebook.Proofs.Command.Formats
import Rulebook.Proofs.Rule.Roster
import Rulebook.Proofs.Enforcement.Layers
import Rulebook.Proofs.Rule.Bounds
import Rulebook.Proofs.Enforcement.Bounds
import Rulebook.Proofs.Enforcement.Precision
import Rulebook.Proofs.Command.Presentation
import Rulebook.Proofs.Enforcement.Membership
import Rulebook.Proofs.Pattern.Search
import Rulebook.Proofs.Rule.Match
import Rulebook.Proofs.Calendar.Shift
import Rulebook.Proofs.Default.Shift
import Rulebook.Proofs.Calendar.Timestamp
import Rulebook.Proofs.Record.Write
import Rulebook.Proofs.Coercion.Raw
import Rulebook.Proofs.Default.Timestamp
import Rulebook.Proofs.Json.Rewriting
import Rulebook.Proofs.Coercion.Lossless
import Rulebook.Proofs.Default.Changed
import Rulebook.Proofs.Default.Missing
import Rulebook.Proofs.Catalog.FirstFlaw
import Rulebook.Proofs.Enforcement.Nameless
import Rulebook.Proofs.Enforcement.Naming
import Rulebook.Proofs.Pattern.History
import Rulebook.Proofs.Rule.NumberSlice
import Rulebook.Proofs.Enforcement.WordCount
