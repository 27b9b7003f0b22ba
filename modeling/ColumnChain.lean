import ColumnChain.Calendar.Date
import ColumnChain.Calendar.Instant
import ColumnChain.Calendar.Layout
import ColumnChain.Catalog
import ColumnChain.Cell
import ColumnChain.ColumnType
import ColumnChain.CommandLine.Invocation
import ColumnChain.CommandLine.Report
import ColumnChain.CommandLine.Running
import ColumnChain.CommandLine.Words
import ColumnChain.Dataset
import ColumnChain.Delimited.Detection
import ColumnChain.Delimited.File
import ColumnChain.Delimited.Loading
import ColumnChain.Delimited.Records
import ColumnChain.Delimited.Writing
import ColumnChain.Digest
import ColumnChain.Evaluation
import ColumnChain.Expression
import ColumnChain.Expression.Reading
import ColumnChain.Fault
import ColumnChain.Files.Basic
import ColumnChain.Files.Disk
import ColumnChain.Files.Path
import ColumnChain.Function.Arithmetic
import ColumnChain.Function.Basic
import ColumnChain.Function.Calendar
import ColumnChain.Function.Choice
import ColumnChain.Function.Statistic
import ColumnChain.Function.Text
import ColumnChain.Json.Basic
import ColumnChain.Json.Decoding
import ColumnChain.Json.Expressions
import ColumnChain.Json.Number
import ColumnChain.Json.Reading
import ColumnChain.Json.Records
import ColumnChain.Json.Settings
import ColumnChain.Json.Tables
import ColumnChain.Json.Writing
import ColumnChain.Keyed
import ColumnChain.Ledger
import ColumnChain.Main
import ColumnChain.Number.Exact
import ColumnChain.Number.Order
import ColumnChain.Number.Reading
import ColumnChain.Number.Shortest
import ColumnChain.Number.Writing
import ColumnChain.Pattern.NamedSet
import ColumnChain.Pattern.Program
import ColumnChain.Pattern.Reading
import ColumnChain.Pattern.Search
import ColumnChain.Pattern.Size
import ColumnChain.Pattern.Syntax
import ColumnChain.Pipeline
import ColumnChain.Preview
import ColumnChain.Row
import ColumnChain.Sequencing
import ColumnChain.Service.Body
import ColumnChain.Service.Handling
import ColumnChain.Service.Route
import ColumnChain.Service.Target
import ColumnChain.Service.Workspaces
import ColumnChain.Settings
import ColumnChain.SettingsFile
import ColumnChain.Store
import ColumnChain.Text.AdditionTable
import ColumnChain.Text.Age
import ColumnChain.Text.AgeTable
import ColumnChain.Text.Blank
import ColumnChain.Text.Boundary
import ColumnChain.Text.BreakTable
import ColumnChain.Text.CaseTable
import ColumnChain.Text.Casing
import ColumnChain.Text.Category
import ColumnChain.Text.CategoryTable
import ColumnChain.Text.CharClass
import ColumnChain.Text.CharSet
import ColumnChain.Text.Cutting
import ColumnChain.Text.Encoding
import ColumnChain.Text.Mapping
import ColumnChain.Text.Property
import ColumnChain.Text.PropertyTable
import ColumnChain.Text.Ranges
import ColumnChain.Text.Script
import ColumnChain.Text.ScriptTable
import ColumnChain.Text.Table
import ColumnChain.Token
import ColumnChain.Transformation
import ColumnChain.Workers
import ColumnChain.Workspace
import ColumnChain.Proofs.Chain
import ColumnChain.Proofs.Operations
import ColumnChain.Proofs.Lawfulness
import ColumnChain.Proofs.Chaining
import ColumnChain.Proofs.Commitment
import ColumnChain.Proofs.Locality
import ColumnChain.Proofs.Derivation
import ColumnChain.Proofs.Serving
import ColumnChain.Proofs.Grammar
import ColumnChain.Proofs.Answering
import ColumnChain.Proofs.Disks
import ColumnChain.Proofs.Durability
import ColumnChain.Proofs.Processes
import ColumnChain.Proofs.Views
import ColumnChain.Proofs.Independence
import ColumnChain.Proofs.Persistence
import ColumnChain.Proofs.Chronology
import ColumnChain.Proofs.Directories
import ColumnChain.Proofs.History
import ColumnChain.Proofs.Retention
import ColumnChain.Proofs.Dispatch
import ColumnChain.Proofs.Repeatability
import ColumnChain.Proofs.Exporting
import ColumnChain.Proofs.Overflow
import ColumnChain.Proofs.Planning
import ColumnChain.Proofs.Rowwise
import ColumnChain.Proofs.Seclusion
import ColumnChain.Proofs.Acceptance
import ColumnChain.Proofs.Sharing
import ColumnChain.Proofs.Coercion
import ColumnChain.Proofs.Publishing
import ColumnChain.Proofs.Arrangement
import ColumnChain.Proofs.Deduplication
import ColumnChain.Proofs.Attachment
import ColumnChain.Proofs.Numbering
import ColumnChain.Proofs.Subjects
import ColumnChain.Proofs.WrittenDates
import ColumnChain.Proofs.Integers
import ColumnChain.Proofs.DayShifts
import ColumnChain.Proofs.Anniversaries
import ColumnChain.Proofs.Ranking
import ColumnChain.Proofs.Pieces
import ColumnChain.Proofs.Narrowing
import ColumnChain.Proofs.Agreement
import ColumnChain.Proofs.Rectangles
import ColumnChain.Proofs.Bookkeeping
import ColumnChain.Proofs.Tagging
