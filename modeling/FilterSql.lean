import FilterSql.Binding
import FilterSql.Calendar.Date
import FilterSql.Calendar.Reader
import FilterSql.Calendar.Reckoning
import FilterSql.Calendar.RelativeDate
import FilterSql.Calendar.Timestamp
import FilterSql.Catalog
import FilterSql.CommandLine.Address
import FilterSql.CommandLine.Files
import FilterSql.CommandLine.Flag
import FilterSql.CommandLine.Manual
import FilterSql.CommandLine.Request
import FilterSql.CommandLine.Run
import FilterSql.Compiler
import FilterSql.Condition
import FilterSql.Decimal.Binary
import FilterSql.Decimal.Grouping
import FilterSql.Decimal.Reader
import FilterSql.Decimal.Shortest
import FilterSql.Decimal.Style
import FilterSql.Decimal.Truncate
import FilterSql.Error
import FilterSql.Filter.Basic
import FilterSql.Filter.Connective
import FilterSql.Filter.Decode
import FilterSql.Filter.Path
import FilterSql.Filter.Printer
import FilterSql.Filter.Reader
import FilterSql.Identifier
import FilterSql.Json.Basic
import FilterSql.Json.Dialect
import FilterSql.Json.Error
import FilterSql.Json.Number
import FilterSql.Json.Outline
import FilterSql.Json.Printer
import FilterSql.Json.Reader
import FilterSql.Main
import FilterSql.Operator
import FilterSql.OperatorTable
import FilterSql.Override
import FilterSql.Proofs.Binding
import FilterSql.Proofs.Calendar.Dates
import FilterSql.Proofs.Calendar.Grammar
import FilterSql.Proofs.Calendar.Moments
import FilterSql.Proofs.Calendar.Months
import FilterSql.Proofs.Calendar.Ranges
import FilterSql.Proofs.Calendar.ReadBack
import FilterSql.Proofs.Calendar.Reading
import FilterSql.Proofs.Calendar.Reckoning
import FilterSql.Proofs.Calendar.Weeks
import FilterSql.Proofs.Calendar.Words
import FilterSql.Proofs.Condition.Builders
import FilterSql.Proofs.Condition.Built
import FilterSql.Proofs.Condition.Opposites
import FilterSql.Proofs.Condition.Ranges
import FilterSql.Proofs.Condition.Searching
import FilterSql.Proofs.Condition.Shape
import FilterSql.Proofs.Condition.Soundness
import FilterSql.Proofs.Condition.Writing
import FilterSql.Proofs.Decimal.Grouping
import FilterSql.Proofs.Decimal.Reader
import FilterSql.Proofs.Decimal.Written
import FilterSql.Proofs.Filter.ReadBack
import FilterSql.Proofs.Identifier
import FilterSql.Proofs.Json.Number
import FilterSql.Proofs.Json.Quoted
import FilterSql.Proofs.Json.ReadBack
import FilterSql.Proofs.Layout.Basic
import FilterSql.Proofs.Layout.Parameters
import FilterSql.Proofs.Layout.Parentheses
import FilterSql.Proofs.Logic.Formula
import FilterSql.Proofs.Logic.Truth
import FilterSql.Proofs.Noninterference
import FilterSql.Proofs.Operator.Names
import FilterSql.Proofs.Operator.Table
import FilterSql.Proofs.Outcome
import FilterSql.Proofs.Override.Frame
import FilterSql.Proofs.Override.Registry
import FilterSql.Proofs.Pattern.Basic
import FilterSql.Proofs.Pattern.Reader
import FilterSql.Proofs.Pattern.Strides
import FilterSql.Proofs.Pattern.Wildcard
import FilterSql.Proofs.Pattern.WordCount
import FilterSql.Proofs.Placeholders
import FilterSql.Proofs.Resolution.Agreement
import FilterSql.Proofs.Resolution.Basic
import FilterSql.Proofs.Resolution.CatalogOrder
import FilterSql.Proofs.Resolution.Extension
import FilterSql.Proofs.Resolution.FirstFailure
import FilterSql.Proofs.Resolution.Lookup
import FilterSql.Proofs.Resolution.Mapping
import FilterSql.Proofs.Resolution.Places
import FilterSql.Proofs.Resolution.Wrapping
import FilterSql.Proofs.Sql.Arrangement
import FilterSql.Proofs.Sql.Escape
import FilterSql.Proofs.Sql.Fragment
import FilterSql.Proofs.Sql.Nesting
import FilterSql.Proofs.Sql.Program
import FilterSql.Proofs.Sql.Selection
import FilterSql.Proofs.Sql.Splice
import FilterSql.Proofs.Sql.Template
import FilterSql.Proofs.Sql.Token
import FilterSql.Proofs.Sql.Veil
import FilterSql.Proofs.Text.Blank
import FilterSql.Proofs.Text.Digits
import FilterSql.Proofs.Value.Collections
import FilterSql.Proofs.Value.Fits
import FilterSql.Proofs.Value.Forms
import FilterSql.Record
import FilterSql.Resolved
import FilterSql.Settings
import FilterSql.Sql.Builder
import FilterSql.Sql.Fragment
import FilterSql.Sql.Param
import FilterSql.Sql.Template
import FilterSql.Summary
import FilterSql.Text.Blank
import FilterSql.Text.Case
import FilterSql.Text.Combining
import FilterSql.Text.Digits
import FilterSql.Text.Excerpt
import FilterSql.Text.Quoted
import FilterSql.Text.Replace
import FilterSql.Text.Terminal
import FilterSql.Text.Unprintable
import FilterSql.Toml.Dialect
import FilterSql.Toml.Error
import FilterSql.Toml.Fault
import FilterSql.Toml.Line
import FilterSql.Toml.Number
import FilterSql.Toml.Quoted
import FilterSql.Toml.Reader
import FilterSql.Toml.Tree
import FilterSql.Value.Basic
import FilterSql.Value.Canonical
import FilterSql.Value.Problem
import FilterSql.Value.Reader
import FilterSql.ValueType
