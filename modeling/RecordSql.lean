import RecordSql.Catalog.Basic
import RecordSql.Catalog.Draft
import RecordSql.Catalog.Offer
import RecordSql.CommandLine.Execute
import RecordSql.CommandLine.Flags
import RecordSql.Document.Catalogs
import RecordSql.Document.Decode
import RecordSql.Document.Double
import RecordSql.Document.Numeral
import RecordSql.Document.Options
import RecordSql.Document.Printer
import RecordSql.Document.Reader
import RecordSql.Document.Records
import RecordSql.Document.Tables
import RecordSql.Document.Token
import RecordSql.Document.Value
import RecordSql.English.Irregular
import RecordSql.English.Number
import RecordSql.English.Pattern
import RecordSql.English.Rule
import RecordSql.Files.Disk
import RecordSql.Files.Path
import RecordSql.Generate
import RecordSql.Identifier
import RecordSql.Letter.Age
import RecordSql.Letter.Alphabetic
import RecordSql.Letter.Basic
import RecordSql.Letter.Cased
import RecordSql.Letter.Mapping
import RecordSql.Letter.Run
import RecordSql.Letter.WordMark
import RecordSql.Main
import RecordSql.Proofs.Accounts
import RecordSql.Proofs.Actions
import RecordSql.Proofs.Appending
import RecordSql.Proofs.BaseStatements
import RecordSql.Proofs.Breaks
import RecordSql.Proofs.Builder
import RecordSql.Proofs.Camel
import RecordSql.Proofs.Changes
import RecordSql.Proofs.ColumnNames
import RecordSql.Proofs.Columns
import RecordSql.Proofs.Comparisons
import RecordSql.Proofs.Conditions
import RecordSql.Proofs.Denotations
import RecordSql.Proofs.Dialects
import RecordSql.Proofs.Draft
import RecordSql.Proofs.Entities
import RecordSql.Proofs.Entries
import RecordSql.Proofs.ForeignGroups
import RecordSql.Proofs.ForeignKeys
import RecordSql.Proofs.ForeignTags
import RecordSql.Proofs.Forms
import RecordSql.Proofs.GeneratedColumns
import RecordSql.Proofs.Grammar
import RecordSql.Proofs.Histories
import RecordSql.Proofs.IndexColumns
import RecordSql.Proofs.IndexTags
import RecordSql.Proofs.Indexes
import RecordSql.Proofs.LabelCharacters
import RecordSql.Proofs.Labels
import RecordSql.Proofs.Layout
import RecordSql.Proofs.Lines
import RecordSql.Proofs.Links
import RecordSql.Proofs.Nesting
import RecordSql.Proofs.Numerals
import RecordSql.Proofs.Offers
import RecordSql.Proofs.Openings
import RecordSql.Proofs.Placeholders
import RecordSql.Proofs.Places
import RecordSql.Proofs.PlainNames
import RecordSql.Proofs.PrimaryKey
import RecordSql.Proofs.Printing
import RecordSql.Proofs.Pushes
import RecordSql.Proofs.Reading
import RecordSql.Proofs.References
import RecordSql.Proofs.Registry
import RecordSql.Proofs.Retagging
import RecordSql.Proofs.RoundTrip
import RecordSql.Proofs.Runs
import RecordSql.Proofs.Scanning
import RecordSql.Proofs.Schema
import RecordSql.Proofs.Script
import RecordSql.Proofs.Shapes
import RecordSql.Proofs.SharedLabels
import RecordSql.Proofs.Skipping
import RecordSql.Proofs.SnakeCase
import RecordSql.Proofs.StatementLabels
import RecordSql.Proofs.Structures
import RecordSql.Proofs.TagRoundTrip
import RecordSql.Proofs.Tags
import RecordSql.Proofs.TargetColumns
import RecordSql.Proofs.Traces
import RecordSql.Proofs.Transcript
import RecordSql.Proofs.Trimming
import RecordSql.Proofs.Validation
import RecordSql.Proofs.Walks
import RecordSql.Proofs.Words
import RecordSql.Proofs.Writes
import RecordSql.Record.Kind
import RecordSql.Record.Nested
import RecordSql.Record.Tags
import RecordSql.Record.Tree
import RecordSql.Sql.Dialect
import RecordSql.Sql.Render
import RecordSql.Table.Basic
import RecordSql.Table.Builder
import RecordSql.Table.Issue
import RecordSql.Table.Leaf
import RecordSql.Table.Load
import RecordSql.Table.Options
import RecordSql.Table.Registry
import RecordSql.Table.SqlType
import RecordSql.Tag.Entry
import RecordSql.Tag.Operator
import RecordSql.Tag.Printer
import RecordSql.Text.Blank
import RecordSql.Text.Case
import RecordSql.Text.Split
import RecordSql.Text.Words
