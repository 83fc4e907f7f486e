import SchemaPress.CommandLine.Arguments
import SchemaPress.CommandLine.Command
import SchemaPress.CommandLine.FileKind
import SchemaPress.CommandLine.Help
import SchemaPress.CommandLine.Run
import SchemaPress.Decimal.FloatText
import SchemaPress.Decimal.Reading
import SchemaPress.Decimal.Shortest
import SchemaPress.Document.Complaint
import SchemaPress.Document.Shape
import SchemaPress.Document.Source
import SchemaPress.Drizzle.Builder
import SchemaPress.Drizzle.Module
import SchemaPress.Export
import SchemaPress.Files.Basic
import SchemaPress.Files.Path
import SchemaPress.Files.Tree
import SchemaPress.Format
import SchemaPress.Json.Fault
import SchemaPress.Json.Node
import SchemaPress.Json.Numeral
import SchemaPress.Json.Printer
import SchemaPress.Json.Quotation
import SchemaPress.Json.Reading
import SchemaPress.Json.Token
import SchemaPress.Json.Value
import SchemaPress.Loading
import SchemaPress.Log
import SchemaPress.Main
import SchemaPress.Naming
import SchemaPress.Prisma.Field
import SchemaPress.Prisma.File
import SchemaPress.Proofs.ColumnConstraints
import SchemaPress.Proofs.CommandLine.Asking
import SchemaPress.Proofs.CommandLine.Drafting
import SchemaPress.Proofs.CommandLine.Ending
import SchemaPress.Proofs.CommandLine.ExportLines
import SchemaPress.Proofs.CommandLine.Exporting
import SchemaPress.Proofs.CommandLine.Failing
import SchemaPress.Proofs.CommandLine.Initializing
import SchemaPress.Proofs.CommandLine.Notices
import SchemaPress.Proofs.CommandLine.Rearranging
import SchemaPress.Proofs.CommandLine.Repeating
import SchemaPress.Proofs.CommandLine.Reporting
import SchemaPress.Proofs.CommandLine.Spelling
import SchemaPress.Proofs.Drizzle.Calls
import SchemaPress.Proofs.Drizzle.Literals
import SchemaPress.Proofs.ExportEquality
import SchemaPress.Proofs.ExportTotality
import SchemaPress.Proofs.Files.Beside
import SchemaPress.Proofs.Files.Following
import SchemaPress.Proofs.Files.Passing
import SchemaPress.Proofs.Files.Paths
import SchemaPress.Proofs.Files.Repeating
import SchemaPress.Proofs.Files.Touching
import SchemaPress.Proofs.Files.Writing
import SchemaPress.Proofs.FormatNames
import SchemaPress.Proofs.Json.DocumentOfLayout
import SchemaPress.Proofs.Json.LeafScan
import SchemaPress.Proofs.Json.PlainReading
import SchemaPress.Proofs.Json.PrettyLines
import SchemaPress.Proofs.Json.Printing
import SchemaPress.Proofs.Json.ReadingPrinted
import SchemaPress.Proofs.Json.RecordGaps
import SchemaPress.Proofs.Json.RecordLaws
import SchemaPress.Proofs.Json.Rows
import SchemaPress.Proofs.Json.Written
import SchemaPress.Proofs.LineCounts
import SchemaPress.Proofs.Loading
import SchemaPress.Proofs.NameSegments
import SchemaPress.Proofs.Naming
import SchemaPress.Proofs.PlacedParameters
import SchemaPress.Proofs.Prisma.Attributes
import SchemaPress.Proofs.Prisma.Existence
import SchemaPress.Proofs.Prisma.FieldText
import SchemaPress.Proofs.Prisma.ModelNames
import SchemaPress.Proofs.Prisma.TimestampMarkers
import SchemaPress.Proofs.QuotedTexts
import SchemaPress.Proofs.RolesByName
import SchemaPress.Proofs.Schema.Arrangements
import SchemaPress.Proofs.Schema.Codec
import SchemaPress.Proofs.Schema.Edits
import SchemaPress.Proofs.Schema.Equality
import SchemaPress.Proofs.Schema.ParameterGrammar
import SchemaPress.Proofs.Schema.Parts
import SchemaPress.Proofs.Schema.Rows
import SchemaPress.Proofs.Schema.TakingRoles
import SchemaPress.Proofs.Settings.Gaps
import SchemaPress.Proofs.Settings.Records
import SchemaPress.Proofs.Sql.ConstraintNames
import SchemaPress.Proofs.Sql.Identifiers
import SchemaPress.Proofs.Sql.Remarks
import SchemaPress.Proofs.Sql.ScriptOrder
import SchemaPress.Proofs.Sql.Statements
import SchemaPress.Proofs.Sql.UniqueReading
import SchemaPress.Proofs.TableBlocks
import SchemaPress.Proofs.Text.Cutting
import SchemaPress.Proofs.Text.Doubled
import SchemaPress.Proofs.Text.Escaped
import SchemaPress.Proofs.Text.Joining
import SchemaPress.Proofs.Text.LineFeeds
import SchemaPress.Proofs.Text.Trimming
import SchemaPress.Proofs.Text.Uppercase
import SchemaPress.Proofs.TypeSpellings
import SchemaPress.Schema.Basic
import SchemaPress.Schema.Canonical
import SchemaPress.Schema.Cardinality
import SchemaPress.Schema.Column
import SchemaPress.Schema.Index
import SchemaPress.Schema.Reading
import SchemaPress.Schema.ReferenceAction
import SchemaPress.Schema.Relationship
import SchemaPress.Schema.Table
import SchemaPress.Schema.TimestampRole
import SchemaPress.Schema.TypeTag
import SchemaPress.Schema.Yaml
import SchemaPress.Settings.Basic
import SchemaPress.Settings.Json
import SchemaPress.Settings.Reading
import SchemaPress.Sql.Dialect
import SchemaPress.Sql.Script
import SchemaPress.Text.Blank
import SchemaPress.Text.DecimalDigit
import SchemaPress.Text.Join
import SchemaPress.Text.Place
import SchemaPress.Text.Quoted
import SchemaPress.Text.Uppercase
import SchemaPress.Text.Visible
import SchemaPress.Yaml.BlockScalar
import SchemaPress.Yaml.Directive
import SchemaPress.Yaml.Fault
import SchemaPress.Yaml.Gap
import SchemaPress.Yaml.Mark
import SchemaPress.Yaml.Node
import SchemaPress.Yaml.PlainScalar
import SchemaPress.Yaml.QuotedScalar
import SchemaPress.Yaml.Reading
import SchemaPress.Yaml.Resolution
import SchemaPress.Yaml.Tag
import SchemaPress.Yaml.Token
