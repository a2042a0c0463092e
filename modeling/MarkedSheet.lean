import MarkedSheet.CommandLine.Arguments
import MarkedSheet.CommandLine.Command
import MarkedSheet.Conversion.Discovery
import MarkedSheet.Conversion.Failure
import MarkedSheet.Conversion.Logged
import MarkedSheet.Conversion.Output
import MarkedSheet.Conversion.Progress
import MarkedSheet.Conversion.Run
import MarkedSheet.Csv.Reader
import MarkedSheet.Csv.Writer
import MarkedSheet.Emission.Block
import MarkedSheet.Emission.Forest
import MarkedSheet.Emission.Page
import MarkedSheet.Emission.Pairs
import MarkedSheet.Emission.Reported
import MarkedSheet.Files.Path
import MarkedSheet.Files.Tree
import MarkedSheet.Files.Walk
import MarkedSheet.Header.Bracket
import MarkedSheet.Header.Kind
import MarkedSheet.Header.Outline
import MarkedSheet.Header.Schema
import MarkedSheet.KeyValues.Collapse
import MarkedSheet.KeyValues.Document
import MarkedSheet.KeyValues.Line
import MarkedSheet.KeyValues.Node
import MarkedSheet.KeyValues.Quote
import MarkedSheet.KeyValues.Value
import MarkedSheet.Localization.Entry
import MarkedSheet.Localization.Harvest
import MarkedSheet.Localization.Table
import MarkedSheet.Localization.Template
import MarkedSheet.Main
import MarkedSheet.Mapping
import MarkedSheet.Number.Double
import MarkedSheet.Number.Integer
import MarkedSheet.Number.Numeral
import MarkedSheet.Number.Rounding
import MarkedSheet.Number.Shortest
import MarkedSheet.Options.Basic
import MarkedSheet.Options.File
import MarkedSheet.Options.Json
import MarkedSheet.Options.Settings
import MarkedSheet.Options.Value
import MarkedSheet.Pattern.Basic
import MarkedSheet.Pattern.Fault
import MarkedSheet.Pattern.Reader
import MarkedSheet.Pinyin.Dictionary
import MarkedSheet.Pinyin.Lexicon
import MarkedSheet.Pinyin.Table
import MarkedSheet.Pinyin.Tone
import MarkedSheet.Pinyin.Transliterator
import MarkedSheet.Proofs.CommandLine.ExitCode
import MarkedSheet.Proofs.CommandLine.Given
import MarkedSheet.Proofs.Conversion.Causes
import MarkedSheet.Proofs.Conversion.FastPath
import MarkedSheet.Proofs.Conversion.Faults
import MarkedSheet.Proofs.Conversion.Latin
import MarkedSheet.Proofs.Conversion.Plan
import MarkedSheet.Proofs.Conversion.Sequence
import MarkedSheet.Proofs.Conversion.Sheets
import MarkedSheet.Proofs.Conversion.Steps
import MarkedSheet.Proofs.Conversion.TableAgain
import MarkedSheet.Proofs.Conversion.TableFile
import MarkedSheet.Proofs.Conversion.Total
import MarkedSheet.Proofs.Conversion.Untouched
import MarkedSheet.Proofs.Conversion.Visited
import MarkedSheet.Proofs.Conversion.WholeRun
import MarkedSheet.Proofs.Csv.RoundTrip
import MarkedSheet.Proofs.Emission.Accounting
import MarkedSheet.Proofs.Emission.Closing
import MarkedSheet.Proofs.Emission.Forests
import MarkedSheet.Proofs.Emission.Gives
import MarkedSheet.Proofs.Emission.Independence
import MarkedSheet.Proofs.Emission.Lines
import MarkedSheet.Proofs.Emission.Narrow
import MarkedSheet.Proofs.Emission.Notes
import MarkedSheet.Proofs.Emission.Objects
import MarkedSheet.Proofs.Emission.Pruned
import MarkedSheet.Proofs.Emission.ReadBack
import MarkedSheet.Proofs.Emission.Rendering
import MarkedSheet.Proofs.Emission.WellNested
import MarkedSheet.Proofs.Header.Balanced
import MarkedSheet.Proofs.Header.Containers
import MarkedSheet.Proofs.Header.Layout
import MarkedSheet.Proofs.KeyValues.Collapsing
import MarkedSheet.Proofs.KeyValues.Deletion
import MarkedSheet.Proofs.KeyValues.FourPlaces
import MarkedSheet.Proofs.KeyValues.Lines
import MarkedSheet.Proofs.KeyValues.Nesting
import MarkedSheet.Proofs.KeyValues.Normalized
import MarkedSheet.Proofs.KeyValues.Reader
import MarkedSheet.Proofs.KeyValues.Reading
import MarkedSheet.Proofs.KeyValues.Rewriting
import MarkedSheet.Proofs.Localization.Again
import MarkedSheet.Proofs.Localization.Grid
import MarkedSheet.Proofs.Localization.Harvested
import MarkedSheet.Proofs.Localization.Merging
import MarkedSheet.Proofs.Localization.Objects
import MarkedSheet.Proofs.Localization.SingleKeys
import MarkedSheet.Proofs.Number.Nearest
import MarkedSheet.Proofs.Number.Reading
import MarkedSheet.Proofs.Number.Shortest
import MarkedSheet.Proofs.Number.Spacing
import MarkedSheet.Proofs.Options.Declared
import MarkedSheet.Proofs.Options.Resolved
import MarkedSheet.Proofs.Pattern.Rounds
import MarkedSheet.Proofs.Pinyin.Added
import MarkedSheet.Proofs.Pinyin.AliasOrder
import MarkedSheet.Proofs.Pinyin.Dictionary
import MarkedSheet.Proofs.Pinyin.Local
import MarkedSheet.Proofs.Pinyin.Parted
import MarkedSheet.Proofs.Sheet.Carried
import MarkedSheet.Proofs.Sheet.Coarsest
import MarkedSheet.Proofs.Text.Between
import MarkedSheet.Proofs.Text.Exchanges
import MarkedSheet.Proofs.Workbook.Records
import MarkedSheet.Sheet.Cell
import MarkedSheet.Sheet.RowGroup
import MarkedSheet.Text.Alphanumeric
import MarkedSheet.Text.Basic
import MarkedSheet.Text.Blank
import MarkedSheet.Text.Case
import MarkedSheet.Text.Digit
import MarkedSheet.Text.Encoding
import MarkedSheet.Text.Identifier
import MarkedSheet.Text.Literal
import MarkedSheet.Text.Position
import MarkedSheet.Text.Printable
import MarkedSheet.Warning
import MarkedSheet.Workbook.Name
import MarkedSheet.Workbook.Reader
import MarkedSheet.Workbook.Sheet
import MarkedSheet.Workbook.Value
