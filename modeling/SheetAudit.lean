import SheetAudit.Address
import SheetAudit.Audit.RuleFindings
import SheetAudit.Audit.Submission
import SheetAudit.Calendar
import SheetAudit.Cell
import SheetAudit.Condition.Token
import SheetAudit.Condition.Tree
import SheetAudit.Condition.Truth
import SheetAudit.Field
import SheetAudit.Json.Reader
import SheetAudit.Json.Value
import SheetAudit.Number.Decimal
import SheetAudit.Number.Double
import SheetAudit.Number.Reading
import SheetAudit.Number.Shortest
import SheetAudit.Pattern.Matching
import SheetAudit.Pattern.Reader
import SheetAudit.Pattern.Reading
import SheetAudit.Pattern.Tree
import SheetAudit.Pieces
import SheetAudit.Proofs.AddressTexts
import SheetAudit.Proofs.AuditStatus
import SheetAudit.Proofs.BlankSeparator
import SheetAudit.Proofs.BrokenStreams
import SheetAudit.Proofs.CellByCell
import SheetAudit.Proofs.CellSources
import SheetAudit.Proofs.CellTexts
import SheetAudit.Proofs.CleanRules
import SheetAudit.Proofs.CoercibleRows
import SheetAudit.Proofs.ColumnFindings
import SheetAudit.Proofs.ColumnNumbers
import SheetAudit.Proofs.ComparisonOrder
import SheetAudit.Proofs.ConditionComposition
import SheetAudit.Proofs.ConditionGrammar
import SheetAudit.Proofs.ConditionReading
import SheetAudit.Proofs.ConditionSpacing
import SheetAudit.Proofs.ConditionTokens
import SheetAudit.Proofs.ConditionTruth
import SheetAudit.Proofs.DoubleRounding
import SheetAudit.Proofs.EncodedTexts
import SheetAudit.Proofs.FieldArea
import SheetAudit.Proofs.FieldWindows
import SheetAudit.Proofs.FinalTables
import SheetAudit.Proofs.IntervalConditions
import SheetAudit.Proofs.LastValues
import SheetAudit.Proofs.ListVerdicts
import SheetAudit.Proofs.NearestDouble
import SheetAudit.Proofs.NumberTexts
import SheetAudit.Proofs.Numerals
import SheetAudit.Proofs.OrdinaryValues
import SheetAudit.Proofs.Outcome
import SheetAudit.Proofs.PlainTexts
import SheetAudit.Proofs.ProgressOrder
import SheetAudit.Proofs.ProgressShares
import SheetAudit.Proofs.RandomAccess
import SheetAudit.Proofs.RangeBounds
import SheetAudit.Proofs.RowLimit
import SheetAudit.Proofs.RowMajor
import SheetAudit.Proofs.RuleBlocks
import SheetAudit.Proofs.RuleFiles
import SheetAudit.Proofs.ScanFailures
import SheetAudit.Proofs.ScannerRefinement
import SheetAudit.Proofs.ScannerRegisters
import SheetAudit.Proofs.SheetCells
import SheetAudit.Proofs.SheetChunks
import SheetAudit.Proofs.ShownNumbers
import SheetAudit.Proofs.StepBound
import SheetAudit.Proofs.StreamFaults
import SheetAudit.Proofs.SummaryCounts
import SheetAudit.Proofs.TableShape
import SheetAudit.Proofs.UploadPaths
import SheetAudit.Proofs.VisibleLayout
import SheetAudit.Proofs.WholeNumbers
import SheetAudit.Proofs.WindowBound
import SheetAudit.Proofs.WrittenRules
import SheetAudit.Rectangle
import SheetAudit.Rule.Basic
import SheetAudit.Rule.Finding
import SheetAudit.Rule.Verdict
import SheetAudit.RuleText
import SheetAudit.Service.Http
import SheetAudit.Service.Lenient
import SheetAudit.Service.Reply
import SheetAudit.Service.Request
import SheetAudit.Service.Settings
import SheetAudit.Sheet.Chunk
import SheetAudit.Sheet.Csv
import SheetAudit.Sheet.Folder
import SheetAudit.Sheet.Reading
import SheetAudit.Sheet.Session
import SheetAudit.Sheet.Source
import SheetAudit.Sheet.Workbook
import SheetAudit.Table.Layout
import SheetAudit.Table.Scanner
import SheetAudit.Text.Casing
import SheetAudit.Text.Character
import SheetAudit.Text.CharacterName
import SheetAudit.Text.Quoted
import SheetAudit.Text.Utf8
