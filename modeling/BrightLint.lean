import BrightLint.Check.Call
import BrightLint.Check.Comment
import BrightLint.Check.Declaration
import BrightLint.Check.FileEncoding
import BrightLint.Check.Indentation
import BrightLint.Check.Line
import BrightLint.Check.Operator
import BrightLint.Check.Spelling
import BrightLint.CommandLine.Options
import BrightLint.CommandLine.Session
import BrightLint.Decimal
import BrightLint.Fault
import BrightLint.Grammar.Filing
import BrightLint.Grammar.Lookup
import BrightLint.Grammar.Loop
import BrightLint.Grammar.Reduction
import BrightLint.Json.Basic
import BrightLint.Json.Number
import BrightLint.Json.Reader
import BrightLint.Lexeme.Scan
import BrightLint.Main
import BrightLint.Message.Lookup
import BrightLint.Parsing.Run
import BrightLint.Pattern.Basic
import BrightLint.Project.FileTree
import BrightLint.Project.Ignore
import BrightLint.Project.Path
import BrightLint.Proofs.Acceptance
import BrightLint.Proofs.ArithmeticChains
import BrightLint.Proofs.BenchSoundness
import BrightLint.Proofs.BenchTrace
import BrightLint.Proofs.BlockLevels
import BrightLint.Proofs.ColonSeparator
import BrightLint.Proofs.CommaRepair
import BrightLint.Proofs.CommentMarks
import BrightLint.Proofs.DeclarationLines
import BrightLint.Proofs.Derivation
import BrightLint.Proofs.DirectiveComments
import BrightLint.Proofs.EmptyLines
import BrightLint.Proofs.ExactSplices
import BrightLint.Proofs.FinalNewline
import BrightLint.Proofs.History
import BrightLint.Proofs.IdentifierWords
import BrightLint.Proofs.IgnoredFolders
import BrightLint.Proofs.Ledger
import BrightLint.Proofs.LineByLine
import BrightLint.Proofs.LineComposition
import BrightLint.Proofs.LineEndChecks
import BrightLint.Proofs.LineReports
import BrightLint.Proofs.LookingBack
import BrightLint.Proofs.NestedCalls
import BrightLint.Proofs.NestedIndentation
import BrightLint.Proofs.Nesting
import BrightLint.Proofs.OperatorSpacing
import BrightLint.Proofs.Outline
import BrightLint.Proofs.ParsingAgreement
import BrightLint.Proofs.ParsingOutcome
import BrightLint.Proofs.PatternGrowth
import BrightLint.Proofs.PatternMatches
import BrightLint.Proofs.Places
import BrightLint.Proofs.ProblemLines
import BrightLint.Proofs.ProgramEnd
import BrightLint.Proofs.ProgramLoop
import BrightLint.Proofs.ReadingOutcome
import BrightLint.Proofs.ReadingPlace
import BrightLint.Proofs.ReadingTokens
import BrightLint.Proofs.ReducerLoop
import BrightLint.Proofs.ReductionSteps
import BrightLint.Proofs.RegexMatches
import BrightLint.Proofs.ScanBreaks
import BrightLint.Proofs.ScanLines
import BrightLint.Proofs.ScanRounds
import BrightLint.Proofs.SettingsIndependence
import BrightLint.Proofs.SettingsMerge
import BrightLint.Proofs.SkippedLines
import BrightLint.Proofs.SkippedTraces
import BrightLint.Proofs.StandardReading
import BrightLint.Proofs.StatementEnds
import BrightLint.Proofs.StructuredProgram
import BrightLint.Proofs.StuckStatement
import BrightLint.Proofs.StyleFaults
import BrightLint.Proofs.Summary
import BrightLint.Proofs.Suppression
import BrightLint.Proofs.Traversal
import BrightLint.Proofs.WholeRun
import BrightLint.Proofs.WordLexemes
import BrightLint.Quantity
import BrightLint.Reading.Run
import BrightLint.Regex.Basic
import BrightLint.Regex.Escape
import BrightLint.Regex.Mode
import BrightLint.Regex.Progress
import BrightLint.Regex.Reader
import BrightLint.Report
import BrightLint.Settings.Merge
import BrightLint.Settings.Standard
import BrightLint.Spinner
import BrightLint.Symbol
import BrightLint.Text.Blank
import BrightLint.Text.Case
import BrightLint.Text.Encoding
import BrightLint.Text.Fold
import BrightLint.Text.Lines
import BrightLint.Text.Point
import BrightLint.Text.Ranges
import BrightLint.Text.Span
import BrightLint.Text.Visible
import BrightLint.Text.Word
import BrightLint.Token
