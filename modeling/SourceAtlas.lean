import SourceAtlas.Bytes
import SourceAtlas.Collection
import SourceAtlas.CommandLine
import SourceAtlas.CommandLine.Argument
import SourceAtlas.CommandLine.Help
import SourceAtlas.CommandLine.Misuse
import SourceAtlas.CommandLine.Settings
import SourceAtlas.Directory
import SourceAtlas.Documentation
import SourceAtlas.FileSystem.Access
import SourceAtlas.FileSystem.Archive
import SourceAtlas.FileSystem.Entry
import SourceAtlas.FileSystem.Fault
import SourceAtlas.FileSystem.Resolution
import SourceAtlas.Json.Fault
import SourceAtlas.Json.Float
import SourceAtlas.Json.Reading
import SourceAtlas.Json.Writing
import SourceAtlas.Keyed
import SourceAtlas.Log
import SourceAtlas.Log.Filter
import SourceAtlas.Main
import SourceAtlas.Options
import SourceAtlas.Outline
import SourceAtlas.Path
import SourceAtlas.Pattern.Building
import SourceAtlas.Pattern.Class
import SourceAtlas.Pattern.Expression
import SourceAtlas.Pattern.Fault
import SourceAtlas.Pattern.Matching
import SourceAtlas.Pattern.Meaning
import SourceAtlas.Pattern.Reading
import SourceAtlas.PatternReader
import SourceAtlas.Problem
import SourceAtlas.Proofs.Directory
import SourceAtlas.Proofs.Entry
import SourceAtlas.Proofs.Keyed
import SourceAtlas.Proofs.Resolution
import SourceAtlas.Proofs.Utf8
import SourceAtlas.Python.Automaton
import SourceAtlas.Python.Automaton.Rows0
import SourceAtlas.Python.Automaton.Rows1
import SourceAtlas.Python.Automaton.Rows2
import SourceAtlas.Python.Automaton.Rows3
import SourceAtlas.Python.Automaton.Rules
import SourceAtlas.Python.Import
import SourceAtlas.Python.Layout
import SourceAtlas.Python.Lexis
import SourceAtlas.Python.Reading
import SourceAtlas.Python.Symbol
import SourceAtlas.Registry
import SourceAtlas.Report
import SourceAtlas.Report.Reading
import SourceAtlas.Report.Writing
import SourceAtlas.Scan
import SourceAtlas.Survey
import SourceAtlas.Syntax.Language
import SourceAtlas.Syntax.Node
import SourceAtlas.Syntax.Parser
import SourceAtlas.Syntax.Recovery
import SourceAtlas.Syntax.Source
import SourceAtlas.Syntax.Stack
import SourceAtlas.Syntax.Tree
import SourceAtlas.Text
import SourceAtlas.Text.Quoted
import SourceAtlas.Text.Similarity
import SourceAtlas.Unicode.CaseVariants
import SourceAtlas.Unicode.Category
import SourceAtlas.Unicode.Extender
import SourceAtlas.Unicode.Identifier
import SourceAtlas.Unicode.Letter
import SourceAtlas.Unicode.LetterCase
import SourceAtlas.Unicode.Lowercase
import SourceAtlas.Unicode.Script
import SourceAtlas.Unicode.Spans
import SourceAtlas.Unicode.Word
import SourceAtlas.Walk
import SourceAtlas.Proofs.Listing
import SourceAtlas.Proofs.Outcome
import SourceAtlas.Proofs.Walk
import SourceAtlas.Proofs.Scan
import SourceAtlas.Proofs.JsonReading
import SourceAtlas.Proofs.JsonLayout
import SourceAtlas.Proofs.ReportRoundTrip
import SourceAtlas.Proofs.Collection
import SourceAtlas.Proofs.Survey
import SourceAtlas.Proofs.Skeleton
import SourceAtlas.Proofs.Isolation
import SourceAtlas.Proofs.Ledger
import SourceAtlas.Proofs.ScannedNames
import SourceAtlas.Proofs.Writing
import SourceAtlas.Proofs.Rerun
import SourceAtlas.Proofs.Rearrangement
import SourceAtlas.Proofs.Exploration
import SourceAtlas.Proofs.Cycles
import SourceAtlas.Proofs.AcceptedReports
import SourceAtlas.Proofs.GatheringOrder
import SourceAtlas.Proofs.Tally
import SourceAtlas.Proofs.Excerpts
import SourceAtlas.Proofs.Preorder
import SourceAtlas.Proofs.Levels
import SourceAtlas.Proofs.Offenders
import SourceAtlas.Proofs.Scanner
import SourceAtlas.Proofs.NameScan
import SourceAtlas.Proofs.ImportScan
import SourceAtlas.Proofs.MethodScan
import SourceAtlas.Proofs.ImportLines
import SourceAtlas.Proofs.Inventory
import SourceAtlas.Proofs.SizeLimit
import SourceAtlas.Proofs.ImportText
import SourceAtlas.Proofs.ImportContent
import SourceAtlas.Proofs.Derivation
import SourceAtlas.Proofs.Climbing
import SourceAtlas.Proofs.RegularStack
import SourceAtlas.Proofs.StackPaths
import SourceAtlas.Proofs.ParserSteps
import SourceAtlas.Proofs.RecoverySteps
import SourceAtlas.Proofs.ParserRuns
import SourceAtlas.Proofs.PythonTables
import SourceAtlas.Proofs.PythonTokens
import SourceAtlas.Proofs.TreeParts
import SourceAtlas.Proofs.TreeNodes
import SourceAtlas.Proofs.ErrorPlaces
import SourceAtlas.Proofs.PythonRules
import SourceAtlas.Proofs.ImportNodes
import SourceAtlas.Proofs.OutlineNames
import SourceAtlas.Proofs.ImportNormalForm
import SourceAtlas.Proofs.LossyReading
import SourceAtlas.Proofs.Dispatch
import SourceAtlas.Proofs.DocumentationNames
import SourceAtlas.Proofs.Invocation
