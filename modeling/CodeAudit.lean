import CodeAudit.Assist.Analyzer
import CodeAudit.Assist.Client
import CodeAudit.Assist.Fault
import CodeAudit.Assist.Model
import CodeAudit.Assist.Prompt
import CodeAudit.Assist.Selection
import CodeAudit.Assist.Summary
import CodeAudit.Assist.Template
import CodeAudit.Assist.Wire
import CodeAudit.Data.Decimal
import CodeAudit.Data.Json
import CodeAudit.Data.JsonText
import CodeAudit.Data.Misuse
import CodeAudit.Data.ReadError
import CodeAudit.Data.Rounding
import CodeAudit.Data.Sum
import CodeAudit.Data.Table
import CodeAudit.Data.Toml
import CodeAudit.Data.Value
import CodeAudit.Fault
import CodeAudit.Files.Glob
import CodeAudit.Files.Path
import CodeAudit.Files.Store
import CodeAudit.Format.Fault
import CodeAudit.Format.Number
import CodeAudit.Format.Spec
import CodeAudit.Format.Template
import CodeAudit.Format.Value
import CodeAudit.Lint.Config
import CodeAudit.Lint.ConfigFile
import CodeAudit.Lint.Engine
import CodeAudit.Lint.Limit
import CodeAudit.Lint.Naming
import CodeAudit.Lint.Report
import CodeAudit.Lint.Rule
import CodeAudit.Lint.Severity
import CodeAudit.Outline
import CodeAudit.Registry
import CodeAudit.Script.LineCount
import CodeAudit.Script.Outline
import CodeAudit.Script.Tree
import CodeAudit.Syntax.Docstring
import CodeAudit.Syntax.File
import CodeAudit.Syntax.Grammar.Expression
import CodeAudit.Syntax.Grammar.Pattern
import CodeAudit.Syntax.Grammar.Statement
import CodeAudit.Syntax.Lexer
import CodeAudit.Syntax.Literal
import CodeAudit.Syntax.Module
import CodeAudit.Syntax.Number
import CodeAudit.Syntax.Outline
import CodeAudit.Syntax.Parser
import CodeAudit.Syntax.Survey
import CodeAudit.Syntax.Token
import CodeAudit.Syntax.Tree
import CodeAudit.Syntax.Walk
import CodeAudit.Text.Blank
import CodeAudit.Text.Encoding
import CodeAudit.Text.Lines
import CodeAudit.Text.Occurrence
import CodeAudit.Text.Quoted
import CodeAudit.Text.Wildcard
import CodeAudit.Unicode.Case
import CodeAudit.Unicode.Decomposition
import CodeAudit.Unicode.Digit
import CodeAudit.Unicode.Identifier
import CodeAudit.Unicode.Name
import CodeAudit.Unicode.Names.Aliases
import CodeAudit.Unicode.Names.Alphabets
import CodeAudit.Unicode.Names.Ancient
import CodeAudit.Unicode.Names.EastAsia
import CodeAudit.Unicode.Names.Pictures
import CodeAudit.Unicode.Names.Symbols
import CodeAudit.Unicode.Normal
import CodeAudit.Unicode.Printable
import CodeAudit.Unicode.RangeTable
import CodeAudit.Version
import CodeAudit.Proofs.Activation
import CodeAudit.Proofs.Batch
import CodeAudit.Proofs.Config
import CodeAudit.Proofs.Coverage
import CodeAudit.Proofs.Definition
import CodeAudit.Proofs.Encoding
import CodeAudit.Proofs.Extent
import CodeAudit.Proofs.Fault
import CodeAudit.Proofs.History
import CodeAudit.Proofs.LineEnds
import CodeAudit.Proofs.Naming
import CodeAudit.Proofs.Preset
import CodeAudit.Proofs.Question
import CodeAudit.Proofs.Reachable
import CodeAudit.Proofs.Reconfiguration
import CodeAudit.Proofs.Route
import CodeAudit.Proofs.Search
import CodeAudit.Proofs.SourceText
import CodeAudit.Proofs.Survey
import CodeAudit.Proofs.Table
import CodeAudit.Proofs.TokenLines
import CodeAudit.Proofs.Verdict
import CodeAudit.Proofs.WellFormed
import CodeAudit.Proofs.TextEnd
import CodeAudit.Proofs.LineStyle
import CodeAudit.Proofs.Registration
import CodeAudit.Proofs.LetterCase
import CodeAudit.Proofs.Strictness
import CodeAudit.Proofs.Reordering
import CodeAudit.Proofs.Tally
import CodeAudit.Proofs.Ignoring
import CodeAudit.Proofs.Detection
import CodeAudit.Proofs.Precedence
import CodeAudit.Proofs.Place
import CodeAudit.Proofs.Complexity
import CodeAudit.Proofs.Listing
import CodeAudit.Proofs.LineKind
import CodeAudit.Proofs.Session
import CodeAudit.Proofs.BlockComment
import CodeAudit.Proofs.FunctionLimit
import CodeAudit.Proofs.FormalParameter
import CodeAudit.Proofs.Outcome
import CodeAudit.Proofs.Adjustment
import CodeAudit.Proofs.Concatenation
import CodeAudit.Proofs.NamePattern
import CodeAudit.Proofs.Ranking
import CodeAudit.Proofs.Template
import CodeAudit.Proofs.Wording
import CodeAudit.Proofs.Embedding
import CodeAudit.Proofs.Inquiry
import CodeAudit.Proofs.Attribution
import CodeAudit.Proofs.Stream
import CodeAudit.Proofs.Selection
import CodeAudit.Proofs.DottedName
