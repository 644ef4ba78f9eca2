import Workings.Backlog
import Workings.Bindings
import Workings.Cache
import Workings.Cache.Session
import Workings.Cache.Statistics
import Workings.Calculator
import Workings.Calculator.Session
import Workings.Calculus.Differentiation
import Workings.Calculus.Guarded
import Workings.Calculus.Integration
import Workings.Calculus.Shape
import Workings.Calculus.Split
import Workings.Crash
import Workings.Evaluation
import Workings.Evaluation.Application
import Workings.Evaluation.Arithmetic
import Workings.Evaluation.Simpson
import Workings.EvaluationKey
import Workings.Expr
import Workings.Expr.Guarded
import Workings.Expr.Literal
import Workings.Expr.Reader
import Workings.Expr.Walk
import Workings.Fault
import Workings.Formula
import Workings.Formula.Catalog
import Workings.Formula.Detection
import Workings.Formula.Rewriting
import Workings.Formula.Standard
import Workings.Function
import Workings.Guarded
import Workings.Logs
import Workings.Number.Binary64
import Workings.Number.Layout
import Workings.Number.Reading
import Workings.Number.Shortest
import Workings.Obstacle
import Workings.Operator
import Workings.Overflow
import Workings.Pattern
import Workings.Pattern.Bracket
import Workings.Pattern.CharClass
import Workings.Pattern.Count
import Workings.Pattern.Cursor
import Workings.Pattern.Engine
import Workings.Pattern.Escape
import Workings.Pattern.Opening
import Workings.Pattern.Program
import Workings.Pattern.Reader
import Workings.Pattern.Search
import Workings.Pattern.Size
import Workings.Pattern.Standard
import Workings.Ranking
import Workings.Settings
import Workings.Span
import Workings.Span.Slice
import Workings.Step
import Workings.Supervisor
import Workings.Text.Age
import Workings.Text.Alphabetic
import Workings.Text.Blank
import Workings.Text.ByteSpan
import Workings.Text.CaseChange
import Workings.Text.CaseFamily
import Workings.Text.CaseFolding
import Workings.Text.CaseIgnorable
import Workings.Text.Cased
import Workings.Text.Category
import Workings.Text.CategorySet
import Workings.Text.CharSet
import Workings.Text.DecimalDigit
import Workings.Text.Diacritic
import Workings.Text.EditDistance
import Workings.Text.Emoji
import Workings.Text.GraphemeExtend
import Workings.Text.Identifier
import Workings.Text.Ideograph
import Workings.Text.Invisible
import Workings.Text.LowerCase
import Workings.Text.Mathematical
import Workings.Text.Newest
import Workings.Text.Occurrence
import Workings.Text.Printable
import Workings.Text.Property
import Workings.Text.PropertyName
import Workings.Text.Punctuation
import Workings.Text.Quoted
import Workings.Text.RangeTable
import Workings.Text.Script
import Workings.Text.ScriptExtensions
import Workings.Text.ScriptName
import Workings.Text.Segmentation
import Workings.Text.StepTable
import Workings.Token
import Workings.Token.Guarded
import Workings.Token.Lexer
import Workings.Value
import Workings.Worksheet
import Workings.Proofs.Number.Interval
import Workings.Proofs.Number.Decoding
import Workings.Proofs.Number.Writing
import Workings.Proofs.Number.Rounding
import Workings.Proofs.Number.Arithmetic
import Workings.Proofs.Number.Reading
import Workings.Proofs.Number.Whole
import Workings.Proofs.Text.Quoted
import Workings.Proofs.Ranking
import Workings.Proofs.Backlog
import Workings.Proofs.EvaluationKey
import Workings.Proofs.Evaluation.Agreement
import Workings.Proofs.Evaluation.Course
import Workings.Proofs.Evaluation.Trace
import Workings.Proofs.Evaluation.Survival
import Workings.Proofs.Evaluation.Ceiling
import Workings.Proofs.Cache.Entries
import Workings.Proofs.Cache.Recency
import Workings.Proofs.Cache.Inclusion
import Workings.Proofs.Cache.Accounting
import Workings.Proofs.Calculator.Memory
import Workings.Proofs.Calculator.Transparency
import Workings.Proofs.Calculator.Reach
import Workings.Proofs.Calculator.Consistency
import Workings.Proofs.Calculator.Deferral
import Workings.Proofs.Calculator.Refusal
import Workings.Proofs.Formula.Normalization
import Workings.Proofs.Formula.Detection
import Workings.Proofs.Formula.Rewriting
import Workings.Proofs.Calculator.Supervision
import Workings.Proofs.Expr.FreeNames
import Workings.Proofs.Evaluation.FreeNames
import Workings.Proofs.Calculator.FreeNames
import Workings.Proofs.Expr.Grammar
import Workings.Proofs.Expr.Soundness
import Workings.Proofs.Expr.Completeness
import Workings.Proofs.Token.Scanning
import Workings.Proofs.Expr.Exactness
import Workings.Proofs.Token.Writing
import Workings.Proofs.Token.Splitting
import Workings.Proofs.Expr.Readable
import Workings.Proofs.Expr.RoundTrip
import Workings.Proofs.Evaluation.Walk
import Workings.Proofs.Evaluation.Remembering
import Workings.Proofs.Expr.Balance
import Workings.Proofs.Expr.Shortcut
import Workings.Proofs.Expr.LiteralForms
import Workings.Proofs.Calculus.Splitting
import Workings.Proofs.Calculus.Polynomial
import Workings.Proofs.Calculus.Spelling
import Workings.Proofs.Calculus.PlainText
import Workings.Proofs.Calculus.Excerpt
import Workings.Proofs.Calculus.Parts
import Workings.Proofs.Calculus.Summands
import Workings.Proofs.Calculus.Terms
import Workings.Proofs.Calculus.Differentiation
import Workings.Proofs.Calculus.Integration
import Workings.Proofs.Calculus.TopLevel
import Workings.Proofs.Calculus.Guarded
import Workings.Proofs.Calculus.Exponents
import Workings.Proofs.Expr.Failure
import Workings.Proofs.Expr.Height
import Workings.Proofs.Expr.Viability
import Workings.Proofs.Token.Placement
import Workings.Proofs.Expr.FirstFault
import Workings.Proofs.Number.Finite
import Workings.Proofs.Evaluation.Finiteness
import Workings.Proofs.Evaluation.Levels
import Workings.Proofs.Span.Slice
import Workings.Proofs.Token.Standing
import Workings.Proofs.Expr.Regions
import Workings.Proofs.Expr.Relocation
import Workings.Proofs.Token.Guarded
import Workings.Proofs.Token.Longest
import Workings.Proofs.Token.Fidelity
import Workings.Proofs.Expr.Walk
import Workings.Proofs.Expr.Guarded
import Workings.Proofs.Calculator.Logging
