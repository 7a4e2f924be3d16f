import BuildExpr.Calendar.Date
import BuildExpr.Calendar.DateTime
import BuildExpr.Calendar.Pattern
import BuildExpr.Calendar.Reader
import BuildExpr.Calendar.TimeSpan
import BuildExpr.Diagnostic
import BuildExpr.Evaluation.Expression
import BuildExpr.Evaluation.ItemFunction
import BuildExpr.Evaluation.Setting
import BuildExpr.Expander
import BuildExpr.Expression.Chunk
import BuildExpr.Expression.Malformed
import BuildExpr.Expression.Parse
import BuildExpr.Expression.Tree
import BuildExpr.Fault
import BuildExpr.Functions.Arguments
import BuildExpr.Functions.Dates
import BuildExpr.Functions.Environment
import BuildExpr.Functions.Numbers
import BuildExpr.Functions.Paths
import BuildExpr.Functions.Patterns
import BuildExpr.Functions.Table
import BuildExpr.Functions.Texts
import BuildExpr.Functions.Tool
import BuildExpr.Functions.Versions
import BuildExpr.Item.Basic
import BuildExpr.Item.Metadata
import BuildExpr.NameMap
import BuildExpr.Number.Arithmetic
import BuildExpr.Number.Binary64
import BuildExpr.Number.Integer
import BuildExpr.Number.Numeral
import BuildExpr.Number.Shortest
import BuildExpr.Options
import BuildExpr.Path.Basic
import BuildExpr.Proofs.Calendar.DateTexts
import BuildExpr.Proofs.Calendar.Figures
import BuildExpr.Proofs.Calendar.Parts
import BuildExpr.Proofs.Calendar.SpanTexts
import BuildExpr.Proofs.Calendar.Ticks
import BuildExpr.Proofs.Evaluation.Alike
import BuildExpr.Proofs.Evaluation.Answers
import BuildExpr.Proofs.Evaluation.Matching
import BuildExpr.Proofs.Evaluation.Names
import BuildExpr.Proofs.Evaluation.Provenance
import BuildExpr.Proofs.Evaluation.Recase
import BuildExpr.Proofs.Evaluation.Related
import BuildExpr.Proofs.Evaluation.Relookup
import BuildExpr.Proofs.Evaluation.Reports
import BuildExpr.Proofs.Evaluation.Result
import BuildExpr.Proofs.Evaluation.Shift
import BuildExpr.Proofs.Evaluation.TokenMentions
import BuildExpr.Proofs.Evaluation.Tokens
import BuildExpr.Proofs.Except
import BuildExpr.Proofs.Expansion.Cuts
import BuildExpr.Proofs.Expansion.Cutter
import BuildExpr.Proofs.Expansion.Diagnostics
import BuildExpr.Proofs.Expansion.DirectoriesAbove
import BuildExpr.Proofs.Expansion.Escaped
import BuildExpr.Proofs.Expansion.ExtendedTable
import BuildExpr.Proofs.Expansion.FullPaths
import BuildExpr.Proofs.Expansion.ItemMembers
import BuildExpr.Proofs.Expansion.ItemOrder
import BuildExpr.Proofs.Expansion.Items
import BuildExpr.Proofs.Expansion.LastStage
import BuildExpr.Proofs.Expansion.LetterCase
import BuildExpr.Proofs.Expansion.ListElements
import BuildExpr.Proofs.Expansion.Malformed
import BuildExpr.Proofs.Expansion.MetadataFilters
import BuildExpr.Proofs.Expansion.MetadataFirst
import BuildExpr.Proofs.Expansion.MetadataForms
import BuildExpr.Proofs.Expansion.Modes
import BuildExpr.Proofs.Expansion.Noninterference
import BuildExpr.Proofs.Expansion.Passing
import BuildExpr.Proofs.Expansion.QuotedCalls
import BuildExpr.Proofs.Expansion.RegistryForms
import BuildExpr.Proofs.Expansion.Staged
import BuildExpr.Proofs.Expansion.Template
import BuildExpr.Proofs.Expansion.Truncation
import BuildExpr.Proofs.Expansion.Typed
import BuildExpr.Proofs.Expression.BracketSearch
import BuildExpr.Proofs.Expression.Calls
import BuildExpr.Proofs.Expression.Chunks
import BuildExpr.Proofs.Expression.Coverage
import BuildExpr.Proofs.Expression.Everywhere
import BuildExpr.Proofs.Expression.Extend
import BuildExpr.Proofs.Expression.Faults
import BuildExpr.Proofs.Expression.ListGrammar
import BuildExpr.Proofs.Expression.ListText
import BuildExpr.Proofs.Expression.MemberCalls
import BuildExpr.Proofs.Expression.Metadata
import BuildExpr.Proofs.Expression.MetadataGrammar
import BuildExpr.Proofs.Expression.Nodes
import BuildExpr.Proofs.Expression.Occurrence
import BuildExpr.Proofs.Expression.ParseRecase
import BuildExpr.Proofs.Expression.ParseShift
import BuildExpr.Proofs.Expression.Placement
import BuildExpr.Proofs.Expression.RawParts
import BuildExpr.Proofs.Expression.Recase
import BuildExpr.Proofs.Expression.Recognition
import BuildExpr.Proofs.Expression.Requested
import BuildExpr.Proofs.Expression.Shift
import BuildExpr.Proofs.Expression.StageTexts
import BuildExpr.Proofs.Expression.Stages
import BuildExpr.Proofs.History
import BuildExpr.Proofs.Item.CustomMetadata
import BuildExpr.Proofs.Item.PathMetadata
import BuildExpr.Proofs.NameMap
import BuildExpr.Proofs.Number.Arithmetic
import BuildExpr.Proofs.Number.Bitwise
import BuildExpr.Proofs.Number.DoubleTexts
import BuildExpr.Proofs.Number.IntegerTexts
import BuildExpr.Proofs.Number.Nearest
import BuildExpr.Proofs.Number.Radix
import BuildExpr.Proofs.Number.Reading
import BuildExpr.Proofs.Path.Ancestors
import BuildExpr.Proofs.Path.Canonical
import BuildExpr.Proofs.Path.Combine
import BuildExpr.Proofs.Path.Extension
import BuildExpr.Proofs.Path.FileAbove
import BuildExpr.Proofs.Path.Names
import BuildExpr.Proofs.Path.Relative
import BuildExpr.Proofs.Path.Segments
import BuildExpr.Proofs.Registry.KeyParts
import BuildExpr.Proofs.Registry.Layers
import BuildExpr.Proofs.Registry.NormalForms
import BuildExpr.Proofs.Registry.Renderings
import BuildExpr.Proofs.Scope.Documents
import BuildExpr.Proofs.Scope.Stack
import BuildExpr.Proofs.Source.Arguments
import BuildExpr.Proofs.Source.Brackets
import BuildExpr.Proofs.Source.Closing
import BuildExpr.Proofs.Source.Cursors
import BuildExpr.Proofs.Source.Recase
import BuildExpr.Proofs.Source.Renderings
import BuildExpr.Proofs.Source.Within
import BuildExpr.Proofs.Surroundings.Variables
import BuildExpr.Proofs.Text.BackwardSearch
import BuildExpr.Proofs.Text.Decoding
import BuildExpr.Proofs.Text.Escaping
import BuildExpr.Proofs.Text.FoldedSearch
import BuildExpr.Proofs.Text.LetterCase
import BuildExpr.Proofs.Text.LowerForm
import BuildExpr.Proofs.Text.Ordering
import BuildExpr.Proofs.Text.PatternEscaping
import BuildExpr.Proofs.Text.Pieces
import BuildExpr.Proofs.Text.Ranges
import BuildExpr.Proofs.Text.SearchWindow
import BuildExpr.Proofs.Text.Splitting
import BuildExpr.Proofs.Text.Templates
import BuildExpr.Proofs.Text.Trimming
import BuildExpr.Proofs.Text.Utf8
import BuildExpr.Proofs.Version.Comparing
import BuildExpr.Proofs.Version.Texts
import BuildExpr.Regex.Atom
import BuildExpr.Regex.Bracket
import BuildExpr.Regex.Class
import BuildExpr.Regex.Flags
import BuildExpr.Regex.Machine
import BuildExpr.Regex.Property
import BuildExpr.Regex.Reader
import BuildExpr.Regex.Replacement
import BuildExpr.Regex.Search
import BuildExpr.Regex.Tree
import BuildExpr.Registry.Basic
import BuildExpr.Registry.Key
import BuildExpr.Scope
import BuildExpr.Source.Cursor
import BuildExpr.Source.Nesting
import BuildExpr.Source.Rest
import BuildExpr.Source.Span
import BuildExpr.Surroundings.Files
import BuildExpr.Surroundings.World
import BuildExpr.Text.Base64
import BuildExpr.Text.Blank
import BuildExpr.Text.Case
import BuildExpr.Text.CaseClassTable
import BuildExpr.Text.CaseTable
import BuildExpr.Text.CaseVariants
import BuildExpr.Text.Category
import BuildExpr.Text.CategoryTable
import BuildExpr.Text.CharRange
import BuildExpr.Text.Compare
import BuildExpr.Text.Escape
import BuildExpr.Text.Glob
import BuildExpr.Text.LetterTable
import BuildExpr.Text.PrintableTable
import BuildExpr.Text.Quoted
import BuildExpr.Text.ScriptTable
import BuildExpr.Text.Search
import BuildExpr.Text.StableHash
import BuildExpr.Text.Template
import BuildExpr.Text.Utf8
import BuildExpr.Text.WordTable
import BuildExpr.Value
import BuildExpr.Version
