import SnippetCheck.Check.Basic
import SnippetCheck.Check.Battery
import SnippetCheck.Check.Collision
import SnippetCheck.Command.Arguments
import SnippetCheck.Command.Invocation
import SnippetCheck.Command.Run
import SnippetCheck.Decimal
import SnippetCheck.Diagnostic
import SnippetCheck.Grammar.Expression
import SnippetCheck.Grammar.Program
import SnippetCheck.Grammar.Reader
import SnippetCheck.Grammar.Statement
import SnippetCheck.Json.Compound
import SnippetCheck.Json.Fault
import SnippetCheck.Json.Numeral
import SnippetCheck.Json.Reader
import SnippetCheck.Json.Record
import SnippetCheck.Json.Scalar
import SnippetCheck.Json.Skip
import SnippetCheck.Json.Text
import SnippetCheck.Json.Write
import SnippetCheck.Main
import SnippetCheck.Proofs.Check.Additions
import SnippetCheck.Proofs.Check.Calls
import SnippetCheck.Proofs.Check.Collisions
import SnippetCheck.Proofs.Check.DefinitionOrder
import SnippetCheck.Proofs.Check.EarlyReads
import SnippetCheck.Proofs.Check.Independence
import SnippetCheck.Proofs.Check.OnePerIndex
import SnippetCheck.Proofs.Check.ParameterReads
import SnippetCheck.Proofs.Check.Trivia
import SnippetCheck.Proofs.Check.UsageOrder
import SnippetCheck.Proofs.Json.Compound
import SnippetCheck.Proofs.Json.Outcome
import SnippetCheck.Proofs.Json.Record
import SnippetCheck.Proofs.Json.Scalar
import SnippetCheck.Proofs.Json.Spelling
import SnippetCheck.Proofs.Language.Acceptance
import SnippetCheck.Proofs.Language.Completeness
import SnippetCheck.Proofs.Language.First
import SnippetCheck.Proofs.Language.Phrase
import SnippetCheck.Proofs.Language.Positions
import SnippetCheck.Proofs.Language.RoundTrip
import SnippetCheck.Proofs.Language.Separation
import SnippetCheck.Proofs.Language.Signatures
import SnippetCheck.Proofs.Language.Soundness
import SnippetCheck.Proofs.Language.Structure
import SnippetCheck.Proofs.Lists
import SnippetCheck.Proofs.Reading.Agreement
import SnippetCheck.Proofs.Reading.Barrier
import SnippetCheck.Proofs.Reading.Comparison
import SnippetCheck.Proofs.Reading.Expression
import SnippetCheck.Proofs.Reading.Failure
import SnippetCheck.Proofs.Reading.FaultBound
import SnippetCheck.Proofs.Reading.Gives
import SnippetCheck.Proofs.Reading.KeptHeight
import SnippetCheck.Proofs.Reading.Layout
import SnippetCheck.Proofs.Reading.Loops
import SnippetCheck.Proofs.Reading.Progress
import SnippetCheck.Proofs.Reading.Recovery
import SnippetCheck.Proofs.Reading.Shallow
import SnippetCheck.Proofs.Reading.Shows
import SnippetCheck.Proofs.Reading.Statement
import SnippetCheck.Proofs.Reading.Yields
import SnippetCheck.Proofs.Report.CompactLines
import SnippetCheck.Proofs.Report.Findings
import SnippetCheck.Proofs.Report.OneLine
import SnippetCheck.Proofs.Structure.Balance
import SnippetCheck.Proofs.Structure.Nesting
import SnippetCheck.Proofs.Symbol.Declared
import SnippetCheck.Proofs.Symbol.LastWrite
import SnippetCheck.Proofs.Symbol.Latest
import SnippetCheck.Proofs.Symbol.Log
import SnippetCheck.Proofs.Symbol.Run
import SnippetCheck.Proofs.Symbol.Scopes
import SnippetCheck.Proofs.Symbol.Traversal
import SnippetCheck.Proofs.Token.Fences
import SnippetCheck.Proofs.Token.LexicalGrammar
import SnippetCheck.Proofs.Token.Lines
import SnippetCheck.Proofs.Token.MaximalMunch
import SnippetCheck.Proofs.Token.Partition
import SnippetCheck.Proofs.Token.Position
import SnippetCheck.Proofs.Token.Printing
import SnippetCheck.Proofs.Token.Rank
import SnippetCheck.Proofs.Token.Signature
import SnippetCheck.Proofs.Token.Spacing
import SnippetCheck.Proofs.Token.Surroundings
import SnippetCheck.Proofs.Tree.Depth
import SnippetCheck.Proofs.Tree.Lines
import SnippetCheck.Proofs.Tree.Placement
import SnippetCheck.Proofs.Tree.Provenance
import SnippetCheck.Proofs.Tree.ReadingOrder
import SnippetCheck.Proofs.Tree.Roles
import SnippetCheck.Proofs.Tree.Shape
import SnippetCheck.Proofs.Tree.WellFormed
import SnippetCheck.Proofs.Tree.Worklist
import SnippetCheck.Proofs.Wire.Records
import SnippetCheck.Proofs.Wire.RoundTrip
import SnippetCheck.Report.Basic
import SnippetCheck.Report.Layout
import SnippetCheck.Service.Analysis
import SnippetCheck.Service.Info
import SnippetCheck.Service.Settings
import SnippetCheck.Structure.Checks
import SnippetCheck.Symbol.Collect
import SnippetCheck.Symbol.Table
import SnippetCheck.Text.Render
import SnippetCheck.Token.Basic
import SnippetCheck.Token.Describe
import SnippetCheck.Token.Lexeme
import SnippetCheck.Token.Lexer
import SnippetCheck.Token.Neighbours
import SnippetCheck.Tree.Basic
import SnippetCheck.Tree.Visit
import SnippetCheck.Tree.Worklist
import SnippetCheck.Unicode.Classes
import SnippetCheck.Unicode.Visible
import SnippetCheck.Wire.Report
import SnippetCheck.Wire.Token
import SnippetCheck.Wire.Tree
