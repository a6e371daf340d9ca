import Cohort.CommandLine.Arguments
import Cohort.CommandLine.Command
import Cohort.CommandLine.Help
import Cohort.CommandLine.Tasks
import Cohort.Document.Basic
import Cohort.Error
import Cohort.Expr.Basic
import Cohort.Expr.Eval
import Cohort.Expr.Parser
import Cohort.Grammar.Basic
import Cohort.Grammar.Operators
import Cohort.Grammar.Standard
import Cohort.Grammar.Transforms
import Cohort.Instant.Basic
import Cohort.Instant.Calendar
import Cohort.Instant.Read
import Cohort.Json.Basic
import Cohort.Json.Quoted
import Cohort.Json.Reader
import Cohort.Json.Writer
import Cohort.Main
import Cohort.Number.Binary
import Cohort.Number.Narrow
import Cohort.Number.Read
import Cohort.Number.Scaled
import Cohort.Number.Shortest
import Cohort.Number.Words
import Cohort.Number.Written
import Cohort.Pattern.Basic
import Cohort.Pattern.CharSet
import Cohort.Pattern.Footprint
import Cohort.Pattern.Matcher
import Cohort.Pattern.Meaning
import Cohort.Pattern.Program
import Cohort.Pattern.Reader
import Cohort.Pattern.Tree
import Cohort.Proofs.Document.Agreement
import Cohort.Proofs.Document.Entries
import Cohort.Proofs.Document.Mapped
import Cohort.Proofs.Document.Relations
import Cohort.Proofs.Expr.Collections
import Cohort.Proofs.Expr.Dependence
import Cohort.Proofs.Expr.Filters
import Cohort.Proofs.Expr.Literals
import Cohort.Proofs.Expr.Logic
import Cohort.Proofs.Expr.Mentions
import Cohort.Proofs.Expr.Nodes
import Cohort.Proofs.Expr.Sequences
import Cohort.Proofs.Expr.WellFormed
import Cohort.Proofs.Grammar.Application
import Cohort.Proofs.Grammar.Conservative
import Cohort.Proofs.Grammar.Failures
import Cohort.Proofs.Grammar.Removal
import Cohort.Proofs.Grammar.Usable
import Cohort.Proofs.Json.Quoted
import Cohort.Proofs.Number.Arithmetic
import Cohort.Proofs.Number.Bits
import Cohort.Proofs.Number.Comparison
import Cohort.Proofs.Number.Decimal
import Cohort.Proofs.Number.Exact
import Cohort.Proofs.Number.Integers
import Cohort.Proofs.Number.Order
import Cohort.Proofs.Number.Reading
import Cohort.Proofs.Number.Rounding
import Cohort.Proofs.Number.Shortest
import Cohort.Proofs.Number.Spelled
import Cohort.Proofs.Number.Words
import Cohort.Proofs.Parser.Associativity
import Cohort.Proofs.Parser.Balance
import Cohort.Proofs.Parser.Built
import Cohort.Proofs.Parser.Completeness
import Cohort.Proofs.Parser.Consumed
import Cohort.Proofs.Parser.Fuel
import Cohort.Proofs.Parser.Grouped
import Cohort.Proofs.Parser.Limits
import Cohort.Proofs.Parser.Locality
import Cohort.Proofs.Parser.Nesting
import Cohort.Proofs.Parser.Offsets
import Cohort.Proofs.Parser.Precedence
import Cohort.Proofs.Parser.Prefixes
import Cohort.Proofs.Parser.Reads
import Cohort.Proofs.Parser.Relations
import Cohort.Proofs.Parser.Soundness
import Cohort.Proofs.Parser.Spelling
import Cohort.Proofs.Parser.Steps
import Cohort.Proofs.Parser.Termination
import Cohort.Proofs.Sampling.Buckets
import Cohort.Proofs.Sampling.Canonical
import Cohort.Proofs.Sampling.Equality
import Cohort.Proofs.Sampling.Faults
import Cohort.Proofs.Sampling.Fractions
import Cohort.Proofs.Sampling.Keys
import Cohort.Proofs.Sampling.Prefixes
import Cohort.Proofs.Sampling.Rates
import Cohort.Proofs.Sampling.Runs
import Cohort.Proofs.Sampling.Widening
import Cohort.Proofs.Text.Blanks
import Cohort.Proofs.Text.Bytes
import Cohort.Proofs.Text.Classes
import Cohort.Proofs.Text.Hexadecimal
import Cohort.Proofs.Text.Tables
import Cohort.Proofs.Token.Faults
import Cohort.Proofs.Token.Layout
import Cohort.Proofs.Token.Lexemes
import Cohort.Proofs.Token.Longest
import Cohort.Proofs.Token.Lossless
import Cohort.Proofs.Token.Scans
import Cohort.Proofs.Token.Symbols
import Cohort.Proofs.Token.Taken
import Cohort.Proofs.Value.Comparison
import Cohort.Proofs.Value.Division
import Cohort.Proofs.Value.Equality
import Cohort.Proofs.Value.IntegerArithmetic
import Cohort.Proofs.Value.Json
import Cohort.Proofs.Value.Membership
import Cohort.Proofs.Value.Plain
import Cohort.Proofs.Value.Power
import Cohort.Proofs.Value.Transitivity
import Cohort.Proofs.Value.Whole
import Cohort.Proofs.Value.Written
import Cohort.Sampling.Basic
import Cohort.Sampling.Canonical
import Cohort.Sampling.Sha256
import Cohort.Text.Age
import Cohort.Text.CaseFold
import Cohort.Text.Category
import Cohort.Text.Character
import Cohort.Text.CodePoints
import Cohort.Text.Digits
import Cohort.Text.Property
import Cohort.Text.Property.Basic
import Cohort.Text.Property.Binary
import Cohort.Text.Property.Breaks
import Cohort.Text.Property.Case
import Cohort.Text.Property.Identifiers
import Cohort.Text.Property.Shape
import Cohort.Text.Property.Symbols
import Cohort.Text.Quoted
import Cohort.Text.Script
import Cohort.Text.Utf8
import Cohort.Token.Basic
import Cohort.Token.Lexer
import Cohort.Value.Basic
import Cohort.Value.Json
import Cohort.Value.Text
