import OptionProtocol.Batch
import OptionProtocol.CommandLine
import OptionProtocol.Configuration.Basic
import OptionProtocol.Configuration.Storage
import OptionProtocol.Console.Arguments
import OptionProtocol.Console.Help
import OptionProtocol.Console.Markup
import OptionProtocol.Console.Session
import OptionProtocol.Definition.Basic
import OptionProtocol.Definition.Fault
import OptionProtocol.Definition.OptionType
import OptionProtocol.Definition.Reading
import OptionProtocol.Emission.Formatting
import OptionProtocol.Emission.Generator
import OptionProtocol.Emission.Import
import OptionProtocol.Emission.Layout
import OptionProtocol.Emission.Member
import OptionProtocol.Emission.Python
import OptionProtocol.Expression.Basic
import OptionProtocol.Expression.Grammar
import OptionProtocol.Expression.Lexeme
import OptionProtocol.Expression.Lexer
import OptionProtocol.Expression.Literal
import OptionProtocol.Expression.Numeral
import OptionProtocol.Failure
import OptionProtocol.FilePath
import OptionProtocol.Files
import OptionProtocol.Handler.Catalogue
import OptionProtocol.Handler.ClassId
import OptionProtocol.Handler.Constraint
import OptionProtocol.Handler.Decoding
import OptionProtocol.Handler.Encoding
import OptionProtocol.Handler.Fault
import OptionProtocol.Handler.Instance
import OptionProtocol.Handler.Level
import OptionProtocol.Handler.Listing
import OptionProtocol.Handler.Value
import OptionProtocol.Json.Basic
import OptionProtocol.Json.Printer
import OptionProtocol.Json.Reader
import OptionProtocol.Kind
import OptionProtocol.Loading
import OptionProtocol.Logging
import OptionProtocol.Logging.Setup
import OptionProtocol.Main
import OptionProtocol.Name.Case
import OptionProtocol.Name.Dotted
import OptionProtocol.Name.Sanitizer
import OptionProtocol.Number.Binary64
import OptionProtocol.Number.Reading
import OptionProtocol.Number.Shortest
import OptionProtocol.Proofs.CommandLine
import OptionProtocol.Proofs.Except
import OptionProtocol.Proofs.FilePath
import OptionProtocol.Proofs.Handler.Announcing
import OptionProtocol.Proofs.Handler.Assigning
import OptionProtocol.Proofs.Handler.Canonical
import OptionProtocol.Proofs.Handler.Chaining
import OptionProtocol.Proofs.Handler.Collecting
import OptionProtocol.Proofs.Handler.Constrained
import OptionProtocol.Proofs.Handler.Defaults
import OptionProtocol.Proofs.Handler.Exactness
import OptionProtocol.Proofs.Handler.Fitting
import OptionProtocol.Proofs.Handler.Naming
import OptionProtocol.Proofs.Handler.Nesting
import OptionProtocol.Proofs.Handler.ObjectRoundTrip
import OptionProtocol.Proofs.Handler.ObjectTree
import OptionProtocol.Proofs.Handler.RowRoundTrip
import OptionProtocol.Proofs.Handler.Settled
import OptionProtocol.Proofs.Handler.Sound
import OptionProtocol.Proofs.Handler.Sourcing
import OptionProtocol.Proofs.Handler.Spelling
import OptionProtocol.Proofs.Handler.Written
import OptionProtocol.Proofs.Number
import OptionProtocol.Proofs.Text.Lowering
import OptionProtocol.Proofs.Text.Pieces
import OptionProtocol.Proofs.TokenSequence.Calls
import OptionProtocol.Proofs.TokenSequence.Conservation
import OptionProtocol.Proofs.TokenSequence.Independence
import OptionProtocol.Proofs.TokenSequence.Packing
import OptionProtocol.Proofs.TokenSequence.Places
import OptionProtocol.Proofs.TokenSequence.Taking
import OptionProtocol.Registry
import OptionProtocol.Template.Basic
import OptionProtocol.Template.Filter
import OptionProtocol.Template.Store
import OptionProtocol.Text.Basic
import OptionProtocol.Text.Blank
import OptionProtocol.Text.Digit
import OptionProtocol.Text.Identifier
import OptionProtocol.Text.LetterCase
import OptionProtocol.Text.LetterCase.Table
import OptionProtocol.Text.Printable
import OptionProtocol.Text.Quoted
import OptionProtocol.Text.Ranges
import OptionProtocol.Text.Utf8
import OptionProtocol.TokenSequence
import OptionProtocol.Url
import OptionProtocol.Proofs.Handler.Overwriting
import OptionProtocol.Proofs.Handler.Typing
import OptionProtocol.Proofs.Definition.WellFormed
import OptionProtocol.Proofs.Name.Snake
import OptionProtocol.Proofs.Name.Numbering
import OptionProtocol.Proofs.Name.Sanitizing
import OptionProtocol.Proofs.Emission.Attributes
import OptionProtocol.Proofs.Definition.Naming
import OptionProtocol.Proofs.Files
import OptionProtocol.Proofs.Batch.Runs
import OptionProtocol.Proofs.Batch.Accounting
import OptionProtocol.Proofs.Batch.Outputs
import OptionProtocol.Proofs.Definition.NullCharacter
import OptionProtocol.Proofs.Loading
import OptionProtocol.Proofs.Batch.Returning
import OptionProtocol.Proofs.Table
import OptionProtocol.Proofs.Registry
import OptionProtocol.Proofs.Files.Growth
import OptionProtocol.Proofs.Files.Tree
import OptionProtocol.Proofs.Emission.FileName
import OptionProtocol.Proofs.Batch.Containment
import OptionProtocol.Proofs.Batch.Traceless
import OptionProtocol.Proofs.Batch.Ledger
import OptionProtocol.Proofs.Console.Preview
import OptionProtocol.Proofs.Console.Modes
import OptionProtocol.Proofs.Registry.Shadowing
import OptionProtocol.Proofs.TokenSequence.Sweeping
import OptionProtocol.Proofs.Handler.ValueRoundTrip
import OptionProtocol.Proofs.Handler.Judging
import OptionProtocol.Proofs.Handler.Resolving
import OptionProtocol.Proofs.Handler.Stopping
import OptionProtocol.Proofs.Text.Spelling
import OptionProtocol.Proofs.Definition.TypeGrammar
import OptionProtocol.Proofs.Text.Lines
import OptionProtocol.Proofs.Emission.Tidying
import OptionProtocol.Proofs.Emission.Expressions
import OptionProtocol.Proofs.Text.LineEnds
import OptionProtocol.Proofs.Expression.Numerals
import OptionProtocol.Proofs.Expression.Lexemes
import OptionProtocol.Proofs.Expression.Enclosing
import OptionProtocol.Proofs.Expression.Closing
import OptionProtocol.Proofs.Expression.Rules
import OptionProtocol.Proofs.Expression.Negation
import OptionProtocol.Proofs.Definition.Guards
import OptionProtocol.Expression.TextValue
import OptionProtocol.Proofs.Expression.TextValue
import OptionProtocol.Proofs.Template.Docstrings
import OptionProtocol.Proofs.Text.PhysicalLines
import OptionProtocol.Proofs.Text.Quoted
import OptionProtocol.Proofs.Emission.Rows
import OptionProtocol.Proofs.Emission.Literals
import OptionProtocol.Proofs.Emission.Header
import OptionProtocol.Proofs.Emission.NormalForm
import OptionProtocol.Proofs.Name.Requests
import OptionProtocol.Proofs.Name.Histories
import OptionProtocol.Proofs.Name.Words
import OptionProtocol.Proofs.Name.Validity
import OptionProtocol.Proofs.Name.Dotted
import OptionProtocol.Proofs.Emission.Bases
import OptionProtocol.Proofs.Emission.Imports
import OptionProtocol.Proofs.Name.NormalForm
import OptionProtocol.Proofs.Registry.Refusing
import OptionProtocol.Proofs.Name.NormalForm
import OptionProtocol.Proofs.Registry.Refusing
import OptionProtocol.Proofs.Configuration.Escaping
import OptionProtocol.Proofs.Number.Numeral
import OptionProtocol.Proofs.Json.Numbers
import OptionProtocol.Proofs.Json.Strings
import OptionProtocol.Proofs.Json.RoundTrip
import OptionProtocol.Proofs.FilePath.Extension
import OptionProtocol.Proofs.Configuration.Reloading
