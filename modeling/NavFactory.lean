import NavFactory.Accessor
import NavFactory.CommandLine
import NavFactory.CommandLine.Arguments
import NavFactory.CommandLine.Help
import NavFactory.CommandLine.Switch
import NavFactory.Container
import NavFactory.Declaration
import NavFactory.Descriptor
import NavFactory.Diagnostic
import NavFactory.Diff.Matching
import NavFactory.Diff.Unified
import NavFactory.Digest.Sha256
import NavFactory.Document.Construct
import NavFactory.Document.Cursor
import NavFactory.Document.Implicit
import NavFactory.Document.Lexer
import NavFactory.Document.Node
import NavFactory.Document.Scalar
import NavFactory.Document.Token
import NavFactory.Factory
import NavFactory.Files.Access
import NavFactory.Files.Path
import NavFactory.Files.Tree
import NavFactory.Ignore.Glob
import NavFactory.Ignore.Rule
import NavFactory.ImportTable
import NavFactory.Log
import NavFactory.Manifest
import NavFactory.MarkerCall
import NavFactory.ModuleName
import NavFactory.ModuleText
import NavFactory.Naming
import NavFactory.Number.Arithmetic
import NavFactory.Number.Double
import NavFactory.Output
import NavFactory.ParameterGroups
import NavFactory.Processor
import NavFactory.Reader
import NavFactory.Rendering
import NavFactory.Round
import NavFactory.Round.Plan
import NavFactory.Round.Trace
import NavFactory.Scope
import NavFactory.Selection
import NavFactory.Settings
import NavFactory.Sorted
import NavFactory.Source.Check
import NavFactory.Source.Evaluate
import NavFactory.Source.Grammar.Basic
import NavFactory.Source.Grammar.Case
import NavFactory.Source.Grammar.Expression
import NavFactory.Source.Grammar.Interpolation
import NavFactory.Source.Grammar.Rules
import NavFactory.Source.Grammar.Statement
import NavFactory.Source.Grammar.Target
import NavFactory.Source.Lexer
import NavFactory.Source.Module
import NavFactory.Source.Numeral
import NavFactory.Source.Printer
import NavFactory.Source.StringLiteral
import NavFactory.Source.Token
import NavFactory.Source.Tree
import NavFactory.Template.Chunk
import NavFactory.Template.Data
import NavFactory.Template.Fill
import NavFactory.Template.Node
import NavFactory.Text.Blank
import NavFactory.Text.Case
import NavFactory.Text.CaseTable
import NavFactory.Text.CharacterName
import NavFactory.Text.CharacterNameTable
import NavFactory.Text.Composition
import NavFactory.Text.CompositionTable
import NavFactory.Text.Identifier
import NavFactory.Text.IdentifierTable
import NavFactory.Text.Lines
import NavFactory.Text.Printable
import NavFactory.Text.PrintableTable
import NavFactory.Text.Quoted
import NavFactory.Text.Ranges
import NavFactory.Text.Utf8
import NavFactory.Text.Word
import NavFactory.Text.WordTable
import NavFactory.TypeRef
import NavFactory.Value
import NavFactory.ValueClass
import NavFactory.Main
import NavFactory.Proofs.Accounting
import NavFactory.Proofs.Deletion
import NavFactory.Proofs.MethodNames
import NavFactory.Proofs.Rearrangement
import NavFactory.Proofs.TargetMethods
import NavFactory.Proofs.Writing
import NavFactory.Proofs.ImportNames
import NavFactory.Proofs.TypeNames
import NavFactory.Proofs.Agreement
import NavFactory.Proofs.BodyNames
import NavFactory.Proofs.Encoding
import NavFactory.Text.Parts
import NavFactory.Proofs.Rereading
import NavFactory.Proofs.Calling
import NavFactory.Proofs.Hiding
import NavFactory.Proofs.Escaping
import NavFactory.Proofs.ExitCode
import NavFactory.Proofs.Idempotence
import NavFactory.Proofs.Exporting
import NavFactory.Proofs.Filtering
import NavFactory.Proofs.Excluding
import NavFactory.Proofs.Ignoring
import NavFactory.Proofs.DottedPaths
import NavFactory.Proofs.Bindings
import NavFactory.Proofs.RelativeImports
import NavFactory.Proofs.StateArguments
import NavFactory.Proofs.ClassReferences
import NavFactory.Proofs.ArgumentBinding
import NavFactory.Proofs.UsableParameters
import NavFactory.Proofs.MethodShape
import NavFactory.Proofs.Precedence
import NavFactory.Proofs.Additions
import NavFactory.Proofs.Accessors
import NavFactory.Proofs.TextLiterals
import NavFactory.Proofs.Completion
import NavFactory.Proofs.Interruption
import NavFactory.Proofs.Failures
import NavFactory.Proofs.Loading
import NavFactory.Proofs.ModuleFiles
import NavFactory.Proofs.NameableKeys
import NavFactory.Proofs.Discovery
import NavFactory.Proofs.Patches
import NavFactory.Proofs.Writable
