import TypedMustache.Catalog
import TypedMustache.Catalog.Description
import TypedMustache.Catalog.Reference
import TypedMustache.Command
import TypedMustache.Command.Execution
import TypedMustache.CommandLine.Grammar
import TypedMustache.CommandLine.Reading
import TypedMustache.CommandLine.Usage
import TypedMustache.Compilation
import TypedMustache.CompileRequest
import TypedMustache.CompileResult
import TypedMustache.CompileResult.Document
import TypedMustache.CompileResult.Storage
import TypedMustache.DataType
import TypedMustache.DataType.Formation
import TypedMustache.DataType.Shape
import TypedMustache.Datum
import TypedMustache.Diagnostic
import TypedMustache.Escaping
import TypedMustache.Journal
import TypedMustache.Journal.Notice
import TypedMustache.Json.Reader
import TypedMustache.Json.Writer
import TypedMustache.Main
import TypedMustache.Number.Binary64
import TypedMustache.Proofs.Association
import TypedMustache.Proofs.Attempt
import TypedMustache.Proofs.Command.Ending
import TypedMustache.Proofs.Compilation.Acceptance
import TypedMustache.Proofs.Compilation.BalancedRun
import TypedMustache.Proofs.Compilation.BlockGrammar
import TypedMustache.Proofs.Compilation.CodeLines
import TypedMustache.Proofs.Compilation.CodeText
import TypedMustache.Proofs.Compilation.FailedRun
import TypedMustache.Proofs.Compilation.GuardedReads
import TypedMustache.Proofs.Compilation.Instruction
import TypedMustache.Proofs.Compilation.LayoutVariants
import TypedMustache.Proofs.Compilation.LiteralText
import TypedMustache.Proofs.Compilation.LocatedFailure
import TypedMustache.Proofs.Compilation.RunChange
import TypedMustache.Proofs.Compilation.RunFailure
import TypedMustache.Proofs.Compilation.SectionTree
import TypedMustache.Proofs.Compilation.UnmarkedLayout
import TypedMustache.Proofs.Compilation.YieldSplit
import TypedMustache.Proofs.CompileResult.Indentation
import TypedMustache.Proofs.CompileResult.SavedResult
import TypedMustache.Proofs.DataType.Formed
import TypedMustache.Proofs.DataType.IterableType
import TypedMustache.Proofs.DataType.OptionalType
import TypedMustache.Proofs.DataType.ShapelessType
import TypedMustache.Proofs.Escaping.Entities
import TypedMustache.Proofs.Journal.Filtering
import TypedMustache.Proofs.Journal.Records
import TypedMustache.Proofs.Journal.RequestContext
import TypedMustache.Proofs.Json.RoundTrip
import TypedMustache.Proofs.RenderModule.DefinedNames
import TypedMustache.Proofs.RenderModule.DocumentationLine
import TypedMustache.Proofs.RenderModule.ImportedNames
import TypedMustache.Proofs.RenderModule.ModuleLines
import TypedMustache.Proofs.RenderModule.NameClashes
import TypedMustache.Proofs.RenderModule.NameForm
import TypedMustache.Proofs.Scope.AccessPath
import TypedMustache.Proofs.Scope.DottedName
import TypedMustache.Proofs.Scope.EscapingStep
import TypedMustache.Proofs.Scope.InvertedSection
import TypedMustache.Proofs.Scope.NameCapture
import TypedMustache.Proofs.Scope.Phrase
import TypedMustache.Proofs.Scope.Reachable
import TypedMustache.Proofs.Scope.Stack
import TypedMustache.Proofs.Settings.LoadedFields
import TypedMustache.Proofs.Sink.Checkpoints
import TypedMustache.Proofs.Text.LetterCase
import TypedMustache.Proofs.Text.Plain
import TypedMustache.Proofs.Text.SourceText
import TypedMustache.Proofs.Text.StatementLine
import TypedMustache.Proofs.Token.Delivery
import TypedMustache.Proofs.Token.Pieces
import TypedMustache.Proofs.Token.Printing
import TypedMustache.Proofs.Token.Template
import TypedMustache.Proofs.Token.Tiling
import TypedMustache.Proofs.Token.WrongTag
import TypedMustache.RenderModule
import TypedMustache.Scope
import TypedMustache.Scope.Statement
import TypedMustache.Session
import TypedMustache.Settings
import TypedMustache.Settings.Loading
import TypedMustache.Settings.Problem
import TypedMustache.Sink
import TypedMustache.Text.CharacterClass
import TypedMustache.Text.Expression
import TypedMustache.Text.Identifier
import TypedMustache.Text.LetterCase
import TypedMustache.Text.Printable
import TypedMustache.Text.Quoted
import TypedMustache.Text.Split
import TypedMustache.Text.Word
import TypedMustache.Token
import TypedMustache.Token.Lexer
import TypedMustache.Token.Stream
import TypedMustache.Worker
import TypedMustache.Workspace
import TypedMustache.Workspace.Path
import TypedMustache.Yaml
import TypedMustache.Yaml.Cursor
import TypedMustache.Yaml.Node
import TypedMustache.Yaml.Scalar
import TypedMustache.Yaml.Token
import TypedMustache.Yaml.Written
