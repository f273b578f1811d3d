import ProviderForge.Code.Build
import ProviderForge.Code.ClientCall
import ProviderForge.Code.DataSource
import ProviderForge.Code.Fill
import ProviderForge.Code.Lifecycle
import ProviderForge.Code.Registry
import ProviderForge.Code.Resource
import ProviderForge.Code.Schema
import ProviderForge.Code.Value
import ProviderForge.CommandLine.Execution
import ProviderForge.CommandLine.FieldPattern
import ProviderForge.CommandLine.Invocation
import ProviderForge.CommandLine.LogFilter
import ProviderForge.CommandLine.Parameter
import ProviderForge.CommandLine.Usage
import ProviderForge.Definition.Attribute
import ProviderForge.Definition.BuiltIn
import ProviderForge.Definition.Check
import ProviderForge.Definition.Decode
import ProviderForge.Definition.Encode
import ProviderForge.Definition.Entity
import ProviderForge.Definition.Load
import ProviderForge.Disk.Path
import ProviderForge.Disk.Tree
import ProviderForge.Disk.Write
import ProviderForge.Document.Basic
import ProviderForge.Document.Fault
import ProviderForge.Document.Request
import ProviderForge.Event
import ProviderForge.Failure
import ProviderForge.Generated
import ProviderForge.Grammar.Attribute
import ProviderForge.Grammar.Basic
import ProviderForge.Grammar.Bound
import ProviderForge.Grammar.Expression
import ProviderForge.Grammar.Fault
import ProviderForge.Grammar.File
import ProviderForge.Grammar.Generic
import ProviderForge.Grammar.Item
import ProviderForge.Grammar.Path
import ProviderForge.Grammar.Pattern
import ProviderForge.Grammar.Statement
import ProviderForge.Grammar.Type
import ProviderForge.Json.Basic
import ProviderForge.Json.Number
import ProviderForge.Json.Reader
import ProviderForge.Layout.Comment
import ProviderForge.Layout.Draft
import ProviderForge.Layout.Expression
import ProviderForge.Layout.File
import ProviderForge.Layout.Item
import ProviderForge.Layout.Lines
import ProviderForge.Layout.Node
import ProviderForge.Layout.Tokens
import ProviderForge.Main
import ProviderForge.Model
import ProviderForge.Name.Identifier
import ProviderForge.Name.Words
import ProviderForge.Number.Double
import ProviderForge.Number.Notation
import ProviderForge.Proofs.Code.Acceptance
import ProviderForge.Proofs.Code.Accumulator
import ProviderForge.Proofs.Code.Agreement
import ProviderForge.Proofs.Code.Attributes
import ProviderForge.Proofs.Code.Binding
import ProviderForge.Proofs.Code.Calls
import ProviderForge.Proofs.Code.ConfiguredCalls
import ProviderForge.Proofs.Code.Decision
import ProviderForge.Proofs.Code.Documented
import ProviderForge.Proofs.Code.FieldNames
import ProviderForge.Proofs.Code.Grammar.Client
import ProviderForge.Proofs.Code.Grammar.DataSource
import ProviderForge.Proofs.Code.Grammar.Lifecycle
import ProviderForge.Proofs.Code.Grammar.Model
import ProviderForge.Proofs.Code.Grammar.Parts
import ProviderForge.Proofs.Code.Grammar.Resource
import ProviderForge.Proofs.Code.Grammar.Schema
import ProviderForge.Proofs.Code.Items
import ProviderForge.Proofs.Code.ListRead
import ProviderForge.Proofs.Code.ModelTree
import ProviderForge.Proofs.Code.Options
import ProviderForge.Proofs.Code.Reading
import ProviderForge.Proofs.Code.Record
import ProviderForge.Proofs.Code.References
import ProviderForge.Proofs.Code.Registry
import ProviderForge.Proofs.Code.Requests
import ProviderForge.Proofs.Code.SchemaCalls
import ProviderForge.Proofs.Code.Tables
import ProviderForge.Proofs.Code.Texts
import ProviderForge.Proofs.Code.Wrapper
import ProviderForge.Proofs.CommandLine.Arguments
import ProviderForge.Proofs.CommandLine.Execution
import ProviderForge.Proofs.Definition.AttributeReading
import ProviderForge.Proofs.Definition.Nesting
import ProviderForge.Proofs.Definition.RoundTrip
import ProviderForge.Proofs.Definition.Steady
import ProviderForge.Proofs.Definition.SteadyAttribute
import ProviderForge.Proofs.Definition.SteadyChoice
import ProviderForge.Proofs.Definition.SteadyDefinitions
import ProviderForge.Proofs.Definition.SteadyRecord
import ProviderForge.Proofs.Definition.Variation
import ProviderForge.Proofs.Definition.Varied
import ProviderForge.Proofs.Definition.WellFormed
import ProviderForge.Proofs.Disk.Again
import ProviderForge.Proofs.Disk.Atomic
import ProviderForge.Proofs.Disk.Beside
import ProviderForge.Proofs.Disk.Parents
import ProviderForge.Proofs.Disk.Path
import ProviderForge.Proofs.Disk.Tree
import ProviderForge.Proofs.Disk.Write
import ProviderForge.Proofs.Document.Holds
import ProviderForge.Proofs.Document.Request
import ProviderForge.Proofs.Document.Shows
import ProviderForge.Proofs.Generated
import ProviderForge.Proofs.Grammar.Contents
import ProviderForge.Proofs.Grammar.Control
import ProviderForge.Proofs.Grammar.Expression
import ProviderForge.Proofs.Grammar.Item
import ProviderForge.Proofs.Grammar.Operand
import ProviderForge.Proofs.Grammar.Pattern
import ProviderForge.Proofs.Grammar.Reads
import ProviderForge.Proofs.Grammar.Run
import ProviderForge.Proofs.Grammar.Selection
import ProviderForge.Proofs.Grammar.Statement
import ProviderForge.Proofs.Grammar.Type
import ProviderForge.Proofs.Json.Lexeme
import ProviderForge.Proofs.Json.Reader
import ProviderForge.Proofs.Json.Source
import ProviderForge.Proofs.Json.Text
import ProviderForge.Proofs.Layout.Balanced
import ProviderForge.Proofs.Layout.Comment
import ProviderForge.Proofs.Layout.Group
import ProviderForge.Proofs.Layout.Lines
import ProviderForge.Proofs.Layout.Written
import ProviderForge.Proofs.Name.Identifier
import ProviderForge.Proofs.Name.Words
import ProviderForge.Proofs.Result
import ProviderForge.Proofs.Run.Again
import ProviderForge.Proofs.Run.Agreement
import ProviderForge.Proofs.Run.Checked
import ProviderForge.Proofs.Run.Confined
import ProviderForge.Proofs.Run.Documentation
import ProviderForge.Proofs.Run.Independent
import ProviderForge.Proofs.Run.Interleaved
import ProviderForge.Proofs.Run.Linked
import ProviderForge.Proofs.Run.Neighbour
import ProviderForge.Proofs.Run.Outcome
import ProviderForge.Proofs.Run.Plan
import ProviderForge.Proofs.Run.Preview
import ProviderForge.Proofs.Run.Rendered
import ProviderForge.Proofs.Run.Reordered
import ProviderForge.Proofs.Run.Selected
import ProviderForge.Proofs.Run.Session
import ProviderForge.Proofs.Run.Warnings
import ProviderForge.Proofs.Token.Identifier
import ProviderForge.Proofs.Token.Lexer
import ProviderForge.Proofs.Token.Quoted
import ProviderForge.Run
import ProviderForge.Syntax.Basic
import ProviderForge.Task
import ProviderForge.Text.Character
import ProviderForge.Text.IdentifierClass
import ProviderForge.Text.LetterCase
import ProviderForge.Text.Printable
import ProviderForge.Text.Similarity
import ProviderForge.Token.Basic
import ProviderForge.Token.Display
import ProviderForge.Token.Integer
import ProviderForge.Token.Lexeme
import ProviderForge.Token.Lexer
import ProviderForge.Token.Quoted
import ProviderForge.Yaml.Barrier
import ProviderForge.Yaml.BlockScalar
import ProviderForge.Yaml.Cursor
import ProviderForge.Yaml.Document
import ProviderForge.Yaml.Fault
import ProviderForge.Yaml.FlowScalar
import ProviderForge.Yaml.Lexer
import ProviderForge.Yaml.Node
import ProviderForge.Yaml.Property
import ProviderForge.Yaml.Reader
import ProviderForge.Yaml.Scalar
import ProviderForge.Yaml.Token
