import Typescribe.Choices.Cache
import Typescribe.Choices.Database
import Typescribe.Choices.Rest
import Typescribe.Choices.Source
import Typescribe.Command.Arguments
import Typescribe.Command.Run
import Typescribe.Command.World
import Typescribe.Database.Basic
import Typescribe.Database.ColumnKind
import Typescribe.Database.ColumnType
import Typescribe.Database.Connection
import Typescribe.Database.Declaration
import Typescribe.Database.Introspection
import Typescribe.Database.Url
import Typescribe.Decimal.Layout
import Typescribe.Decimal.Reading
import Typescribe.Decimal.Rounded
import Typescribe.Decimal.Shortest
import Typescribe.Decimal.Whole
import Typescribe.Declaration.Collision
import Typescribe.Declaration.Comment
import Typescribe.Declaration.Config
import Typescribe.Declaration.Enum
import Typescribe.Declaration.Generation
import Typescribe.Declaration.Index
import Typescribe.Declaration.Interface
import Typescribe.Declaration.Member
import Typescribe.Declaration.Relation
import Typescribe.Declaration.Scalar
import Typescribe.Declaration.Union
import Typescribe.Fault
import Typescribe.Files.Path
import Typescribe.Files.Tree
import Typescribe.Files.Writing
import Typescribe.Host.Composition
import Typescribe.Host.CompositionTable
import Typescribe.Host.DirectionTable
import Typescribe.Host.JoiningTable
import Typescribe.Host.Label
import Typescribe.Host.Name
import Typescribe.Host.Numeric
import Typescribe.Host.Punycode
import Typescribe.Host.ValidTable
import Typescribe.Json.Encoding
import Typescribe.Json.Reader
import Typescribe.Json.Writer
import Typescribe.Log.Conversion
import Typescribe.Log.Directive
import Typescribe.Log.Line
import Typescribe.Log.Record
import Typescribe.Log.Template
import Typescribe.Main
import Typescribe.Naming.ClassName
import Typescribe.Naming.Literal
import Typescribe.Naming.PropertyKey
import Typescribe.Naming.Singular
import Typescribe.Ordered
import Typescribe.Proofs.Choices.Answers
import Typescribe.Proofs.Choices.Blind
import Typescribe.Proofs.Choices.Cache
import Typescribe.Proofs.Choices.Database
import Typescribe.Proofs.Choices.FieldPath
import Typescribe.Proofs.Choices.Requests
import Typescribe.Proofs.Choices.Rest
import Typescribe.Proofs.Choices.Served
import Typescribe.Proofs.Choices.Serving
import Typescribe.Proofs.Choices.Snapshot
import Typescribe.Proofs.Choices.Source
import Typescribe.Proofs.Command.Arguments
import Typescribe.Proofs.Command.Export
import Typescribe.Proofs.Command.Loading
import Typescribe.Proofs.Command.Output
import Typescribe.Proofs.Database.Fields
import Typescribe.Proofs.Database.Flags
import Typescribe.Proofs.Database.Introspection
import Typescribe.Proofs.Database.WithoutSystem
import Typescribe.Proofs.Decimal.Digits
import Typescribe.Proofs.Decimal.Layout
import Typescribe.Proofs.Decimal.Numeral
import Typescribe.Proofs.Declaration.Atomic
import Typescribe.Proofs.Declaration.Choice
import Typescribe.Proofs.Declaration.Collision
import Typescribe.Proofs.Declaration.CollisionReport
import Typescribe.Proofs.Declaration.Comment
import Typescribe.Proofs.Declaration.CommentText
import Typescribe.Proofs.Declaration.Failures
import Typescribe.Proofs.Declaration.Generation
import Typescribe.Proofs.Declaration.ImportLines
import Typescribe.Proofs.Declaration.Imports
import Typescribe.Proofs.Declaration.Interface
import Typescribe.Proofs.Declaration.Key
import Typescribe.Proofs.Declaration.Leniency
import Typescribe.Proofs.Declaration.LiteralUnion
import Typescribe.Proofs.Declaration.Member
import Typescribe.Proofs.Declaration.Order
import Typescribe.Proofs.Declaration.Reading
import Typescribe.Proofs.Declaration.Reference
import Typescribe.Proofs.Declaration.Relation
import Typescribe.Proofs.Declaration.Resolution
import Typescribe.Proofs.Declaration.Targets
import Typescribe.Proofs.Declaration.Union
import Typescribe.Proofs.Declaration.UnionNormalForm
import Typescribe.Proofs.Declaration.WithoutSystem
import Typescribe.Proofs.Files.Ending
import Typescribe.Proofs.Files.Generated
import Typescribe.Proofs.Files.Growth
import Typescribe.Proofs.Files.Path
import Typescribe.Proofs.Files.Tree
import Typescribe.Proofs.Files.Way
import Typescribe.Proofs.Files.Writing
import Typescribe.Proofs.Json.Data
import Typescribe.Proofs.Json.Reader
import Typescribe.Proofs.Json.Writer
import Typescribe.Proofs.Naming.ClassName
import Typescribe.Proofs.Naming.Literal
import Typescribe.Proofs.Naming.PropertyKey
import Typescribe.Proofs.Naming.Segments
import Typescribe.Proofs.Naming.Singular
import Typescribe.Proofs.Naming.SingularForm
import Typescribe.Proofs.Ordered
import Typescribe.Proofs.Rest.Address
import Typescribe.Proofs.Rest.Client
import Typescribe.Proofs.Rest.Path
import Typescribe.Proofs.Schema.Validation
import Typescribe.Proofs.Snapshot.ChoiceData
import Typescribe.Proofs.Snapshot.Contents
import Typescribe.Proofs.Snapshot.Document
import Typescribe.Proofs.Snapshot.Loading
import Typescribe.Proofs.Snapshot.Options
import Typescribe.Proofs.Snapshot.Regular
import Typescribe.Proofs.Snapshot.Special
import Typescribe.Proofs.Snapshot.WrittenOptions
import Typescribe.Proofs.Step
import Typescribe.Proofs.Text.Ascii
import Typescribe.Proofs.Text.Blank
import Typescribe.Proofs.Text.Hex
import Typescribe.Proofs.Text.Lines
import Typescribe.Proofs.Text.Split
import Typescribe.Rest.Address
import Typescribe.Rest.Client
import Typescribe.Rest.Transport
import Typescribe.Schema.Basic
import Typescribe.Schema.Validation
import Typescribe.Settings.Basic
import Typescribe.Settings.EnvironmentFile
import Typescribe.Snapshot.Document
import Typescribe.Snapshot.Loading
import Typescribe.Snapshot.Options
import Typescribe.Snapshot.Special
import Typescribe.Step
import Typescribe.Text.Base64
import Typescribe.Text.Blank
import Typescribe.Text.CodePoint
import Typescribe.Text.Digit
import Typescribe.Text.Hex
import Typescribe.Text.Lines
import Typescribe.Text.LowerCase
import Typescribe.Text.LowerCaseTable
import Typescribe.Text.Percent
import Typescribe.Text.PrintableTable
import Typescribe.Text.Quoted
import Typescribe.Text.Ranges
import Typescribe.Text.Split
import Typescribe.Text.Surrogate
import Typescribe.Text.UpperCase
import Typescribe.Text.UpperCaseTable
import Typescribe.Text.Utf8
import Typescribe.Text.Word
import Typescribe.Text.WordTable
import Typescribe.Value.Basic
import Typescribe.Value.Display
import Typescribe.Value.Loop
import Typescribe.Value.Probe
import Typescribe.Yaml.Base64
import Typescribe.Yaml.Builder
import Typescribe.Yaml.Composition
import Typescribe.Yaml.Cursor
import Typescribe.Yaml.Graph
import Typescribe.Yaml.Key
import Typescribe.Yaml.Lexer
import Typescribe.Yaml.Number
import Typescribe.Yaml.Reader
import Typescribe.Yaml.Scalar
import Typescribe.Yaml.Tag
import Typescribe.Yaml.Timestamp
import Typescribe.Yaml.Token
