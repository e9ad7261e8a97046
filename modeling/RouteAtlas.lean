import RouteAtlas.Annotation.Expression
import RouteAtlas.Annotation.Meaning
import RouteAtlas.Annotation.Scope
import RouteAtlas.Annotation.Token
import RouteAtlas.Command.Build
import RouteAtlas.Command.Course
import RouteAtlas.Command.Inspect
import RouteAtlas.Command.Invocation
import RouteAtlas.Command.Line
import RouteAtlas.Command.Run
import RouteAtlas.Config.Basic
import RouteAtlas.Config.Layers
import RouteAtlas.Console.Basic
import RouteAtlas.Console.Colour
import RouteAtlas.Console.ColourTable
import RouteAtlas.Console.Columns
import RouteAtlas.Console.Emoji
import RouteAtlas.Console.EmojiTable
import RouteAtlas.Console.Glyph
import RouteAtlas.Console.Handler
import RouteAtlas.Console.Layout
import RouteAtlas.Console.Markup
import RouteAtlas.Console.Style
import RouteAtlas.Console.Table
import RouteAtlas.Console.Theme
import RouteAtlas.Decimal.Notation
import RouteAtlas.Decimal.Reader
import RouteAtlas.Decimal.Shortest
import RouteAtlas.Document.Basic
import RouteAtlas.Document.Build
import RouteAtlas.Document.Checked
import RouteAtlas.Document.Decode
import RouteAtlas.Document.Dump
import RouteAtlas.Document.Encode
import RouteAtlas.Document.Journal
import RouteAtlas.Document.Load
import RouteAtlas.Document.Operation
import RouteAtlas.ExitCode
import RouteAtlas.Fault
import RouteAtlas.FilePath
import RouteAtlas.FileTree
import RouteAtlas.Json.Reader
import RouteAtlas.Json.Writer
import RouteAtlas.LogEntry
import RouteAtlas.Main
import RouteAtlas.Module.Basic
import RouteAtlas.Module.Load
import RouteAtlas.Module.Member
import RouteAtlas.Module.Method
import RouteAtlas.Module.Parts
import RouteAtlas.Named
import RouteAtlas.Proofs.Branches
import RouteAtlas.Proofs.BuildSteps
import RouteAtlas.Proofs.Collisions
import RouteAtlas.Proofs.Coverage
import RouteAtlas.Proofs.DefinitionFold
import RouteAtlas.Proofs.DocumentRoundTrip
import RouteAtlas.Proofs.EncodedFields
import RouteAtlas.Proofs.FileContent
import RouteAtlas.Proofs.JsonRoundTrip
import RouteAtlas.Proofs.JsonScalars
import RouteAtlas.Proofs.LastWriter
import RouteAtlas.Proofs.Mentions
import RouteAtlas.Proofs.NamedEntries
import RouteAtlas.Proofs.PathFold
import RouteAtlas.Proofs.PlainValues
import RouteAtlas.Proofs.ProperUnions
import RouteAtlas.Proofs.PropertyRoundTrip
import RouteAtlas.Proofs.References
import RouteAtlas.Proofs.Reload
import RouteAtlas.Proofs.Resume
import RouteAtlas.Proofs.RewrittenBuild
import RouteAtlas.Proofs.RuleRewriting
import RouteAtlas.Proofs.StoredForm
import RouteAtlas.Proofs.StrictBuild
import RouteAtlas.Replacing
import RouteAtlas.Rounding
import RouteAtlas.Route.Action
import RouteAtlas.Route.Datum
import RouteAtlas.Route.Journal
import RouteAtlas.Route.Linear
import RouteAtlas.Route.Parameter
import RouteAtlas.Route.Path
import RouteAtlas.Route.Render
import RouteAtlas.Route.Status
import RouteAtlas.Route.Verb
import RouteAtlas.Schema.Basic
import RouteAtlas.Schema.Collect
import RouteAtlas.Schema.Describe
import RouteAtlas.Schema.Formats
import RouteAtlas.Schema.Journal
import RouteAtlas.Template
import RouteAtlas.Text.Blank
import RouteAtlas.Text.Case
import RouteAtlas.Text.CaseTable
import RouteAtlas.Text.Identifier
import RouteAtlas.Text.IdentifierTable
import RouteAtlas.Text.Integer
import RouteAtlas.Text.Lines
import RouteAtlas.Text.PrintableTable
import RouteAtlas.Text.Quoted
import RouteAtlas.Text.Split
import RouteAtlas.Text.Utf8
import RouteAtlas.Text.Width
import RouteAtlas.Text.WidthTable
import RouteAtlas.Type.Basic
import RouteAtlas.Type.CallFault
import RouteAtlas.Type.Class
import RouteAtlas.Type.DataType
import RouteAtlas.Type.Fault
import RouteAtlas.Type.Field
import RouteAtlas.Type.Instance
import RouteAtlas.Type.Name
import RouteAtlas.Type.Question
import RouteAtlas.Type.Subscript
import RouteAtlas.Type.Union
import RouteAtlas.Value.Basic
import RouteAtlas.Value.Calendar
import RouteAtlas.Value.IsoMoment
import RouteAtlas.Value.Member
import RouteAtlas.Value.Operator
import RouteAtlas.Value.Scatter
import RouteAtlas.Value.Text
import RouteAtlas.Value.Whole
import RouteAtlas.Yaml.Cursor
import RouteAtlas.Yaml.Data
import RouteAtlas.Yaml.Error
import RouteAtlas.Yaml.Node
import RouteAtlas.Yaml.Scalar
import RouteAtlas.Yaml.Staged
import RouteAtlas.Yaml.Style
import RouteAtlas.Yaml.Token
import RouteAtlas.Yaml.Token.Block
import RouteAtlas.Yaml.Token.Lexer
import RouteAtlas.Yaml.Token.Plain
import RouteAtlas.Yaml.Token.Property
import RouteAtlas.Yaml.Token.Quoted
import RouteAtlas.Yaml.Writer
import RouteAtlas.Proofs.LeafPlaces
import RouteAtlas.Proofs.ActionOrder
import RouteAtlas.Proofs.RepeatedMerge
import RouteAtlas.Proofs.NameHolder
import RouteAtlas.Proofs.DepthFirst
import RouteAtlas.Proofs.DataKinds
import RouteAtlas.Proofs.BodySchemas
import RouteAtlas.Proofs.ParameterLists
import RouteAtlas.Proofs.SummarySearch
import RouteAtlas.Proofs.TemplateSegments
import RouteAtlas.Proofs.PathCaptures
import RouteAtlas.Proofs.TemplateForm
import RouteAtlas.Proofs.FileFaults
import RouteAtlas.Proofs.ReplacedFile
import RouteAtlas.Proofs.WrittenFile
import RouteAtlas.Proofs.Transcripts
import RouteAtlas.Proofs.SettingLayers
import RouteAtlas.Proofs.DumpedText
import RouteAtlas.Proofs.ShownMessages
import RouteAtlas.Proofs.BuildCommand
import RouteAtlas.Proofs.SeparateAlternatives
import RouteAtlas.Proofs.ReadTogether
import RouteAtlas.Proofs.Respelling
import RouteAtlas.Proofs.FieldFallback
import RouteAtlas.Proofs.MaskedSettings
import RouteAtlas.Proofs.Separators
import RouteAtlas.Proofs.TabbedRows
import RouteAtlas.Proofs.InspectListing
import RouteAtlas.Proofs.WrittenDescriptions
