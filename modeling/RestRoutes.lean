import RestRoutes.Api.Builder
import RestRoutes.Api.Listing
import RestRoutes.Api.Method
import RestRoutes.Api.Operation
import RestRoutes.Api.Schema
import RestRoutes.Assoc
import RestRoutes.Calendar
import RestRoutes.CommandLine.Execution
import RestRoutes.CommandLine.Invocation
import RestRoutes.CommandLine.Scan
import RestRoutes.Console
import RestRoutes.Descriptor
import RestRoutes.Destination
import RestRoutes.Document
import RestRoutes.Document.Source
import RestRoutes.Event.Argument
import RestRoutes.Failure
import RestRoutes.File
import RestRoutes.File.Path
import RestRoutes.File.Tree
import RestRoutes.Filter
import RestRoutes.Generate
import RestRoutes.Json.Fault
import RestRoutes.Json.Reader
import RestRoutes.Json.Writer
import RestRoutes.Log
import RestRoutes.Machine
import RestRoutes.Main
import RestRoutes.Number.Binary64
import RestRoutes.Number.Digits
import RestRoutes.Pattern.CharSet
import RestRoutes.Pattern.Glob
import RestRoutes.Pattern.Regex
import RestRoutes.Pattern.RegexReader
import RestRoutes.Proofs.Api.Account
import RestRoutes.Proofs.Api.Agreement
import RestRoutes.Proofs.Api.Alike
import RestRoutes.Proofs.Api.Bilingual
import RestRoutes.Proofs.Api.Builder
import RestRoutes.Proofs.Api.Listing
import RestRoutes.Proofs.Api.Merge
import RestRoutes.Proofs.Api.Schema
import RestRoutes.Proofs.Assoc
import RestRoutes.Proofs.CommandLine.Execution
import RestRoutes.Proofs.CommandLine.Listing
import RestRoutes.Proofs.CommandLine.Loading
import RestRoutes.Proofs.CommandLine.Presentation
import RestRoutes.Proofs.Console
import RestRoutes.Proofs.Descriptor
import RestRoutes.Proofs.Destination
import RestRoutes.Proofs.Destination.Slug
import RestRoutes.Proofs.Destination.Template
import RestRoutes.Proofs.Document.Loading
import RestRoutes.Proofs.Event.Vocabulary
import RestRoutes.Proofs.File.Tree
import RestRoutes.Proofs.Filter
import RestRoutes.Proofs.Filter.Answers
import RestRoutes.Proofs.Generate.Passages
import RestRoutes.Proofs.Generate.Preamble
import RestRoutes.Proofs.Generate.Report
import RestRoutes.Proofs.Generate.Resuming
import RestRoutes.Proofs.Generate.Staging
import RestRoutes.Proofs.Generate.Unread
import RestRoutes.Proofs.Json.LongInteger
import RestRoutes.Proofs.Json.Quote
import RestRoutes.Proofs.Json.ReadBack
import RestRoutes.Proofs.Json.Reader
import RestRoutes.Proofs.Machine
import RestRoutes.Proofs.Run
import RestRoutes.Proofs.Run.Agreement
import RestRoutes.Proofs.Settings.Precedence
import RestRoutes.Proofs.Settings.Refusing
import RestRoutes.Proofs.Settings.Ungiven
import RestRoutes.Proofs.Sink.Building
import RestRoutes.Proofs.Sink.Growth
import RestRoutes.Proofs.Sink.Layout
import RestRoutes.Proofs.Sink.Lines
import RestRoutes.Proofs.Sink.Reading
import RestRoutes.Proofs.Sink.Route
import RestRoutes.Proofs.Sink.Source
import RestRoutes.Proofs.Text.Split
import RestRoutes.Proofs.Text.Utf8
import RestRoutes.Proofs.Value
import RestRoutes.Proofs.Value.Text
import RestRoutes.Proofs.Visit
import RestRoutes.Proofs.Visit.Bilingual
import RestRoutes.Proofs.Visit.Blank
import RestRoutes.Proofs.Visit.Blind
import RestRoutes.Proofs.Visit.Body
import RestRoutes.Proofs.Visit.Grammar
import RestRoutes.Proofs.Visit.Log
import RestRoutes.Proofs.Visit.Nullable
import RestRoutes.Proofs.Visit.Outline
import RestRoutes.Proofs.Visit.Stopping
import RestRoutes.Proofs.Yaml.Lexer
import RestRoutes.Proofs.Yaml.Node
import RestRoutes.Proofs.Yaml.Reader
import RestRoutes.Run
import RestRoutes.Settings
import RestRoutes.Settings.Layers
import RestRoutes.Sink.Format
import RestRoutes.Sink.Records
import RestRoutes.Sink.Route
import RestRoutes.Sink.Source
import RestRoutes.Text.Blank
import RestRoutes.Text.Case
import RestRoutes.Text.Digit
import RestRoutes.Text.Hex
import RestRoutes.Text.Identifier
import RestRoutes.Text.Literal
import RestRoutes.Text.Name
import RestRoutes.Text.Newline
import RestRoutes.Text.Printable
import RestRoutes.Text.Ranges
import RestRoutes.Text.Split
import RestRoutes.Text.Utf8
import RestRoutes.Text.Word
import RestRoutes.Url.Address
import RestRoutes.Url.Path
import RestRoutes.Value
import RestRoutes.Value.Text
import RestRoutes.Visit
import RestRoutes.Yaml.Cursor
import RestRoutes.Yaml.Error
import RestRoutes.Yaml.Lexeme
import RestRoutes.Yaml.Lexer
import RestRoutes.Yaml.Node
import RestRoutes.Yaml.Reader
import RestRoutes.Yaml.Scalar
import RestRoutes.Yaml.Tag
import RestRoutes.Yaml.Token
import RestRoutes.Yaml.Writer
