import Interview.Base64
import Interview.Calendar
import Interview.CommandLine.Arguments
import Interview.CommandLine.Log
import Interview.CommandLine.Run
import Interview.Decimal.Layout
import Interview.Decimal.Magnitude
import Interview.Decimal.Nearest
import Interview.Decimal.Numeral
import Interview.Decimal.Shortest
import Interview.Digest
import Interview.Document.Compile
import Interview.Document.Header
import Interview.Document.Outline
import Interview.Document.Problem
import Interview.Document.Question
import Interview.Document.Rule
import Interview.Document.Slug
import Interview.Entries
import Interview.Environment
import Interview.Files.Path
import Interview.Files.Tree
import Interview.Json.Writer
import Interview.Main
import Interview.Persona
import Interview.Prompt.Context
import Interview.Prompt.Question
import Interview.Prompt.Wording
import Interview.Proofs.CommandLine.Batch
import Interview.Proofs.CommandLine.Options
import Interview.Proofs.CommandLine.Printed
import Interview.Proofs.Document.Account
import Interview.Proofs.Document.Arrangement
import Interview.Proofs.Document.Assembly
import Interview.Proofs.Document.Bullet
import Interview.Proofs.Document.Compile
import Interview.Proofs.Document.Digest
import Interview.Proofs.Document.Division
import Interview.Proofs.Document.Header
import Interview.Proofs.Document.Kept
import Interview.Proofs.Document.LineEnd
import Interview.Proofs.Document.Naming
import Interview.Proofs.Document.Normal
import Interview.Proofs.Document.Outcome
import Interview.Proofs.Document.Outline
import Interview.Proofs.Document.Preamble
import Interview.Proofs.Document.Reading
import Interview.Proofs.Document.Refusal
import Interview.Proofs.Document.Rule
import Interview.Proofs.Document.RuleLine
import Interview.Proofs.Document.RuleOrder
import Interview.Proofs.Document.Sheet
import Interview.Proofs.Document.Slug
import Interview.Proofs.Document.SlugForm
import Interview.Proofs.Document.Source
import Interview.Proofs.Document.Style
import Interview.Proofs.Document.Word
import Interview.Proofs.Document.Written
import Interview.Proofs.Files.Directory
import Interview.Proofs.Prompt.Layout
import Interview.Proofs.Prompt.Lines
import Interview.Proofs.Prompt.Outcome
import Interview.Proofs.Prompt.Record
import Interview.Proofs.Prompt.Rendering
import Interview.Proofs.Prompt.Stencil
import Interview.Proofs.Protocol.Loading
import Interview.Proofs.Protocol.Order
import Interview.Proofs.Protocol.Override
import Interview.Proofs.Protocol.RuleOrder
import Interview.Proofs.Protocol.Spelling
import Interview.Proofs.Registry.Acceptance
import Interview.Proofs.Registry.Directory
import Interview.Proofs.Registry.Log
import Interview.Proofs.Registry.Validation
import Interview.Proofs.Registry.Version
import Interview.Proofs.Session.Advance
import Interview.Proofs.Session.Attempt
import Interview.Proofs.Session.Call
import Interview.Proofs.Session.Coverage
import Interview.Proofs.Session.Decision
import Interview.Proofs.Session.Forward
import Interview.Proofs.Session.FreeTraversal
import Interview.Proofs.Session.Guidance
import Interview.Proofs.Session.Limits
import Interview.Proofs.Session.Log
import Interview.Proofs.Session.Position
import Interview.Proofs.Session.Progress
import Interview.Proofs.Session.Reorder
import Interview.Proofs.Session.Strict
import Interview.Proofs.Session.Traversal
import Interview.Proofs.Session.Views
import Interview.Proofs.Template.Record
import Interview.Proofs.Template.Soundness
import Interview.Proofs.Template.Structure
import Interview.Proofs.Text.Line
import Interview.Proofs.Text.Lower
import Interview.Proofs.Text.Margin
import Interview.Proofs.Text.Order
import Interview.Proofs.Text.Trim
import Interview.Proofs.Value.Entries
import Interview.Proofs.Value.Finite
import Interview.Proofs.Value.Numeral
import Interview.Proofs.Value.Tidy
import Interview.Proofs.Value.Whole
import Interview.Proofs.Yaml.Content
import Interview.Proofs.Yaml.Cursor
import Interview.Proofs.Yaml.Field
import Interview.Proofs.Yaml.Grammar
import Interview.Proofs.Yaml.Number
import Interview.Proofs.Yaml.Scan
import Interview.Proofs.Yaml.Sheet
import Interview.Proofs.Yaml.Stage
import Interview.Proofs.Yaml.Step
import Interview.Proofs.Yaml.Verbatim
import Interview.Proofs.Yaml.Word
import Interview.Protocol.Basic
import Interview.Protocol.Defaults
import Interview.Protocol.FieldName
import Interview.Protocol.File
import Interview.Protocol.Override
import Interview.Question
import Interview.Record.Fault
import Interview.Record.Field
import Interview.Record.Read
import Interview.Record.Scalar
import Interview.Record.Write
import Interview.Registry
import Interview.Session.Basic
import Interview.Session.Progress
import Interview.Session.Step
import Interview.Shipped
import Interview.Template.Basic
import Interview.Template.Draft
import Interview.Template.Problem
import Interview.Text.Blank
import Interview.Text.CaseTable
import Interview.Text.Digit
import Interview.Text.Line
import Interview.Text.Lower
import Interview.Text.PrintableTable
import Interview.Text.Quoted
import Interview.Value.Basic
import Interview.Value.Display
import Interview.Yaml.Content
import Interview.Yaml.Cursor
import Interview.Yaml.Fault
import Interview.Yaml.Node.Basic
import Interview.Yaml.Node.Grammar
import Interview.Yaml.Scalar
import Interview.Yaml.Tag
import Interview.Yaml.Token.Basic
import Interview.Yaml.Token.Lexer
import Interview.Yaml.Token.Name
import Interview.Yaml.Token.Scalar
