import CodeJudge.Arithmetic
import CodeJudge.Binary64
import CodeJudge.Binary64.Reader
import CodeJudge.Binary64.Shortest
import CodeJudge.Binary64.Text
import CodeJudge.Blake3
import CodeJudge.CommandLine.Argument
import CodeJudge.CommandLine.Command
import CodeJudge.CommandLine.Options
import CodeJudge.CommandLine.Run
import CodeJudge.Diagnostic
import CodeJudge.Diagnostic.Classification
import CodeJudge.Diagnostic.Compilation
import CodeJudge.Diagnostic.Crash
import CodeJudge.Diagnostic.Location
import CodeJudge.Diagnostic.Rule
import CodeJudge.Driver.Cpp
import CodeJudge.Driver.Java
import CodeJudge.Driver.Loop
import CodeJudge.Format.BaseType
import CodeJudge.Format.Spec
import CodeJudge.Format.TypeName
import CodeJudge.Json.Decode
import CodeJudge.Json.Document
import CodeJudge.Json.Outline
import CodeJudge.Json.Printer
import CodeJudge.Json.Reader
import CodeJudge.Json.Value
import CodeJudge.Literal.Coercion
import CodeJudge.Literal.Cpp
import CodeJudge.Literal.Java
import CodeJudge.Main
import CodeJudge.Outcome
import CodeJudge.Plan.Basic
import CodeJudge.Plan.VariableName
import CodeJudge.Presentation
import CodeJudge.Presentation.Message
import CodeJudge.Problem
import CodeJudge.Problem.Formats
import CodeJudge.Program
import CodeJudge.Program.Generate
import CodeJudge.Record
import CodeJudge.Record.Reader
import CodeJudge.Registry.Basic
import CodeJudge.Registry.Support
import CodeJudge.Report
import CodeJudge.Scalar
import CodeJudge.Settings
import CodeJudge.Solution
import CodeJudge.Solution.Java
import CodeJudge.Starter
import CodeJudge.Strategy.Basic
import CodeJudge.Strategy.Fragment
import CodeJudge.Target
import CodeJudge.Template.Basic
import CodeJudge.Template.BuiltIn
import CodeJudge.Template.Cpp
import CodeJudge.Template.Java
import CodeJudge.Template.Javascript
import CodeJudge.Template.Library
import CodeJudge.Template.Python
import CodeJudge.Template.Reader
import CodeJudge.TestCase
import CodeJudge.Text.Blank
import CodeJudge.Text.Lines
import CodeJudge.Text.Lower
import CodeJudge.Text.Pattern
import CodeJudge.Text.Quoted
import CodeJudge.Text.Replace
import CodeJudge.Text.Word
import CodeJudge.Yaml.Cursor
import CodeJudge.Yaml.Node
import CodeJudge.Yaml.Node.Reader
import CodeJudge.Yaml.Number
import CodeJudge.Yaml.Token
import CodeJudge.Yaml.Token.Lexer
import CodeJudge.Yaml.Token.Scalar
import CodeJudge.Proofs.Json.Balance
import CodeJudge.Proofs.Json.Reading
import CodeJudge.Proofs.Json.RoundTrip
import CodeJudge.Proofs.Record.Text
import CodeJudge.Proofs.Json.Written
import CodeJudge.Proofs.Record.Output
import CodeJudge.Proofs.Record.Truncation
import CodeJudge.Proofs.Program.Layout
import CodeJudge.Proofs.Program.Sections
import CodeJudge.Proofs.Diagnostic.Location
import CodeJudge.Proofs.Solution.Java
import CodeJudge.Proofs.Template.Render
import CodeJudge.Proofs.Program.Generate
import CodeJudge.Proofs.Program.Mapping
import CodeJudge.Proofs.Json.Visible
import CodeJudge.Proofs.Json.Strings
import CodeJudge.Proofs.Format.TypeName
import CodeJudge.Proofs.Format.Spec
import CodeJudge.Proofs.Problem.Places
import CodeJudge.Proofs.Problem.TypeNames
import CodeJudge.Proofs.Problem.Described
import CodeJudge.Proofs.Registry.Support
import CodeJudge.Proofs.Plan.Faults
import CodeJudge.Proofs.Text.Delimited
import CodeJudge.Proofs.Plan.Starter
import CodeJudge.Proofs.Program.Skeleton
import CodeJudge.Proofs.Json.Equality
import CodeJudge.Proofs.Record.Reconciliation
import CodeJudge.Proofs.Report.Batch
import CodeJudge.Proofs.Report.Reconciled
import CodeJudge.Proofs.Literal.Escape
import CodeJudge.Proofs.Literal.Cpp
import CodeJudge.Proofs.Literal.Java
import CodeJudge.Proofs.Text.Scan
import CodeJudge.Proofs.Literal.Printable
import CodeJudge.Proofs.Strategy.Fragment
import CodeJudge.Proofs.Driver.Cpp
import CodeJudge.Proofs.Driver.Java
import CodeJudge.Proofs.Program.Outline
import CodeJudge.Proofs.Plan.Variables
import CodeJudge.Proofs.Strategy.Expression
import CodeJudge.Proofs.Plan.Shadowing
import CodeJudge.Proofs.Text.Tidy
import CodeJudge.Proofs.Program.Frame
import CodeJudge.Proofs.Json.Integers
import CodeJudge.Proofs.Literal.Python
import CodeJudge.Proofs.Program.TestData
import CodeJudge.Proofs.Literal.ReadBack
import CodeJudge.Proofs.Literal.Distinct
import CodeJudge.Proofs.Scalar.Resolution
import CodeJudge.Proofs.Literal.Inferred
import CodeJudge.Proofs.Json.Arrangement
import CodeJudge.Proofs.Diagnostic.Json
import CodeJudge.Proofs.Report.Outcome
import CodeJudge.Proofs.Report.RoundTrip
import CodeJudge.Proofs.Literal.WellFormed
import CodeJudge.Proofs.Problem.Structured
import CodeJudge.Proofs.Problem.Encoded
import CodeJudge.Proofs.Format.Spelling
import CodeJudge.Proofs.Diagnostic.Rule
import CodeJudge.Proofs.Diagnostic.Window
import CodeJudge.Proofs.Text.Replace
import CodeJudge.Proofs.Diagnostic.Filling
import CodeJudge.Proofs.Diagnostic.Placeholder
import CodeJudge.Proofs.Diagnostic.Taxonomy
import CodeJudge.Proofs.Presentation.Message
import CodeJudge.Proofs.Presentation.Agreement
import CodeJudge.Proofs.Text.Number
import CodeJudge.Proofs.Diagnostic.Bounds
import CodeJudge.Proofs.Driver.Release
import CodeJudge.Proofs.Text.Matching
import CodeJudge.Proofs.Solution.Declaration
import CodeJudge.Proofs.Solution.Import
import CodeJudge.Proofs.Program.Comment
import CodeJudge.Proofs.Solution.Hidden
import CodeJudge.Proofs.Solution.Body
import CodeJudge.Proofs.Solution.Hoisted
import CodeJudge.Proofs.Program.Imports
import CodeJudge.Proofs.Program.Split
import CodeJudge.Proofs.Binary64.Rounding
import CodeJudge.Proofs.Binary64.Shortest
import CodeJudge.Proofs.Binary64.Numeral
import CodeJudge.Proofs.Registry.Reached
import CodeJudge.Proofs.Report.Kept
import CodeJudge.Proofs.Settings.Accepted
import CodeJudge.Proofs.Settings.Window
import CodeJudge.Proofs.Settings.Tolerance
import CodeJudge.Proofs.Plan.Keywords
import CodeJudge.Proofs.Format.NameList
import CodeJudge.Proofs.Text.BlankLines
import CodeJudge.Proofs.Text.Occurrence
import CodeJudge.Proofs.Diagnostic.Mention
