import Mixfix.Binary64
import Mixfix.Binary64.Rounded
import Mixfix.Binary64.Shortest
import Mixfix.Cli.Command
import Mixfix.Cli.Console
import Mixfix.Cli.Options
import Mixfix.Cli.Report
import Mixfix.Cli.Shell
import Mixfix.Combinator
import Mixfix.Decimal
import Mixfix.Descriptor.Reader
import Mixfix.Descriptor.Shape
import Mixfix.Descriptor.Token
import Mixfix.Diagnostic
import Mixfix.Entries
import Mixfix.Eval
import Mixfix.Grammar
import Mixfix.Grammar.Builtin
import Mixfix.Host.Checker
import Mixfix.Host.Console
import Mixfix.Host.Domain
import Mixfix.Host.Domain.Address
import Mixfix.Host.Domain.Bidi
import Mixfix.Host.Domain.Label
import Mixfix.Host.Domain.Letter
import Mixfix.Host.Domain.Mapping
import Mixfix.Host.Domain.Punycode
import Mixfix.Host.Email
import Mixfix.Host.Email.Literal
import Mixfix.Host.Email.Parts
import Mixfix.Host.Email.Problem
import Mixfix.Host.Modules
import Mixfix.Host.Shell
import Mixfix.Host.Url
import Mixfix.Host.Url.Name
import Mixfix.Host.Yaml.Cursor
import Mixfix.Host.Yaml.Lexeme
import Mixfix.Host.Yaml.Node
import Mixfix.Host.Yaml.Number
import Mixfix.Host.Yaml.Reader
import Mixfix.Host.Yaml.Scalar
import Mixfix.Host.Yaml.Tag
import Mixfix.Host.Yaml.Writer
import Mixfix.Json.Quote
import Mixfix.Json.Reader
import Mixfix.Json.Writer
import Mixfix.Main
import Mixfix.Outcome
import Mixfix.Parse
import Mixfix.Parse.Engine
import Mixfix.Parse.Progress
import Mixfix.Parse.Terminal
import Mixfix.Proofs.Arithmetic
import Mixfix.Proofs.Arithmetic.Complete
import Mixfix.Proofs.Arithmetic.Evaluation
import Mixfix.Proofs.Arithmetic.Sound
import Mixfix.Proofs.Binary64
import Mixfix.Proofs.Binary64.Layout
import Mixfix.Proofs.Binary64.Order
import Mixfix.Proofs.Binary64.Shortest
import Mixfix.Proofs.Binary64.Sign
import Mixfix.Proofs.Cli.Eval
import Mixfix.Proofs.Cli.Job
import Mixfix.Proofs.Combinator
import Mixfix.Proofs.Combinator.Repetition
import Mixfix.Proofs.Decimal
import Mixfix.Proofs.Descriptor.Comparison
import Mixfix.Proofs.Descriptor.Complete
import Mixfix.Proofs.Descriptor.Failure
import Mixfix.Proofs.Descriptor.Grammar
import Mixfix.Proofs.Descriptor.Join
import Mixfix.Proofs.Descriptor.Literal
import Mixfix.Proofs.Descriptor.Primitive
import Mixfix.Proofs.Descriptor.Reader
import Mixfix.Proofs.Descriptor.Token
import Mixfix.Proofs.Diagnostic
import Mixfix.Proofs.Entries
import Mixfix.Proofs.Eval
import Mixfix.Proofs.Eval.Parsed
import Mixfix.Proofs.Except
import Mixfix.Proofs.Grammar
import Mixfix.Proofs.Grammar.Builtin
import Mixfix.Proofs.Grammar.Extension
import Mixfix.Proofs.Grammar.Partition
import Mixfix.Proofs.Host.Yaml.Apostrophes
import Mixfix.Proofs.Host.Yaml.Block
import Mixfix.Proofs.Host.Yaml.Cursor
import Mixfix.Proofs.Host.Yaml.Document
import Mixfix.Proofs.Host.Yaml.Number
import Mixfix.Proofs.Host.Yaml.Plain
import Mixfix.Proofs.Host.Yaml.QuotationMarks
import Mixfix.Proofs.Host.Yaml.Quoted
import Mixfix.Proofs.Host.Yaml.Roundtrip
import Mixfix.Proofs.Host.Yaml.Scalar
import Mixfix.Proofs.Host.Yaml.Scan
import Mixfix.Proofs.Host.Yaml.Writer
import Mixfix.Proofs.Json
import Mixfix.Proofs.Json.Double
import Mixfix.Proofs.Json.Roundtrip
import Mixfix.Proofs.Json.Scalar
import Mixfix.Proofs.Outcome
import Mixfix.Proofs.Parse.Atoms
import Mixfix.Proofs.Parse.Blanks
import Mixfix.Proofs.Parse.Calls
import Mixfix.Proofs.Parse.Closing
import Mixfix.Proofs.Parse.Enclosure
import Mixfix.Proofs.Parse.Extension
import Mixfix.Proofs.Parse.Forward
import Mixfix.Proofs.Parse.Infix
import Mixfix.Proofs.Parse.Interruption
import Mixfix.Proofs.Parse.Leaves
import Mixfix.Proofs.Parse.Memory
import Mixfix.Proofs.Parse.Names
import Mixfix.Proofs.Parse.Precedence
import Mixfix.Proofs.Parse.Reached
import Mixfix.Proofs.Parse.Recursion
import Mixfix.Proofs.Parse.Schemas
import Mixfix.Proofs.Parse.Simulation
import Mixfix.Proofs.Parse.Step
import Mixfix.Proofs.Parse.Terminal
import Mixfix.Proofs.Parse.Termination
import Mixfix.Proofs.Parse.Tracking
import Mixfix.Proofs.Parse.Words
import Mixfix.Proofs.Registry
import Mixfix.Proofs.Registry.Loading
import Mixfix.Proofs.Rule
import Mixfix.Proofs.Rule.Assembly
import Mixfix.Proofs.Session
import Mixfix.Proofs.Session.Task
import Mixfix.Proofs.Source
import Mixfix.Proofs.Source.Lines
import Mixfix.Proofs.Standard
import Mixfix.Proofs.Standard.Described
import Mixfix.Proofs.Standard.Operators
import Mixfix.Proofs.Standard.Parse
import Mixfix.Proofs.Standard.Result
import Mixfix.Proofs.Standard.Settled
import Mixfix.Proofs.Standard.Typed
import Mixfix.Proofs.Standard.Union
import Mixfix.Proofs.Text
import Mixfix.Proofs.Text.Sorted
import Mixfix.Proofs.Text.Split
import Mixfix.Proofs.Token
import Mixfix.Proofs.Token.Balanced
import Mixfix.Proofs.Token.Closing
import Mixfix.Proofs.Token.Escape
import Mixfix.Proofs.Token.Front
import Mixfix.Proofs.Token.Integer
import Mixfix.Proofs.Token.Lexeme
import Mixfix.Proofs.Token.Quotation
import Mixfix.Proofs.Token.Readable
import Mixfix.Proofs.Tree.Document
import Mixfix.Proofs.Tree.Parsed
import Mixfix.Proofs.Tree.Reserved
import Mixfix.Proofs.Tree.Source
import Mixfix.Proofs.Tree.Stability
import Mixfix.Proofs.Tree.Yaml
import Mixfix.Proofs.Validator
import Mixfix.Proofs.Validator.Compile
import Mixfix.Proofs.Validator.Compose
import Mixfix.Proofs.Validator.Length
import Mixfix.Proofs.Validator.Number
import Mixfix.Proofs.Validator.Pool
import Mixfix.Proofs.Validator.Verdict
import Mixfix.Proofs.Yaml
import Mixfix.Registry
import Mixfix.Registry.Builtin
import Mixfix.Registry.Task
import Mixfix.Rule
import Mixfix.Rule.Assembly
import Mixfix.Rule.Callbacks
import Mixfix.Rule.Definition
import Mixfix.Session
import Mixfix.Session.Task
import Mixfix.Settings
import Mixfix.Source
import Mixfix.Template
import Mixfix.Template.Conversion
import Mixfix.Template.Fill
import Mixfix.Text
import Mixfix.Text.Direction
import Mixfix.Text.Escape
import Mixfix.Text.Joining
import Mixfix.Text.Name
import Mixfix.Text.Printable
import Mixfix.Text.Quoted
import Mixfix.Text.Similar
import Mixfix.Text.Table
import Mixfix.Text.Utf8
import Mixfix.Token
import Mixfix.Tree.Document
import Mixfix.Tree.Formats
import Mixfix.Validator
import Mixfix.Validator.Pool
import Mixfix.Value
import Mixfix.Value.Arithmetic
import Mixfix.Value.Compare
import Mixfix.Value.Display
import Mixfix.Yaml
