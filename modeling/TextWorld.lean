import TextWorld.Command.Basic
import TextWorld.Command.Parser
import TextWorld.Command.Token
import TextWorld.Command.Vocabulary
import TextWorld.CommandLine
import TextWorld.Console.Basic
import TextWorld.Console.Editor
import TextWorld.Console.Highlight
import TextWorld.Console.Input
import TextWorld.Demo
import TextWorld.Entity.Basic
import TextWorld.Entity.Id
import TextWorld.Entity.Json
import TextWorld.Entity.Parse
import TextWorld.Failure.Basic
import TextWorld.Failure.Report
import TextWorld.Invocation
import TextWorld.Json.Mistake
import TextWorld.Json.Numeral
import TextWorld.Json.Quote
import TextWorld.Json.StringReader
import TextWorld.Json.Tree
import TextWorld.Literal
import TextWorld.Main
import TextWorld.Number.Binary64
import TextWorld.Number.Power
import TextWorld.Number.Shortest
import TextWorld.Session.Basic
import TextWorld.Session.Collaborators
import TextWorld.Session.Config
import TextWorld.Session.Disclosure
import TextWorld.Session.Dispatch
import TextWorld.Session.Disposition
import TextWorld.Session.Event
import TextWorld.Session.Log
import TextWorld.Session.Prompted
import TextWorld.Session.Registry
import TextWorld.Session.Sink
import TextWorld.Session.Style
import TextWorld.Snippet
import TextWorld.Table
import TextWorld.Text.Alphanumeric
import TextWorld.Text.Blank
import TextWorld.Text.Bytes
import TextWorld.Text.Decimal
import TextWorld.Text.Grapheme
import TextWorld.Text.GraphemeClass
import TextWorld.Text.Hexadecimal
import TextWorld.Text.Lowercase
import TextWorld.Text.Quoted
import TextWorld.Text.Ranges
import TextWorld.Text.Search
import TextWorld.Text.Visible
import TextWorld.Value.Basic
import TextWorld.Value.Display
import TextWorld.Value.Members
import TextWorld.Value.OfJson
import TextWorld.Value.Text
import TextWorld.World.Basic
import TextWorld.World.Matching
import TextWorld.World.Routine
import TextWorld.World.Run
import TextWorld.World.Script
import TextWorld.World.Verb
import TextWorld.Proofs.Literal.RoundTrip
import TextWorld.Proofs.Invocation.RoundTrip
import TextWorld.Proofs.World.CodeRouting
import TextWorld.Proofs.Session.Calls
import TextWorld.Proofs.Session.Confinement
import TextWorld.Proofs.Session.Protocol
import TextWorld.Proofs.Session.Acts
import TextWorld.Proofs.Session.Nondisclosure
import TextWorld.Proofs.World.Reachable
import TextWorld.Proofs.World.VerbSearch
import TextWorld.Proofs.Session.Boundary
import TextWorld.Proofs.Session.Retirement
import TextWorld.Proofs.World.Containment
import TextWorld.Proofs.Entity.Grammar
import TextWorld.Proofs.Literal.Grammar
import TextWorld.Proofs.Session.Sharing
import TextWorld.Proofs.World.Nesting
import TextWorld.Proofs.Invocation.Grammar
import TextWorld.Proofs.Snippet.Lines
import TextWorld.Proofs.Snippet.Literal
import TextWorld.Proofs.Text.Marks
import TextWorld.Proofs.Demo.Evaluation
import TextWorld.Proofs.Command.Words
import TextWorld.Proofs.Command.Parts
import TextWorld.Proofs.Snippet.Brackets
import TextWorld.Proofs.Snippet.Division
import TextWorld.Proofs.Snippet.Enclosure
import TextWorld.Proofs.Session.Preprocessing
import TextWorld.Proofs.Command.Quoting
import TextWorld.Proofs.Command.Selection
import TextWorld.Proofs.Literal.Printable
import TextWorld.Proofs.Snippet.Lexemes
import TextWorld.Proofs.Snippet.NormalForm
import TextWorld.Proofs.World.Moving
import TextWorld.Proofs.World.Naming
import TextWorld.Proofs.Failure.Diagnostic
import TextWorld.Proofs.World.Attribution
import TextWorld.Proofs.World.Precedence
import TextWorld.Proofs.Demo.Identity
import TextWorld.Proofs.Value.Cut
import TextWorld.Proofs.Value.OneLine
import TextWorld.Proofs.Value.Pieces
import TextWorld.Proofs.Value.Unambiguous
import TextWorld.Proofs.Console.Running
import TextWorld.Proofs.Console.Styling
import TextWorld.Proofs.Console.Delivery
import TextWorld.Proofs.Demo.Map
import TextWorld.Proofs.Literal.Extent
import TextWorld.Proofs.Command.OwnWords
import TextWorld.Proofs.Entity.Reading
