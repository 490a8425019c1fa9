import Componentry.Command.Arguments
import Componentry.Command.Outcome
import Componentry.Command.Run
import Componentry.Command.Screen
import Componentry.Command.Words
import Componentry.Component.Assembler
import Componentry.Component.Definition
import Componentry.Component.Diagnostic
import Componentry.Component.Handler
import Componentry.Component.Options
import Componentry.Component.Props
import Componentry.Component.Reader
import Componentry.Double.Basic
import Componentry.Double.Shortest
import Componentry.Double.Written
import Componentry.Failure
import Componentry.Files.Path
import Componentry.Files.SystemError
import Componentry.Files.Tree
import Componentry.Generation.Formatting
import Componentry.Generation.Generator
import Componentry.Generation.Report
import Componentry.Json.Complaint
import Componentry.Json.Reader
import Componentry.Json.Writer
import Componentry.Loading.Address
import Componentry.Loading.Load
import Componentry.Loading.Url
import Componentry.Log.Record
import Componentry.Log.Setup
import Componentry.Main
import Componentry.Naming.Identifier
import Componentry.Naming.Stem
import Componentry.Program.Machine
import Componentry.Program.Template.Escape
import Componentry.Program.Template.Expression
import Componentry.Program.Template.Member
import Componentry.Program.Template.Part
import Componentry.Program.Template.Problem
import Componentry.Program.Template.Render
import Componentry.Program.Template.Renderer
import Componentry.Program.Template.Scope
import Componentry.Program.Template.Source
import Componentry.Program.Template.Token
import Componentry.Program.Terminal.Column
import Componentry.Program.Terminal.Emoji
import Componentry.Program.Terminal.Markup
import Componentry.Program.Terminal.Style
import Componentry.Proofs.Command.Contained
import Componentry.Proofs.Command.Delivered
import Componentry.Proofs.Command.Effective
import Componentry.Proofs.Command.Flags
import Componentry.Proofs.Component.Accounted
import Componentry.Proofs.Component.Bound
import Componentry.Proofs.Component.Declared
import Componentry.Proofs.Component.Described
import Componentry.Proofs.Component.Evaluated
import Componentry.Proofs.Component.Flawed
import Componentry.Proofs.Component.InitialState
import Componentry.Proofs.Component.Listed
import Componentry.Proofs.Component.Placed
import Componentry.Proofs.Component.Plain
import Componentry.Proofs.Component.Preserved
import Componentry.Proofs.Component.PropMembers
import Componentry.Proofs.Component.ReadBack
import Componentry.Proofs.Component.Reported
import Componentry.Proofs.Component.Reuse
import Componentry.Proofs.Component.Running
import Componentry.Proofs.Component.Separate
import Componentry.Proofs.Component.Typed
import Componentry.Proofs.Double.Characters
import Componentry.Proofs.Files.Reached
import Componentry.Proofs.Files.Written
import Componentry.Proofs.Generation.Canonical
import Componentry.Proofs.Generation.Commented
import Componentry.Proofs.Generation.Enclosed
import Componentry.Proofs.Generation.Formatted
import Componentry.Proofs.Generation.History
import Componentry.Proofs.Generation.Outcome
import Componentry.Proofs.Generation.Produced
import Componentry.Proofs.Generation.Unaltered
import Componentry.Proofs.Generation.Unsupported
import Componentry.Proofs.Json.Complete
import Componentry.Proofs.Json.LineEnds
import Componentry.Proofs.Json.Numbers
import Componentry.Proofs.Json.Places
import Componentry.Proofs.Json.Plain
import Componentry.Proofs.Json.Written
import Componentry.Proofs.Loading.Agreeing
import Componentry.Proofs.Loading.Ended
import Componentry.Proofs.Naming.Pieces
import Componentry.Proofs.Naming.Stems
import Componentry.Proofs.Result
import Componentry.Proofs.Script.Assembled
import Componentry.Proofs.Script.Carried
import Componentry.Proofs.Script.Clause
import Componentry.Proofs.Script.Construct
import Componentry.Proofs.Script.Delimited
import Componentry.Proofs.Script.Divided
import Componentry.Proofs.Script.Drawn
import Componentry.Proofs.Script.Expressed
import Componentry.Proofs.Script.Founded
import Componentry.Proofs.Script.Grammar
import Componentry.Proofs.Script.Indented
import Componentry.Proofs.Script.Kept
import Componentry.Proofs.Script.Lexeme
import Componentry.Proofs.Script.Lexing
import Componentry.Proofs.Script.Margins
import Componentry.Proofs.Script.Nesting
import Componentry.Proofs.Script.Operated
import Componentry.Proofs.Script.Printed
import Componentry.Proofs.Script.Printing
import Componentry.Proofs.Script.Readable
import Componentry.Proofs.Script.Reading
import Componentry.Proofs.Script.Recovered
import Componentry.Proofs.Script.Recovery
import Componentry.Proofs.Script.Roomy
import Componentry.Proofs.Script.Signed
import Componentry.Proofs.Script.Sketch
import Componentry.Proofs.Script.Sketched
import Componentry.Proofs.Script.Spelled
import Componentry.Proofs.Script.Taken
import Componentry.Proofs.Script.Tidied
import Componentry.Proofs.Script.Together
import Componentry.Proofs.Script.Tree
import Componentry.Proofs.Script.Written
import Componentry.Proofs.Settings.Checked
import Componentry.Proofs.Settings.Layered
import Componentry.Proofs.Settings.Merged
import Componentry.Proofs.Settings.Reloaded
import Componentry.Proofs.Settings.Room
import Componentry.Proofs.Settings.Unsaved
import Componentry.Proofs.Template.Found
import Componentry.Proofs.Template.Framed
import Componentry.Proofs.Template.Rendered
import Componentry.Proofs.Text.Numeral
import Componentry.Proofs.Text.Occurrences
import Componentry.Proofs.Text.Pieces
import Componentry.Proofs.Text.Tidy
import Componentry.Proofs.Value.Compared
import Componentry.Proofs.Value.Entries
import Componentry.Proofs.Value.Faithful
import Componentry.Proofs.Value.Layered
import Componentry.Proofs.Value.Parts
import Componentry.Script.Key
import Componentry.Script.Literal
import Componentry.Script.Printer
import Componentry.Script.Quoted
import Componentry.Settings.Basic
import Componentry.Settings.Check
import Componentry.Settings.Layers
import Componentry.Settings.Manager
import Componentry.Settings.Storage
import Componentry.Template.Engine
import Componentry.Template.Frame
import Componentry.Text.Character
import Componentry.Text.Compatible
import Componentry.Text.Identifier
import Componentry.Text.Letter
import Componentry.Text.Lines
import Componentry.Text.Lower
import Componentry.Text.Numeral
import Componentry.Text.Printable
import Componentry.Text.Quoted
import Componentry.Text.Utf8
import Componentry.Value.Access
import Componentry.Value.Basic
import Componentry.Value.Compare
import Componentry.Value.Display
