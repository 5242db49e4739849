import Hexwire.Buffer.Store
import Hexwire.Bytes.Basic
import Hexwire.Bytes.Hex
import Hexwire.Bytes.SixBits
import Hexwire.Bytes.Utf8
import Hexwire.Calendar
import Hexwire.ChipSelect
import Hexwire.Console.CommandLine
import Hexwire.Console.Complaint
import Hexwire.Console.Ending
import Hexwire.Console.Options
import Hexwire.Console.Page
import Hexwire.Console.Parameter
import Hexwire.Console.Program
import Hexwire.Console.Vocabulary
import Hexwire.Device.Basic
import Hexwire.Device.Emulator
import Hexwire.Device.Scripted
import Hexwire.Document.Fault
import Hexwire.Document.Json
import Hexwire.Document.Reading
import Hexwire.Document.Yaml.Assembly
import Hexwire.Document.Yaml.Cursor
import Hexwire.Document.Yaml.Lexeme
import Hexwire.Document.Yaml.Literal
import Hexwire.Document.Yaml.Node
import Hexwire.Document.Yaml.Scalar
import Hexwire.Document.Yaml.Tag
import Hexwire.Document.Yaml.Token
import Hexwire.Dump
import Hexwire.Event
import Hexwire.Exchange
import Hexwire.Failure.Conversion
import Hexwire.Failure.Kind
import Hexwire.Files.Path
import Hexwire.Files.Tree
import Hexwire.Frame
import Hexwire.Line
import Hexwire.Log.Directive
import Hexwire.Log.Entry
import Hexwire.Log.Journal
import Hexwire.Log.Record
import Hexwire.Log.Template
import Hexwire.Main
import Hexwire.Number.Binary64
import Hexwire.Number.Integer
import Hexwire.Number.Rounded
import Hexwire.Number.Shortest
import Hexwire.Ping
import Hexwire.Proofs.Action
import Hexwire.Proofs.Buffer.Binding
import Hexwire.Proofs.Buffer.Footprint
import Hexwire.Proofs.Buffer.Overlay
import Hexwire.Proofs.Buffer.Renaming
import Hexwire.Proofs.Bytes.Digits
import Hexwire.Proofs.Bytes.Spelling
import Hexwire.Proofs.Bytes.Utf8
import Hexwire.Proofs.Console.Bridge
import Hexwire.Proofs.Console.Verdict
import Hexwire.Proofs.Device.Calls
import Hexwire.Proofs.Device.Conservation
import Hexwire.Proofs.Device.Dialogue
import Hexwire.Proofs.Device.Emulation
import Hexwire.Proofs.Document.Assembling
import Hexwire.Proofs.Document.Composing
import Hexwire.Proofs.Document.Faults
import Hexwire.Proofs.Document.Json
import Hexwire.Proofs.Document.Literal
import Hexwire.Proofs.Document.Scanning
import Hexwire.Proofs.Dump.Printing
import Hexwire.Proofs.Dump.Reading
import Hexwire.Proofs.Exchange.Dialogue
import Hexwire.Proofs.Exchange.Progress
import Hexwire.Proofs.Exchange.Served
import Hexwire.Proofs.Exchange.Verdict
import Hexwire.Proofs.Failure.Carrying
import Hexwire.Proofs.Failure.Ordinary
import Hexwire.Proofs.Files.Path
import Hexwire.Proofs.Files.Tree
import Hexwire.Proofs.Frame.Codec
import Hexwire.Proofs.Frame.Echo
import Hexwire.Proofs.Frame.Grammar
import Hexwire.Proofs.Frame.Stream
import Hexwire.Proofs.Line.Candid
import Hexwire.Proofs.Line.Closed
import Hexwire.Proofs.Line.Course
import Hexwire.Proofs.Line.Dialogue
import Hexwire.Proofs.Line.Faults
import Hexwire.Proofs.Line.Fragments
import Hexwire.Proofs.Line.Readings
import Hexwire.Proofs.Log.Wire
import Hexwire.Proofs.Paired
import Hexwire.Proofs.Ping
import Hexwire.Proofs.Schema.Address
import Hexwire.Proofs.Schema.Following
import Hexwire.Proofs.Schema.Progress
import Hexwire.Proofs.Schema.Rule
import Hexwire.Proofs.Sequence.Chunks
import Hexwire.Proofs.Session.Account
import Hexwire.Proofs.Session.Blame
import Hexwire.Proofs.Session.Closed
import Hexwire.Proofs.Session.Erasure
import Hexwire.Proofs.Session.Faults
import Hexwire.Proofs.Session.Fragments
import Hexwire.Proofs.Session.Inert
import Hexwire.Proofs.Session.Ownership
import Hexwire.Proofs.Session.Wire
import Hexwire.Proofs.Settings.Agreement
import Hexwire.Proofs.Settings.Checking
import Hexwire.Proofs.Settings.Loading
import Hexwire.Proofs.Settings.Merging
import Hexwire.Proofs.Settings.Origin
import Hexwire.Proofs.Text.LetterCase
import Hexwire.Proofs.Text.Pattern
import Hexwire.Proofs.Transaction.Abort
import Hexwire.Proofs.Transaction.Acceptance
import Hexwire.Proofs.Transaction.Alignment
import Hexwire.Proofs.Transaction.Bracket
import Hexwire.Proofs.Transaction.Candid
import Hexwire.Proofs.Transaction.Charted
import Hexwire.Proofs.Transaction.Erasure
import Hexwire.Proofs.Transaction.Operation
import Hexwire.Proofs.Transaction.Pieces
import Hexwire.Proofs.Transaction.Plan
import Hexwire.Proofs.Transaction.Quiet
import Hexwire.Proofs.Transaction.Refinement
import Hexwire.Proofs.Transaction.Remains
import Hexwire.Proofs.Transaction.Separation
import Hexwire.Proofs.Transaction.Served
import Hexwire.Proofs.Transaction.Trace
import Hexwire.Proofs.Value.Layout
import Hexwire.Proofs.Value.Quotient
import Hexwire.Proofs.Value.Scatter
import Hexwire.Release
import Hexwire.Schema.Address
import Hexwire.Schema.Catalog
import Hexwire.Schema.Draft
import Hexwire.Schema.Edition
import Hexwire.Schema.Fault
import Hexwire.Schema.Inscription
import Hexwire.Schema.Kind
import Hexwire.Schema.Plan
import Hexwire.Schema.Rule
import Hexwire.Schema.Run
import Hexwire.Sequence.Chunks
import Hexwire.Session
import Hexwire.Settings.Basic
import Hexwire.Settings.Configuration
import Hexwire.Text.Alphanumeric
import Hexwire.Text.Escape
import Hexwire.Text.Fill
import Hexwire.Text.LetterCase
import Hexwire.Text.Likeness
import Hexwire.Text.Numeral
import Hexwire.Text.Pattern.Matching
import Hexwire.Text.Pattern.Reader
import Hexwire.Text.Pattern.Syntax
import Hexwire.Text.Placeholder
import Hexwire.Text.Quoted
import Hexwire.Text.Search
import Hexwire.Text.Unprintable
import Hexwire.Transaction
import Hexwire.Value.Access
import Hexwire.Value.Arithmetic
import Hexwire.Value.Basic
import Hexwire.Value.Equality
import Hexwire.Value.Layout
import Hexwire.Value.Printer
import Hexwire.Value.Quotient
import Hexwire.Value.Scatter
import Hexwire.Value.Spelling
