import Mockup.Main
import Mockup.Node.Encode
import Mockup.Proofs.Node.Tree
import Mockup.Proofs.Resolution.Faults
import Mockup.Proofs.Snapshot.Visible
import Mockup.Proofs.View.Composed
import Mockup.Proofs.View.State
import Mockup.Proofs.View.Faults
import Mockup.Proofs.Generation.Outcome
import Mockup.Proofs.Swift.Scan
import Mockup.Proofs.Swift.Uses
import Mockup.Proofs.View.Phrases
import Mockup.Proofs.View.Fragments
import Mockup.Proofs.View.Uses
import Mockup.Proofs.Swift.Published
import Mockup.Proofs.View.Declared
import Mockup.Proofs.Resolution.Mirror
import Mockup.Proofs.Json.Members
import Mockup.Proofs.Json.Attribute
import Mockup.Proofs.Json.Part
import Mockup.Proofs.Node.Values
import Mockup.Proofs.Node.Format
import Mockup.Proofs.Document.Format
import Mockup.Proofs.Swift.Brackets
import Mockup.Proofs.Text.Lines
import Mockup.Proofs.Swift.Sheet
import Mockup.Proofs.Text.Case
import Mockup.Proofs.Style.Token
import Mockup.Proofs.View.Sheets
import Mockup.Proofs.Generation.Balanced
import Mockup.Proofs.View.Drawing
import Mockup.Proofs.View.Layout
import Mockup.Proofs.OrderedMap
import Mockup.Proofs.Json.Encoding
import Mockup.Proofs.Node.Encoding
import Mockup.Proofs.Json.Reading
import Mockup.Proofs.Config
import Mockup.Proofs.View.Likeness
import Mockup.Proofs.View.Redaction
import Mockup.Proofs.Generation.Renaming
import Mockup.Proofs.Lookup.History
import Mockup.Proofs.Snapshot.Hidden
import Mockup.Proofs.CommandLine.Listing
import Mockup.Proofs.Generation.Published
import Mockup.Proofs.Swift.Marks
import Mockup.Proofs.View.Marks
import Mockup.Proofs.View.Elision
import Mockup.Proofs.Resolution.Task
import Mockup.Proofs.Resolution.Schedule
import Mockup.Proofs.Text.Rows
import Mockup.Proofs.Swift.Literal
import Mockup.Proofs.Swift.Comment
import Mockup.Proofs.View.Comments
import Mockup.Proofs.Text.Identifier
import Mockup.Proofs.View.Binding
import Mockup.Proofs.Generation.Identifiers
import Mockup.Proofs.Layout.Padding
import Mockup.Proofs.View.FreshBinding
import Mockup.Proofs.Template.Likeness
import Mockup.Proofs.View.FileText
import Mockup.Proofs.Component.History
import Mockup.Proofs.Text.CamelCase
import Mockup.Proofs.Text.Exchange
import Mockup.Proofs.View.Icons
import Mockup.Proofs.Disk.Tree
import Mockup.Proofs.CommandLine.Inputs
import Mockup.Proofs.CommandLine.Delivery
import Mockup.Proofs.Component.Identity
import Mockup.Proofs.Node.Search
import Mockup.Proofs.Style.Separator
import Mockup.Proofs.Text.Indentation
import Mockup.Proofs.View.Indentation
