import CircuitHub.Canvas.Clip
import CircuitHub.Canvas.Raster
import CircuitHub.Catalog
import CircuitHub.Checker
import CircuitHub.Chrome
import CircuitHub.Code
import CircuitHub.CommandLine
import CircuitHub.Console
import CircuitHub.Conversation
import CircuitHub.Dashboard
import CircuitHub.Exchange.Client
import CircuitHub.Exchange.Provider
import CircuitHub.Extent
import CircuitHub.Field.Basic
import CircuitHub.Field.Draw
import CircuitHub.Field.Row
import CircuitHub.Gallery
import CircuitHub.Hub
import CircuitHub.Json.Basic
import CircuitHub.Json.Token
import CircuitHub.Keyboard
import CircuitHub.Library
import CircuitHub.Main
import CircuitHub.Markdown.Document
import CircuitHub.Markdown.Draft
import CircuitHub.Markdown.Emphasis
import CircuitHub.Markdown.Html
import CircuitHub.Markdown.Indent
import CircuitHub.Markdown.Inline
import CircuitHub.Markdown.Link
import CircuitHub.Markdown.Opening
import CircuitHub.Markdown.Reference
import CircuitHub.Markdown.Tree
import CircuitHub.Markdown.Typeset
import CircuitHub.Markup.Entity
import CircuitHub.Markup.Event
import CircuitHub.Number.Decimal
import CircuitHub.Number.Fixed
import CircuitHub.Number.Nearest
import CircuitHub.Number.Total
import CircuitHub.Proofs.Catalog.Selection
import CircuitHub.Proofs.Code.Literal
import CircuitHub.Proofs.Exchange.Running
import CircuitHub.Proofs.Extent
import CircuitHub.Proofs.Field.Breaks
import CircuitHub.Proofs.Field.Columns
import CircuitHub.Proofs.Field.Cuts
import CircuitHub.Proofs.Field.Halves
import CircuitHub.Proofs.Field.Handled
import CircuitHub.Proofs.Field.Height
import CircuitHub.Proofs.Field.Hidden
import CircuitHub.Proofs.Field.Presses
import CircuitHub.Proofs.Field.Rows
import CircuitHub.Proofs.Field.Shown
import CircuitHub.Proofs.Field.Vertical
import CircuitHub.Proofs.Field.Wrapping
import CircuitHub.Proofs.Gallery.Cards
import CircuitHub.Proofs.Gallery.Counting
import CircuitHub.Proofs.Hub.History
import CircuitHub.Proofs.Hub.Parts
import CircuitHub.Proofs.Hub.Update
import CircuitHub.Proofs.Json.Record
import CircuitHub.Proofs.Json.Spelling
import CircuitHub.Proofs.Json.Token
import CircuitHub.Proofs.Json.Value
import CircuitHub.Proofs.Library.Narrowing
import CircuitHub.Proofs.Markdown.Nesting
import CircuitHub.Proofs.Markdown.Reading
import CircuitHub.Proofs.Markdown.Writing
import CircuitHub.Proofs.Markup.Escape
import CircuitHub.Proofs.Markup.Nesting
import CircuitHub.Proofs.Result
import CircuitHub.Proofs.Schematic.Chains
import CircuitHub.Proofs.Schematic.Fitting
import CircuitHub.Proofs.Schematic.Labels
import CircuitHub.Proofs.Schematic.Numerals
import CircuitHub.Proofs.Schematic.Reading
import CircuitHub.Proofs.Schematic.Repeats
import CircuitHub.Proofs.Schematic.Scanning
import CircuitHub.Proofs.Schematic.Separated
import CircuitHub.Proofs.Schematic.Slots
import CircuitHub.Proofs.Schematic.Subpaths
import CircuitHub.Proofs.Schematic.Tokens
import CircuitHub.Proofs.Schematic.Unclosed
import CircuitHub.Proofs.Segment.Conservation
import CircuitHub.Proofs.Segment.Eager
import CircuitHub.Proofs.Segment.Joining
import CircuitHub.Proofs.Segment.Pieces
import CircuitHub.Proofs.Segment.Prose
import CircuitHub.Proofs.Segment.RoundTrip
import CircuitHub.Proofs.Segment.Shape
import CircuitHub.Proofs.Service.Body
import CircuitHub.Proofs.Service.Reply
import CircuitHub.Proofs.Session.Prompt
import CircuitHub.Proofs.Session.Views
import CircuitHub.Proofs.Settings.Priority
import CircuitHub.Proofs.Text.Bytes
import CircuitHub.Proofs.Text.Cursor
import CircuitHub.Proofs.Text.Forms
import CircuitHub.Proofs.Text.Lines
import CircuitHub.Proofs.Text.Parts
import CircuitHub.Proofs.Text.Scan
import CircuitHub.Proofs.Toml.Remarks
import CircuitHub.Proofs.Transcript.Bottom
import CircuitHub.Proofs.Transcript.Counting
import CircuitHub.Proofs.Transcript.Heights
import CircuitHub.Proofs.Transcript.Showing
import CircuitHub.Proofs.Transcript.Stacking
import CircuitHub.Proofs.Transcript.Tiles
import CircuitHub.Proofs.Transcript.Window
import CircuitHub.Schematic.Basic
import CircuitHub.Schematic.Draw
import CircuitHub.Schematic.PathData
import CircuitHub.Schematic.Reader
import CircuitHub.Screen.Area
import CircuitHub.Screen.Grid
import CircuitHub.Screen.Line
import CircuitHub.Screen.Panel
import CircuitHub.Screen.Paragraph
import CircuitHub.Screen.Scroll
import CircuitHub.Screen.Style
import CircuitHub.Segment
import CircuitHub.Service.Answer
import CircuitHub.Service.Call
import CircuitHub.Session
import CircuitHub.Settings.Basic
import CircuitHub.Settings.Folder
import CircuitHub.Settings.Home
import CircuitHub.Settings.Setup
import CircuitHub.Text.Basic
import CircuitHub.Text.CharSet
import CircuitHub.Text.Cluster
import CircuitHub.Text.Digits
import CircuitHub.Text.Fill
import CircuitHub.Text.LowerCase
import CircuitHub.Text.Quoted
import CircuitHub.Text.Table.Cluster
import CircuitHub.Text.Table.Entity
import CircuitHub.Text.Table.LowerCase
import CircuitHub.Text.Table.Printable
import CircuitHub.Text.Table.Punctuation
import CircuitHub.Text.Table.Width
import CircuitHub.Text.Utf16
import CircuitHub.Text.Utf8
import CircuitHub.Text.Width
import CircuitHub.Toml.Basic
import CircuitHub.Toml.Document
import CircuitHub.Toml.Number
import CircuitHub.Toml.Quoted
import CircuitHub.Transcript.Basic
import CircuitHub.Transcript.Card
import CircuitHub.Transcript.Heights
import CircuitHub.Validation
import CircuitHub.View
import CircuitHub.Proofs.Settings.Loading
import CircuitHub.Proofs.Exchange.Sending
