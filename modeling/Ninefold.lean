import Ninefold.Address
import Ninefold.Axis
import Ninefold.Catalog
import Ninefold.Catalog.Disk
import Ninefold.Catalog.Memory
import Ninefold.Coordinate
import Ninefold.Delimiters
import Ninefold.Document
import Ninefold.Editor
import Ninefold.Editor.Stock
import Ninefold.Editor.LineEdit
import Ninefold.Editor.Substitution
import Ninefold.Failure
import Ninefold.FileError
import Ninefold.FileTree
import Ninefold.Ident
import Ninefold.Instant
import Ninefold.Json
import Ninefold.Json.Reader
import Ninefold.Json.Writer
import Ninefold.Main
import Ninefold.Note
import Ninefold.Path
import Ninefold.Pen
import Ninefold.Position
import Ninefold.Proofs.Coordinate
import Ninefold.Proofs.Scan
import Ninefold.Proofs.Table
import Ninefold.Record
import Ninefold.Reply
import Ninefold.Script
import Ninefold.Scroll
import Ninefold.Segments
import Ninefold.Session
import Ninefold.Session.Call
import Ninefold.Session.Movement
import Ninefold.Session.Scrolls
import Ninefold.Session.Transfer
import Ninefold.Session.Upkeep
import Ninefold.Settings
import Ninefold.SettingsFile
import Ninefold.Stored
import Ninefold.Table
import Ninefold.Terminal.Arguments
import Ninefold.Terminal.Listing
import Ninefold.Terminal.Logging
import Ninefold.Terminal.Program
import Ninefold.Terminal.Style
import Ninefold.Text
import Ninefold.Text.Blank
import Ninefold.Text.Columns
import Ninefold.Text.Columns.Emoji
import Ninefold.Text.Columns.Widths
import Ninefold.Text.LineEnd
import Ninefold.Text.Preview
import Ninefold.Text.Quoted
import Ninefold.Text.Spans
import Ninefold.Text.Unprintable
import Ninefold.Weave
import Ninefold.World
import Ninefold.Proofs.Stream
import Ninefold.Proofs.RoundTrip
import Ninefold.Proofs.Canonical
import Ninefold.Proofs.Act
import Ninefold.Proofs.Script
import Ninefold.Proofs.Ledger
import Ninefold.Proofs.Writing
import Ninefold.Proofs.Simulation
import Ninefold.Proofs.Conservation
import Ninefold.Proofs.Text
import Ninefold.Proofs.Json
import Ninefold.Proofs.Address
import Ninefold.Proofs.Ident
import Ninefold.Proofs.Instant
import Ninefold.Proofs.Record
import Ninefold.Proofs.Path
import Ninefold.Proofs.FileTree
import Ninefold.Proofs.Disk.Names
import Ninefold.Proofs.Disk.Folder
import Ninefold.Proofs.Disk.Documents
import Ninefold.Proofs.Disk.Changes
import Ninefold.Proofs.Disk.Service
import Ninefold.Proofs.Disk.Granted
import Ninefold.Proofs.Disk.Refinement
import Ninefold.Proofs.Disk.Interruption
import Ninefold.Proofs.SettingsFile
import Ninefold.Proofs.Quiet
import Ninefold.Proofs.View
import Ninefold.Proofs.Unchanged
import Ninefold.Proofs.Addressing
import Ninefold.Proofs.Place
import Ninefold.Proofs.Law
import Ninefold.Proofs.Reading
import Ninefold.Proofs.Rule
import Ninefold.Proofs.Upkeep
import Ninefold.Proofs.Reach
import Ninefold.Proofs.Pen
import Ninefold.Proofs.Standing
import Ninefold.Proofs.Tidiness
import Ninefold.Proofs.Naming
import Ninefold.Proofs.Gaps
import Ninefold.Proofs.Locating
import Ninefold.Proofs.Edits
import Ninefold.Proofs.Route
import Ninefold.Proofs.Brevity
import Ninefold.Proofs.Odometer
import Ninefold.Proofs.Growth
import Ninefold.Proofs.Keeping
import Ninefold.Proofs.Placing
import Ninefold.Proofs.Rank
import Ninefold.Proofs.Subtree
import Ninefold.Proofs.Preview
import Ninefold.Proofs.LineEnd
import Ninefold.Proofs.Piping
import Ninefold.Proofs.Scratch
import Ninefold.Proofs.Editing
import Ninefold.Proofs.Grammar
import Ninefold.Proofs.Written
import Ninefold.Proofs.Exchange
import Ninefold.Proofs.Export
import Ninefold.Proofs.InStep
