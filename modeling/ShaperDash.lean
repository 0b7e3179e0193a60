import ShaperDash.Config
import ShaperDash.Dashboard
import ShaperDash.Elapsed
import ShaperDash.File.Load
import ShaperDash.File.Poller
import ShaperDash.File.Tree
import ShaperDash.Json.Error
import ShaperDash.Json.Number
import ShaperDash.Json.Reader
import ShaperDash.Json.Record
import ShaperDash.Json.Scan
import ShaperDash.Json.Skip
import ShaperDash.Json.Variant
import ShaperDash.Log.Event
import ShaperDash.Log.Filter
import ShaperDash.Log.Pattern
import ShaperDash.Log.Sink
import ShaperDash.Main
import ShaperDash.Number.Binary
import ShaperDash.Number.Decimal
import ShaperDash.Number.Rounding
import ShaperDash.Palette
import ShaperDash.Pane
import ShaperDash.Pane.Hosts
import ShaperDash.Pane.Layout
import ShaperDash.Pane.StatusBar
import ShaperDash.Pane.System
import ShaperDash.Pane.Theme
import ShaperDash.Pane.Throughput
import ShaperDash.Pane.Title
import ShaperDash.Scale
import ShaperDash.Proofs.Dashboard.Polls
import ShaperDash.Proofs.Json.Turns
import ShaperDash.Screen.Block
import ShaperDash.Screen.Picture
import ShaperDash.Screen.Text
import ShaperDash.Session
import ShaperDash.Status
import ShaperDash.SystemSample
import ShaperDash.Terminal
import ShaperDash.Text.Cluster
import ShaperDash.Text.Columns
import ShaperDash.Text.Emoji
import ShaperDash.Text.Extent
import ShaperDash.Text.Joining
import ShaperDash.Text.Printable
import ShaperDash.Text.Quoted
import ShaperDash.Text.Ranges
import ShaperDash.Text.Word
import ShaperDash.Throughput
import ShaperDash.Proofs.Json.Continuation
import ShaperDash.Proofs.Json.Closed
import ShaperDash.Proofs.Status.Torn
import ShaperDash.Proofs.Json.Grammar
import ShaperDash.Proofs.Json.Lexemes
import ShaperDash.Proofs.Json.Passing
import ShaperDash.Proofs.Json.Meaning
import ShaperDash.Proofs.Json.RecordMeaning
import ShaperDash.Proofs.Json.Fields
import ShaperDash.Proofs.Json.Spellings
import ShaperDash.Proofs.Records
import ShaperDash.Proofs.Integers
import ShaperDash.Proofs.Status.Shape
import ShaperDash.Proofs.Dashboard.Reads
import ShaperDash.Proofs.Json.Taken
import ShaperDash.Proofs.Json.Accepted
import ShaperDash.Proofs.Json.Members
import ShaperDash.Proofs.Json.Places
import ShaperDash.Proofs.Config.Shape
import ShaperDash.Proofs.Config.Loading
import ShaperDash.Proofs.File.Growth
import ShaperDash.Proofs.File.Changes
import ShaperDash.Proofs.File.Places
import ShaperDash.Proofs.Log.Lines
import ShaperDash.Proofs.Session.Events
import ShaperDash.Proofs.Session.Exit
import ShaperDash.Proofs.Session.Story
import ShaperDash.Proofs.Json.Causes
import ShaperDash.Proofs.Log.LineEnds
import ShaperDash.Proofs.Session.OneLine
import ShaperDash.Proofs.Screen.Local
import ShaperDash.Proofs.Dashboard.Keys
import ShaperDash.Proofs.Dashboard.Reload
import ShaperDash.Proofs.Log.Verbosity
import ShaperDash.Proofs.Screen.Pasted
import ShaperDash.Proofs.Session.Quiet
import ShaperDash.Proofs.Throughput.History
import ShaperDash.Proofs.Throughput.Rates
import ShaperDash.Proofs.Throughput.Accuracy
import ShaperDash.Proofs.Throughput.Order
import ShaperDash.Proofs.Throughput.Interfaces
import ShaperDash.Proofs.Dashboard.Samples
import ShaperDash.Proofs.Screen.Tiling
import ShaperDash.Proofs.Number.Nearest
import ShaperDash.Proofs.Number.Data
import ShaperDash.Proofs.Number.Bounds
import ShaperDash.Proofs.Number.Numerals
import ShaperDash.Proofs.Number.Shortest
import ShaperDash.Proofs.Number.Rounded
import ShaperDash.Proofs.Number.Fewest
import ShaperDash.Proofs.Scale.Hundredths
import ShaperDash.Proofs.Scale.Labels
import ShaperDash.Proofs.Scale.Shape
import ShaperDash.Proofs.Scale.Order
import ShaperDash.Proofs.Scale.Accuracy
import ShaperDash.Proofs.Scale.Halves
import ShaperDash.Proofs.Scale.Unscaled
import ShaperDash.Proofs.Text.Simple
import ShaperDash.Proofs.Screen.Colorless
import ShaperDash.Proofs.Pane.Gauge
import ShaperDash.Proofs.Screen.Repainted
import ShaperDash.Proofs.Screen.Cells
import ShaperDash.Proofs.Pane.Sparkline
import ShaperDash.Proofs.Throughput.Lag
import ShaperDash.Proofs.Pane.HostRows
import ShaperDash.Proofs.Pane.Lines
import ShaperDash.Proofs.Pane.Filled
import ShaperDash.Proofs.Pane.Aligned
import ShaperDash.Proofs.Memory
import ShaperDash.Proofs.Config.Starting
import ShaperDash.Proofs.Screen.Colors
import ShaperDash.Proofs.Pane.Badge
import ShaperDash.Proofs.Number.Extended
import ShaperDash.Proofs.Palette
import ShaperDash.Proofs.Json.Yields
import ShaperDash.Proofs.Pane.RoundTrips
import ShaperDash.Proofs.Number.Digits
import ShaperDash.Proofs.Elapsed
import ShaperDash.Proofs.Text.Quoted
import ShaperDash.Proofs.Config.Description
