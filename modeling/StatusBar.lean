import StatusBar.Bar
import StatusBar.Clock.Calendar
import StatusBar.Clock.Pattern
import StatusBar.Color
import StatusBar.Command
import StatusBar.Config.BarConfig
import StatusBar.Config.Basic
import StatusBar.Config.Decode
import StatusBar.Config.File
import StatusBar.Decimal.Positional
import StatusBar.Decimal.Shortest
import StatusBar.Error
import StatusBar.Formats
import StatusBar.Label
import StatusBar.Lifecycle
import StatusBar.Main
import StatusBar.Markup.Basic
import StatusBar.Module.Basic
import StatusBar.Module.Content
import StatusBar.Module.Failed
import StatusBar.Module.Slot
import StatusBar.Module.Thread
import StatusBar.Module.Worker
import StatusBar.Notice
import StatusBar.Proofs.Segments
import StatusBar.Session
import StatusBar.Signal
import StatusBar.Template.Basic
import StatusBar.Template.Render
import StatusBar.Text.Blank
import StatusBar.Text.Pictureless
import StatusBar.Text.Quoted
import StatusBar.Text.Replace
import StatusBar.Text.Split
import StatusBar.Text.Terminal
import StatusBar.Toml.Datetime
import StatusBar.Toml.Datetime.Fault
import StatusBar.Toml.Datetime.Reader
import StatusBar.Toml.Document
import StatusBar.Toml.Quotation
import StatusBar.Toml.Reserved
import StatusBar.Toml.Text
import StatusBar.Toml.Value
import StatusBar.Toml.Word
import StatusBar.Widget.Basic
import StatusBar.Widget.Builtin
import StatusBar.Widget.Clock
import StatusBar.Widget.Text
import StatusBar.Proofs.Rendering
import StatusBar.Proofs.Content
import StatusBar.Proofs.Ending
import StatusBar.Proofs.Host
import StatusBar.Proofs.Redraw
import StatusBar.Proofs.Drawing
import StatusBar.Proofs.Readers
import StatusBar.Proofs.Clocks
import StatusBar.Proofs.Failures
import StatusBar.Proofs.Stopping
import StatusBar.Proofs.Registration
import StatusBar.Proofs.Frozen
import StatusBar.Proofs.Panics
import StatusBar.Proofs.Siblings
import StatusBar.Proofs.Trimming
import StatusBar.Proofs.Colors
import StatusBar.Proofs.Tags
import StatusBar.Proofs.Decorations
import StatusBar.Proofs.Nesting
import StatusBar.Proofs.Painting
import StatusBar.Proofs.Freshness
import StatusBar.Proofs.Watching
import StatusBar.Proofs.Gaps
import StatusBar.Proofs.Names
import StatusBar.Proofs.Attributes
import StatusBar.Proofs.Validation
import StatusBar.Proofs.Shadowing
import StatusBar.Proofs.Labels
import StatusBar.Proofs.Routing
import StatusBar.Proofs.Lines
import StatusBar.Proofs.MainThread
import StatusBar.Proofs.Deeds
import StatusBar.Proofs.Schedules
import StatusBar.Proofs.Decoding
import StatusBar.Proofs.Overlay
import StatusBar.Proofs.Sections
import StatusBar.Proofs.Creation
import StatusBar.Proofs.Spelling
import StatusBar.Proofs.ColorBytes
import StatusBar.Proofs.Commands
import StatusBar.Proofs.Lookups
import StatusBar.Proofs.Replacing
import StatusBar.Proofs.Sleeping
