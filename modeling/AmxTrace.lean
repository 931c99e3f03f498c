import AmxTrace.Addr
import AmxTrace.Backtrace
import AmxTrace.Backtrace.Interchange
import AmxTrace.Backtrace.Renderer
import AmxTrace.Backtrace.Resolved
import AmxTrace.CallLog
import AmxTrace.Cell
import AmxTrace.Command.Arguments
import AmxTrace.Command.Grammar
import AmxTrace.Command.Run
import AmxTrace.Command.Sources
import AmxTrace.Command.Summaries
import AmxTrace.Configuration
import AmxTrace.Crash
import AmxTrace.Debug.Entries
import AmxTrace.Debug.Section
import AmxTrace.Debug.Store
import AmxTrace.Decimal
import AmxTrace.Dispatch
import AmxTrace.Files.Path
import AmxTrace.Files.Tree
import AmxTrace.Frame
import AmxTrace.Hex
import AmxTrace.Image
import AmxTrace.Image.Error
import AmxTrace.Image.Header
import AmxTrace.Interchange
import AmxTrace.Json.Decode
import AmxTrace.Json.Parser
import AmxTrace.Json.Value
import AmxTrace.Locator
import AmxTrace.Machine
import AmxTrace.Main
import AmxTrace.Main.Languages
import AmxTrace.Opcode
import AmxTrace.Pattern.ByteRanges
import AmxTrace.Pattern.Compiler
import AmxTrace.Pattern.Expression
import AmxTrace.Pattern.Growth
import AmxTrace.Pattern.Matcher
import AmxTrace.Pattern.Parser
import AmxTrace.Pattern.Size
import AmxTrace.Pattern.Tree
import AmxTrace.Proofs.Backtrace.Cursor
import AmxTrace.Proofs.Backtrace.Depth
import AmxTrace.Proofs.Backtrace.History
import AmxTrace.Proofs.Backtrace.Interchange
import AmxTrace.Proofs.Backtrace.Shape
import AmxTrace.Proofs.Crash.Live
import AmxTrace.Proofs.Debug.Confirmed
import AmxTrace.Proofs.Debug.Forwarded
import AmxTrace.Proofs.Debug.Layout
import AmxTrace.Proofs.Debug.Lookup
import AmxTrace.Proofs.Debug.Monotone
import AmxTrace.Proofs.Debug.OwnFile
import AmxTrace.Proofs.Debug.RoundTrip
import AmxTrace.Proofs.Debug.Routes
import AmxTrace.Proofs.Decimal.Binary32
import AmxTrace.Proofs.Decimal.Shortest
import AmxTrace.Proofs.Dispatch.Relocation
import AmxTrace.Proofs.Dispatch.States
import AmxTrace.Proofs.Dispatch.Stub
import AmxTrace.Proofs.Files.Apart
import AmxTrace.Proofs.Files.Change
import AmxTrace.Proofs.Files.Parents
import AmxTrace.Proofs.Files.Path
import AmxTrace.Proofs.Files.Tree
import AmxTrace.Proofs.Frame.Activation
import AmxTrace.Proofs.Frame.ArgumentCount
import AmxTrace.Proofs.Frame.Callers
import AmxTrace.Proofs.Frame.Checked
import AmxTrace.Proofs.Frame.Neighbours
import AmxTrace.Proofs.Image.End
import AmxTrace.Proofs.Image.Fresh
import AmxTrace.Proofs.Image.Header
import AmxTrace.Proofs.Image.Packed
import AmxTrace.Proofs.Image.Packing
import AmxTrace.Proofs.Image.Parse
import AmxTrace.Proofs.Image.Rules
import AmxTrace.Proofs.Image.Runs
import AmxTrace.Proofs.Image.Strict
import AmxTrace.Proofs.Image.Table
import AmxTrace.Proofs.Json.Records
import AmxTrace.Proofs.Locator.History
import AmxTrace.Proofs.Locator.Known
import AmxTrace.Proofs.Locator.Modules
import AmxTrace.Proofs.Locator.Order
import AmxTrace.Proofs.Locator.Search
import AmxTrace.Proofs.Locator.Seen
import AmxTrace.Proofs.Machine.Words
import AmxTrace.Proofs.Reader.Reach
import AmxTrace.Proofs.Reader.Strict
import AmxTrace.Proofs.Reader.Written
import AmxTrace.Proofs.Registry.Bounds
import AmxTrace.Proofs.Registry.Discipline
import AmxTrace.Proofs.Registry.Isolation
import AmxTrace.Proofs.Registry.Nesting
import AmxTrace.Proofs.Registry.Selection
import AmxTrace.Proofs.Renderer.ArgumentText
import AmxTrace.Proofs.Renderer.Arguments
import AmxTrace.Proofs.Renderer.Declared
import AmxTrace.Proofs.Renderer.Shown
import AmxTrace.Proofs.Renderer.Strings
import AmxTrace.Proofs.Renderer.Symbols
import AmxTrace.Proofs.RuntimeError.Bounds
import AmxTrace.Proofs.Settings.Accepted
import AmxTrace.Proofs.Settings.Layers
import AmxTrace.Proofs.Settings.Search
import AmxTrace.Proofs.Snapshot.Applied
import AmxTrace.Proofs.Snapshot.Overlay
import AmxTrace.Proofs.Text.CellString
import AmxTrace.Reader
import AmxTrace.Registry
import AmxTrace.RuntimeError
import AmxTrace.Segment
import AmxTrace.Settings
import AmxTrace.Snapshot
import AmxTrace.Text.CellString
import AmxTrace.Text.Integer
import AmxTrace.Text.Parts
import AmxTrace.Text.Utf8
import AmxTrace.Toml.Parser
import AmxTrace.Toml.Scalar
import AmxTrace.Toml.Table
import AmxTrace.Trace
import AmxTrace.Unicode.Age
import AmxTrace.Unicode.CaseFolding
import AmxTrace.Unicode.CharSet
import AmxTrace.Unicode.Classes
import AmxTrace.Unicode.Derived
import AmxTrace.Unicode.GeneralCategory
import AmxTrace.Unicode.Property
import AmxTrace.Unicode.Script
import AmxTrace.Unicode.ScriptExtension
import AmxTrace.Unicode.Segmentation
import AmxTrace.Word
