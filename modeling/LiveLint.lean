import LiveLint.Text.Printable
import LiveLint.Lint.BundledExamples
import LiveLint.Lint.Explanation
import LiveLint.Lint.Group
import LiveLint.Lint.Response
import LiveLint.Source.Pool
import LiveLint.Request.Dispatcher
import LiveLint.Mark.Reactions
import LiveLint.Tooltip.HoverRun
import LiveLint.Tooltip.Box
import LiveLint.Session.Run
import LiveLint.Editor.Painting
import LiveLint.Panel
import LiveLint.Main
import LiveLint.Proofs.Request.Accounting
import LiveLint.Proofs.Session.Onlooker
import LiveLint.Proofs.Session.Shown
import LiveLint.Proofs.Session.Edits
import LiveLint.Proofs.Session.Agreement
import LiveLint.Proofs.Session.Summary
import LiveLint.Proofs.Session.Silence
import LiveLint.Proofs.Timing.Debouncing
import LiveLint.Proofs.Tooltip.Runs
import LiveLint.Proofs.Tooltip.Display
import LiveLint.Mark.Rendering
import LiveLint.Proofs.Mark.Board
import LiveLint.Proofs.Mark.Lifecycle
import LiveLint.Proofs.Mark.Listeners
import LiveLint.Proofs.Lint.Decoding
import LiveLint.Proofs.Lint.NormalForm
import LiveLint.Proofs.Lint.WrittenForm
import LiveLint.Proofs.Session.Decoded
import LiveLint.Proofs.Source.Pool
import LiveLint.Proofs.Lint.Explanation
import LiveLint.Proofs.Text.ShellWords
import LiveLint.Proofs.Source.Configured
import LiveLint.Proofs.Settings.Merge
import LiveLint.Proofs.Settings.Paths
import LiveLint.Proofs.Settings.Defaults
import LiveLint.Proofs.Number.Digits
import LiveLint.Proofs.Number.Nearest
import LiveLint.Proofs.Number.Shortest
import LiveLint.Proofs.Json.Number
import LiveLint.Proofs.Json.Text
import LiveLint.Proofs.Value.Alike
import LiveLint.Proofs.Json.RoundTrip
import LiveLint.Proofs.Json.Document
import LiveLint.Proofs.Json.WellFormed
import LiveLint.Proofs.Json.Writing
import LiveLint.Proofs.Settings.MergeLaws
import LiveLint.Proofs.Settings.Reloading
import LiveLint.Proofs.Editor.Coverage
import LiveLint.Proofs.Lint.Clamping
import LiveLint.Proofs.Session.Problems
import LiveLint.Proofs.Timing.Since
import LiveLint.Proofs.Tooltip.Hovering
import LiveLint.Proofs.Settings.MergePaths
import LiveLint.Proofs.Settings.Setting
import LiveLint.Proofs.Settings.Failures
import LiveLint.Proofs.Lint.Partition
import LiveLint.Proofs.Text.Cutting
import LiveLint.Proofs.Lint.Counts
import LiveLint.Proofs.Text.Escaping
import LiveLint.Proofs.Lint.Recovery
import LiveLint.Proofs.Value.Shown
import LiveLint.Proofs.Settings.Validity
import LiveLint.Proofs.Text.LineBreak
import LiveLint.Proofs.Source.Document
import LiveLint.Proofs.Lint.Range
import LiveLint.Proofs.Editor.Segments
import LiveLint.Proofs.Editor.Pointing
import LiveLint.Proofs.Text.Form
import LiveLint.Proofs.Lint.Examples
import LiveLint.Proofs.Editor.Offsets
import LiveLint.Proofs.Startup
