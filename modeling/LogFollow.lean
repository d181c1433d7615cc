import LogFollow.Output.Follow
import LogFollow.Output.Print
import LogFollow.Search.Query
import LogFollow.Source.Http
import LogFollow.Text.Cluster
import LogFollow.Time.Span
import LogFollow.Toml.Printer
import LogFollow.Config.File
import LogFollow.Config.Assign
import LogFollow.Journal.Held
import LogFollow.Journal.File
import LogFollow.Explorer.Keymap
import LogFollow.Explorer.Editor
import LogFollow.Explorer.View
import LogFollow.Explorer.Layout
import LogFollow.Explorer.Theme
import LogFollow.Explorer.Spinner
import LogFollow.Explorer.Drawing
import LogFollow.CommandLine.Reader
import LogFollow.CommandLine.Window
import LogFollow.CommandLine.Run
import LogFollow.Explorer.Forwarder
import LogFollow.Explorer.Loop
import LogFollow.Main
import LogFollow.Proofs.Fetch
import LogFollow.Proofs.Stream.Record
import LogFollow.Proofs.Stream.Safety
import LogFollow.Proofs.Stream.Tailing
import LogFollow.Proofs.Explorer.Session
import LogFollow.Proofs.Search.Local
import LogFollow.Proofs.Search.Source
import LogFollow.Proofs.Explorer.Dialogue
import LogFollow.Proofs.Stream.Play
import LogFollow.Proofs.Explorer.Rows
import LogFollow.Proofs.Stream.Coverage
import LogFollow.Proofs.Explorer.Exchange
import LogFollow.Proofs.Explorer.Relay
import LogFollow.Proofs.Explorer.Recall
import LogFollow.Proofs.Explorer.Recovery
import LogFollow.Proofs.Explorer.Filter
import LogFollow.Proofs.Output.Printing
import LogFollow.Proofs.Output.Following
import LogFollow.Proofs.Stream.Finished
import LogFollow.Proofs.Output.Agreement
import LogFollow.Proofs.Toml.Line
import LogFollow.Proofs.Toml.Document
import LogFollow.Proofs.Json.Entries
import LogFollow.Proofs.Config.Saved
import LogFollow.Proofs.Stream.Deserted
import LogFollow.Proofs.Explorer.Closing
import LogFollow.Proofs.Explorer.Redraw
import LogFollow.Proofs.Config.Change
import LogFollow.Proofs.CommandLine.Configure
import LogFollow.Proofs.Number.Digits
import LogFollow.Proofs.Number.Nearest
import LogFollow.Proofs.Number.Double
import LogFollow.Proofs.Config.Assign
import LogFollow.Proofs.Config.LastCall
import LogFollow.Proofs.Config.Usable
import LogFollow.Proofs.Config.Headers
import LogFollow.Proofs.Json.Written
import LogFollow.Proofs.Output.JsonLines
import LogFollow.Proofs.Explorer.Wrap
import LogFollow.Proofs.Json.Grammar
import LogFollow.Proofs.Json.Reading
import LogFollow.Proofs.Json.Magnitude
import LogFollow.Proofs.Json.Limits
import LogFollow.Proofs.Json.Keys
import LogFollow.Proofs.Event.Agreement
import LogFollow.Proofs.Source.Request
import LogFollow.Proofs.Source.Page
import LogFollow.Proofs.Explorer.Styled
import LogFollow.Proofs.Explorer.Arrivals
import LogFollow.Proofs.Source.Chain
import LogFollow.Proofs.Stream.Capacity
import LogFollow.Proofs.Search.Match
import LogFollow.Proofs.Output.Broken
import LogFollow.Proofs.Explorer.Editor
import LogFollow.Proofs.Time.Calendar
import LogFollow.Proofs.Time.Iso
import LogFollow.Proofs.Result
import LogFollow.Proofs.Event.Form
import LogFollow.Proofs.Time.Span
import LogFollow.Proofs.CommandLine.Window
import LogFollow.Proofs.Keys.Name
import LogFollow.Proofs.Text.Lowercase
import LogFollow.Proofs.Text.Trim
import LogFollow.Proofs.Explorer.QueryBox
