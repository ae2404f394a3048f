import RoomConsole.Text.Utf8
import RoomConsole.Text.Literal
import RoomConsole.Text.Lowercase
import RoomConsole.Number.Shortest
import RoomConsole.Json.Value
import RoomConsole.Json.Write
import RoomConsole.Json.Error
import RoomConsole.Json.Scan
import RoomConsole.Json.Reader
import RoomConsole.Json.Decoder
import RoomConsole.Text.Space
import RoomConsole.Time.Instant
import RoomConsole.Json.Instant
import RoomConsole.Room.Entry
import RoomConsole.Room.Json
import RoomConsole.Room.Settings
import RoomConsole.Room.Filter
import RoomConsole.Pull.Status
import RoomConsole.Pull.Json
import RoomConsole.Capabilities
import RoomConsole.Http.Status
import RoomConsole.Url.Percent
import RoomConsole.Url.Punycode
import RoomConsole.Url.Host
import RoomConsole.Url.Basic
import RoomConsole.Url.Parse
import RoomConsole.Client.Error
import RoomConsole.Error
import RoomConsole.Event.Frame
import RoomConsole.Event.ServerEvent
import RoomConsole.Reference
import RoomConsole.Text.Width
import RoomConsole.Text.LineBreak
import RoomConsole.Text.Wrap
import RoomConsole.Report
import RoomConsole.Host.Files
import RoomConsole.Host.Run
import RoomConsole.Cli.Appearance
import RoomConsole.Config.Basic
import RoomConsole.Cli.Failure
import RoomConsole.Cli.Spec
import RoomConsole.Cli.Styled
import RoomConsole.Cli.Usage
import RoomConsole.Cli.Fault
import RoomConsole.Cli.Help
import RoomConsole.Cli.Similar
import RoomConsole.Cli.Parse
import RoomConsole.Cli.Options
import RoomConsole.Cli.Tree
import RoomConsole.Host.Prompt
import RoomConsole.Toml.Value
import RoomConsole.Layered.Value
import RoomConsole.Layered.Extract
import RoomConsole.Toml.Read
import RoomConsole.Config.Load
import RoomConsole.Toml.Write
import RoomConsole.Config.Save
import RoomConsole.Text.Base64
import RoomConsole.Tls.Certificate
import RoomConsole.Client.Transport
import RoomConsole.Http.Message
import RoomConsole.Client.Api
import RoomConsole.Store.Basic
import RoomConsole.Dispatcher
import RoomConsole.Feed
import RoomConsole.Feed.Task
import RoomConsole.Console
import RoomConsole.Console.Calls
import RoomConsole.Config.Resolve
import RoomConsole.Text.Yaml
import RoomConsole.Completion.Basic
import RoomConsole.Completion.Bash
import RoomConsole.Completion.Zsh
import RoomConsole.Completion.Fish
import RoomConsole.Completion.PowerShell
import RoomConsole.Completion.Elvish
import RoomConsole.Completion.Script
import RoomConsole.Cli.Program
import RoomConsole.Cli.Watch
import RoomConsole.Main
import RoomConsole.Manual.Roff
import RoomConsole.Manual.Page
import RoomConsole.Manual.Install
import RoomConsole.Store.Stream
import RoomConsole.Proofs.Room.Patch
import RoomConsole.Proofs.Store.Collection
import RoomConsole.Proofs.Store.Coherence
import RoomConsole.Proofs.Store.Refinement
import RoomConsole.Proofs.Store.Publication
import RoomConsole.Proofs.Feed.Projection
import RoomConsole.Proofs.Feed.Commute
import RoomConsole.Proofs.Dispatcher
import RoomConsole.Proofs.Event.Frames
import RoomConsole.Proofs.Feed.Subscription
import RoomConsole.Proofs.Url.Percent
import RoomConsole.Proofs.Url.Path
import RoomConsole.Proofs.Url.Settled
import RoomConsole.Proofs.Client.Routes
import RoomConsole.Proofs.Url.Reparse
import RoomConsole.Proofs.Client.Refusal
import RoomConsole.Proofs.Cli.Settings
import RoomConsole.Proofs.Text.Utf8
import RoomConsole.Proofs.Event.Standard
import RoomConsole.Proofs.Cli.Setup
import RoomConsole.Proofs.Host.Frame
import RoomConsole.Proofs.Pull.Totals
import RoomConsole.Proofs.Feed.Task
import RoomConsole.Proofs.Feed.Hydration
import RoomConsole.Proofs.Cli.Watch
import RoomConsole.Proofs.Console.Calls
