import LintServer.Bridge.Reply
import LintServer.Bridge.Request
import LintServer.Bridge.Script
import LintServer.Child
import LintServer.Diagnostic
import LintServer.Engine.Error
import LintServer.Engine.Node
import LintServer.FileAction
import LintServer.FileTree
import LintServer.FileWatch
import LintServer.Json.Basic
import LintServer.Json.Fault
import LintServer.Json.Printer
import LintServer.Json.Reader
import LintServer.Json.Record
import LintServer.Launch.Arguments
import LintServer.Launch.Config
import LintServer.Launch.Host
import LintServer.Log
import LintServer.Main
import LintServer.Notice
import LintServer.Number.Double
import LintServer.Number.Shortest
import LintServer.Package
import LintServer.Path
import LintServer.Report
import LintServer.Rpc.Capabilities
import LintServer.Rpc.Connection
import LintServer.Rpc.Frame
import LintServer.Rpc.Intent
import LintServer.Rpc.Message
import LintServer.Rpc.Outgoing
import LintServer.Rpc.Params
import LintServer.Rpc.Service
import LintServer.Rpc.Shape
import LintServer.Rpc.Vocabulary
import LintServer.Scenario
import LintServer.Server.Announcement
import LintServer.Server.Batch
import LintServer.Server.Event
import LintServer.Server.Handshake
import LintServer.Server.Machine
import LintServer.Server.Shared
import LintServer.Server.Task
import LintServer.Server.Validation
import LintServer.Server.Watching
import LintServer.Settings
import LintServer.SystemError
import LintServer.Text.Blank
import LintServer.Text.Combining
import LintServer.Text.Cut
import LintServer.Text.Invisible
import LintServer.Text.Quoted
import LintServer.Text.Utf8
import LintServer.Unicode.Bidi
import LintServer.Unicode.Composition
import LintServer.Unicode.DomainMapping
import LintServer.Unicode.Joining
import LintServer.Unicode.Mark
import LintServer.Unicode.Normal
import LintServer.Unicode.Table
import LintServer.Url.Basic
import LintServer.Url.Domain
import LintServer.Url.Host
import LintServer.Url.Label
import LintServer.Url.Parser
import LintServer.Url.Percent
import LintServer.Proofs.Server.Flight
import LintServer.Proofs.Server.History
import LintServer.Proofs.Server.Provenance
import LintServer.Proofs.Server.Staleness
import LintServer.Proofs.Server.Closing
import LintServer.Proofs.Server.Revalidation
import LintServer.Proofs.Server.Readiness
import LintServer.Proofs.Server.Handshakes
import LintServer.Proofs.Server.Failures
import LintServer.Proofs.Server.Supersession
import LintServer.Proofs.Notices
import LintServer.Proofs.Server.Alone
import LintServer.Proofs.Server.Batches
import LintServer.Proofs.Server.Amid
import LintServer.Proofs.Server.Silence
import LintServer.Proofs.Translation
import LintServer.Proofs.EmptyReports
import LintServer.Proofs.Settings
import LintServer.Proofs.Text.Utf8
import LintServer.Proofs.Json.Grammar
import LintServer.Proofs.Json.Strings
import LintServer.Proofs.Json.Numbers
import LintServer.Proofs.Json.Values
import LintServer.Proofs.Json.Passing
import LintServer.Proofs.Json.Records
import LintServer.Proofs.Json.Kept
import LintServer.Proofs.Json.Printing
import LintServer.Proofs.Bridge.Replies
import LintServer.Proofs.Bridge.Requests
import LintServer.Proofs.Bridge.Truncation
import LintServer.Proofs.Path
import LintServer.Proofs.Packages
import LintServer.Proofs.SearchDirs
import LintServer.Proofs.Server.ChildOutcomes
import LintServer.Proofs.Server.PushedOptions
import LintServer.Proofs.Loading
import LintServer.Proofs.Server.Loading
import LintServer.Proofs.Server.Coalescing
import LintServer.Proofs.Server.LineEndings
import LintServer.Proofs.Url.Visible
import LintServer.Proofs.OneLine
import LintServer.Proofs.FileWatch
import LintServer.Proofs.WrittenArguments
import LintServer.Proofs.Positions
