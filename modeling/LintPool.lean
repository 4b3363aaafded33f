import LintPool.Binary64.Basic
import LintPool.Binary64.Shortest
import LintPool.Binary64.Text
import LintPool.Cache.Basic
import LintPool.Cache.PackageRoots
import LintPool.Cache.PnpLoaders
import LintPool.Cache.Scan
import LintPool.CommandLine.Arguments
import LintPool.CommandLine.Run
import LintPool.Config.Load
import LintPool.Config.Settings
import LintPool.Digest.Sha256
import LintPool.Environment.Key
import LintPool.FileTree.Basic
import LintPool.FileTree.Edit
import LintPool.FileTree.Walk
import LintPool.Frame.Decoder
import LintPool.Frame.Grammar
import LintPool.Frame.Header
import LintPool.Frame.Writer
import LintPool.Health.Basic
import LintPool.Health.Policy
import LintPool.Host.Basic
import LintPool.Host.Child
import LintPool.Json.Basic
import LintPool.Json.Printer
import LintPool.Json.Reader
import LintPool.Json.Schema
import LintPool.Main
import LintPool.Path
import LintPool.Program.Launch
import LintPool.Program.Routine
import LintPool.Proofs.Health.History
import LintPool.Proofs.Pool.Handing
import LintPool.Proofs.Pool.Outage
import LintPool.Proofs.Pool.Ownership
import LintPool.Proofs.Pool.Runs
import LintPool.Proofs.Pool.TornDown
import LintPool.Proofs.Registry.Balance
import LintPool.Proofs.Registry.Filing
import LintPool.Proofs.Registry.Healths
import LintPool.Proofs.Registry.Slots
import LintPool.Record.Fields
import LintPool.Record.Manager
import LintPool.Record.Options
import LintPool.Record.Outcome
import LintPool.Registry.Basic
import LintPool.Registry.Call
import LintPool.Registry.Pool
import LintPool.Registry.Run
import LintPool.Registry.Slot
import LintPool.Rehearsal.Stage
import LintPool.Rehearsal.Workers
import LintPool.Search.GlobalModules
import LintPool.Search.Lines
import LintPool.Search.Pnp
import LintPool.Search.Upward
import LintPool.Service.Basic
import LintPool.Session.Basic
import LintPool.Session.Request
import LintPool.Session.Step
import LintPool.Session.Stop
import LintPool.Session.Streams
import LintPool.Shell.Arithmetic
import LintPool.Shell.Builtin
import LintPool.Shell.Builtin.Course
import LintPool.Shell.Builtin.Settings
import LintPool.Shell.Builtin.Text
import LintPool.Shell.Command
import LintPool.Shell.Condition
import LintPool.Shell.Engine
import LintPool.Shell.Expansion
import LintPool.Shell.Format
import LintPool.Shell.Pattern
import LintPool.Shell.Redirect
import LintPool.Shell.Run
import LintPool.Shell.Signal
import LintPool.Shell.State
import LintPool.Shell.Token
import LintPool.Shell.Tool
import LintPool.Shell.Tool.Basic
import LintPool.Shell.Tool.Characters
import LintPool.Shell.Tool.Copying
import LintPool.Shell.Tool.Lines
import LintPool.Shell.Tool.Numbers
import LintPool.Shell.Tool.Places
import LintPool.Shell.Word
import LintPool.Text.Blank
import LintPool.Text.Hex
import LintPool.Text.Quoted
import LintPool.Text.Unprintable
import LintPool.Text.Utf8
import LintPool.Time
import LintPool.Toml.Reader
import LintPool.Toml.Scalar
import LintPool.Toml.Table
import LintPool.Toml.Text
import LintPool.Worker.Context
import LintPool.Worker.Error
import LintPool.Worker.Finding
import LintPool.Worker.Message
import LintPool.Proofs.Health.Schedule
import LintPool.Proofs.Registry.Series
import LintPool.Proofs.Health.Likeness
import LintPool.Proofs.Pool.Strikes
import LintPool.Proofs.Pool.Activity
import LintPool.Proofs.Pool.Teardown
import LintPool.Proofs.Path.Components
import LintPool.Proofs.Cache.Index
import LintPool.Proofs.Search.Locality
import LintPool.Proofs.Cache.Recall
import LintPool.Proofs.Cache.Lookups
import LintPool.Proofs.Cache.Transparency
import LintPool.Search.Stepwise
import LintPool.Cache.Desk
import LintPool.Proofs.Search.Stepwise
import LintPool.Proofs.Cache.Desk
import LintPool.Proofs.Cache.Overlap
import LintPool.Proofs.Session.Runs
import LintPool.Proofs.Session.Pending
import LintPool.Proofs.Session.Numbers
import LintPool.Proofs.Session.Quiet
import LintPool.Proofs.Session.Replies
import LintPool.Proofs.Session.Ending
import LintPool.Proofs.Text.Utf8
import LintPool.Proofs.Json.Scalars
import LintPool.Proofs.Json.RoundTrip
import LintPool.Proofs.Json.Bounds
import LintPool.Proofs.Frame.Lines
import LintPool.Proofs.Frame.Pieces
import LintPool.Proofs.Frame.Streams
import LintPool.Proofs.Frame.RoundTrip
import LintPool.Proofs.Session.Works
import LintPool.Proofs.Session.Held
import LintPool.Proofs.Session.Steady
import LintPool.Proofs.Session.Pipe
import LintPool.Proofs.Session.Draining
import LintPool.Proofs.Session.Blocked
import LintPool.Proofs.Session.Freed
import LintPool.Proofs.Session.Stranded
import LintPool.Proofs.FileTree.Walks
import LintPool.Proofs.Path.NulFree
import LintPool.Proofs.Environment.Material
import LintPool.Proofs.Registry.Steady
import LintPool.Proofs.Registry.Reuse
import LintPool.Proofs.Path.Resolved
import LintPool.Proofs.Cache.Entries
import LintPool.Proofs.Service.Containment
import LintPool.Proofs.Search.Spellings
import LintPool.Proofs.Service.Sharing
import LintPool.Proofs.Cache.Refinement
import LintPool.Proofs.Session.Idleness
import LintPool.Proofs.Search.Nearest
import LintPool.Proofs.Service.RootPolicy
import LintPool.Proofs.Health.Windows
import LintPool.Proofs.Search.Lines
import LintPool.Proofs.Session.Answers
import LintPool.Proofs.Search.GlobalModules
import LintPool.Proofs.Record.RoundTrip
import LintPool.Proofs.Health.Clamping
import LintPool.Proofs.Pool.Policies
