import BrowserFlow.Action
import BrowserFlow.Browser.Adapter
import BrowserFlow.Browser.Launch
import BrowserFlow.Cli.Arguments
import BrowserFlow.Cli.Command
import BrowserFlow.Cli.Overview
import BrowserFlow.Cli.Printed
import BrowserFlow.Cli.Record
import BrowserFlow.Cli.Replay
import BrowserFlow.Cli.Run
import BrowserFlow.Cli.Terminal
import BrowserFlow.Config.EnvFile
import BrowserFlow.Config.Environment
import BrowserFlow.Config.Rule
import BrowserFlow.Config.Settings
import BrowserFlow.Config.Source
import BrowserFlow.Decimal.Binary
import BrowserFlow.Decimal.Fixed
import BrowserFlow.Decimal.Numeral
import BrowserFlow.Decimal.Power
import BrowserFlow.Decimal.Shortest
import BrowserFlow.Element
import BrowserFlow.Error
import BrowserFlow.Files.Path
import BrowserFlow.Files.Tree
import BrowserFlow.Locator
import BrowserFlow.Log.Record
import BrowserFlow.Log.Setup
import BrowserFlow.Log.Template
import BrowserFlow.Main
import BrowserFlow.Mode.Mode
import BrowserFlow.Mode.Request
import BrowserFlow.Mode.Result
import BrowserFlow.Page.Code
import BrowserFlow.Page.Request
import BrowserFlow.Record.Event
import BrowserFlow.Record.Recorder
import BrowserFlow.Recording
import BrowserFlow.Rehearsal.Call
import BrowserFlow.Rehearsal.Capture
import BrowserFlow.Rehearsal.Cue
import BrowserFlow.Rehearsal.Engine
import BrowserFlow.Rehearsal.Loop
import BrowserFlow.Rehearsal.Operation
import BrowserFlow.Rehearsal.Scenario
import BrowserFlow.Rehearsal.Scene
import BrowserFlow.Rehearsal.Session
import BrowserFlow.Rehearsal.Stage
import BrowserFlow.Rehearsal.Tab
import BrowserFlow.Replay.Host
import BrowserFlow.Replay.Replayer
import BrowserFlow.Replay.Report
import BrowserFlow.Replay.Run
import BrowserFlow.Replay.Wait
import BrowserFlow.Script.Layout
import BrowserFlow.Script.Literal
import BrowserFlow.Script.Reader
import BrowserFlow.Script.Statement
import BrowserFlow.Script.Step
import BrowserFlow.Script.Summary
import BrowserFlow.Session.Domain
import BrowserFlow.Session.Saved
import BrowserFlow.Session.Store
import BrowserFlow.Store
import BrowserFlow.Text.Base64
import BrowserFlow.Text.Blank
import BrowserFlow.Text.Case
import BrowserFlow.Text.Digit
import BrowserFlow.Text.Fields
import BrowserFlow.Text.Lines
import BrowserFlow.Text.Printable
import BrowserFlow.Text.Quoted
import BrowserFlow.Text.Utf8
import BrowserFlow.Time.Calendar
import BrowserFlow.Time.Instant
import BrowserFlow.Time.Iso8601
import BrowserFlow.Value.Access
import BrowserFlow.Value.Basic
import BrowserFlow.Value.Display
import BrowserFlow.Value.Json
import BrowserFlow.Value.JsonText
import BrowserFlow.Value.Number
import BrowserFlow.Value.Overlay
import BrowserFlow.Value.Same
import BrowserFlow.World
import BrowserFlow.Yaml.Block
import BrowserFlow.Yaml.Cursor
import BrowserFlow.Yaml.Document
import BrowserFlow.Yaml.Node
import BrowserFlow.Yaml.Plain
import BrowserFlow.Yaml.Quoted
import BrowserFlow.Yaml.Scalar
import BrowserFlow.Yaml.Timestamp
import BrowserFlow.Yaml.Token
import BrowserFlow.Proofs.Script.Literal
import BrowserFlow.Proofs.Script.Escape
import BrowserFlow.Proofs.Decimal.Numeral
import BrowserFlow.Proofs.Script.Statement
import BrowserFlow.Proofs.Result
import BrowserFlow.Proofs.Script.Block
import BrowserFlow.Proofs.Script.Commands
import BrowserFlow.Proofs.Files.Tree
import BrowserFlow.Proofs.Record.Effect
import BrowserFlow.Proofs.Record.Log
import BrowserFlow.Proofs.Script.Summary
import BrowserFlow.Proofs.Replay.Requests
import BrowserFlow.Proofs.Replay.Start
import BrowserFlow.Proofs.Replay.Recorded
import BrowserFlow.Proofs.Record.Course
import BrowserFlow.Proofs.Record.Rollback
import BrowserFlow.Proofs.Record.Captured
import BrowserFlow.Proofs.Script.Consolidation
import BrowserFlow.Proofs.Script.Writable
import BrowserFlow.Proofs.Store.Temporary
import BrowserFlow.Proofs.Store.Atomic
import BrowserFlow.Proofs.Element
import BrowserFlow.Proofs.Record.Stored
import BrowserFlow.Proofs.Record.ManualSteps
import BrowserFlow.Proofs.Script.Typed
import BrowserFlow.Proofs.Script.Description
import BrowserFlow.Proofs.Replay.Attempt
import BrowserFlow.Proofs.Replay.Progress
import BrowserFlow.Proofs.Replay.Stage
import BrowserFlow.Proofs.Replay.Gate
import BrowserFlow.Proofs.Replay.Course
import BrowserFlow.Proofs.Replay.Begun
import BrowserFlow.Proofs.Replay.Pause
import BrowserFlow.Proofs.Replay.Stop
import BrowserFlow.Proofs.Replay.Unblocked
import BrowserFlow.Proofs.Script.Header
import BrowserFlow.Proofs.Replay.Site
import BrowserFlow.Proofs.Replay.Readable
import BrowserFlow.Proofs.Replay.Shared
import BrowserFlow.Proofs.Files.Directory
import BrowserFlow.Proofs.Store.Outage
import BrowserFlow.Proofs.Store.Contents
import BrowserFlow.Proofs.Store.Refinement
import BrowserFlow.Proofs.Record.Listing
import BrowserFlow.Proofs.Record.Library
import BrowserFlow.Proofs.Record.Readable
import BrowserFlow.Proofs.Record.Deed
import BrowserFlow.Proofs.Record.Journal
import BrowserFlow.Proofs.Record.Ownership
import BrowserFlow.Proofs.Record.Overlap
import BrowserFlow.Proofs.Session.Restore
import BrowserFlow.Proofs.Script.Agreement
import BrowserFlow.Proofs.Script.Grouping
import BrowserFlow.Proofs.Session.Apart
import BrowserFlow.Proofs.Value.Overlay
import BrowserFlow.Proofs.Text.Case
import BrowserFlow.Proofs.Config.Settings
import BrowserFlow.Proofs.Config.Environment
import BrowserFlow.Proofs.Config.Source
import BrowserFlow.Proofs.Config.Layers
import BrowserFlow.Proofs.Script.Confinement
import BrowserFlow.Proofs.Script.Grammar
import BrowserFlow.Proofs.Element.Descent
import BrowserFlow.Proofs.Element.Walk
import BrowserFlow.Proofs.Element.Anchor
import BrowserFlow.Proofs.Value.JsonGrammar
import BrowserFlow.Proofs.Record.Wiring
import BrowserFlow.Proofs.Record.Listener
import BrowserFlow.Proofs.Record.Accepted
import BrowserFlow.Proofs.Script.KeyPress
import BrowserFlow.Proofs.Script.Amounts
import BrowserFlow.Proofs.Session.Labels
import BrowserFlow.Proofs.Replay.Polling
import BrowserFlow.Proofs.Time.RoundTrip
import BrowserFlow.Proofs.Script.Foreign
import BrowserFlow.Proofs.Store.Fault
import BrowserFlow.Proofs.Mode.Course
import BrowserFlow.Proofs.Mode.Stop
