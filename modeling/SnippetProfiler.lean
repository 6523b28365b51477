import SnippetProfiler.Braced.Action
import SnippetProfiler.Braced.Collector
import SnippetProfiler.Braced.Growth
import SnippetProfiler.Braced.Handler
import SnippetProfiler.Braced.Hook
import SnippetProfiler.Braced.Plan
import SnippetProfiler.Braced.Program
import SnippetProfiler.Braced.Session
import SnippetProfiler.Braced.Thrown
import SnippetProfiler.Braced.Token
import SnippetProfiler.Braced.Value
import SnippetProfiler.Calendar
import SnippetProfiler.Comparison.Engine
import SnippetProfiler.Comparison.Verdict
import SnippetProfiler.Complexity.Estimate
import SnippetProfiler.Decimal.Binary
import SnippetProfiler.Decimal.Read
import SnippetProfiler.Decimal.Sum
import SnippetProfiler.Decimal.Text
import SnippetProfiler.Feed.Basic
import SnippetProfiler.Feed.Store
import SnippetProfiler.Indented.Action
import SnippetProfiler.Indented.Collector
import SnippetProfiler.Indented.Exception
import SnippetProfiler.Indented.Format
import SnippetProfiler.Indented.Grammar.Basic
import SnippetProfiler.Indented.Grammar.Expression
import SnippetProfiler.Indented.Grammar.Pattern
import SnippetProfiler.Indented.Grammar.Statement
import SnippetProfiler.Indented.Growth
import SnippetProfiler.Indented.Handler
import SnippetProfiler.Indented.Inject
import SnippetProfiler.Indented.Literal
import SnippetProfiler.Indented.Nesting
import SnippetProfiler.Indented.Outline
import SnippetProfiler.Indented.Placement
import SnippetProfiler.Indented.Places
import SnippetProfiler.Indented.Printer
import SnippetProfiler.Indented.Program
import SnippetProfiler.Indented.Scope
import SnippetProfiler.Indented.Session
import SnippetProfiler.Indented.Shape
import SnippetProfiler.Indented.Syntax
import SnippetProfiler.Indented.Token
import SnippetProfiler.Indented.Value
import SnippetProfiler.Json.Access
import SnippetProfiler.Json.Basic
import SnippetProfiler.Json.Encoding
import SnippetProfiler.Json.Reader
import SnippetProfiler.Json.Writer
import SnippetProfiler.Metrics.Basic
import SnippetProfiler.Metrics.Data
import SnippetProfiler.Metrics.Dot
import SnippetProfiler.Orchestration.Handler
import SnippetProfiler.Orchestration.Languages
import SnippetProfiler.Orchestration.Orchestrator
import SnippetProfiler.Orchestration.Registry
import SnippetProfiler.Orchestration.Relay
import SnippetProfiler.Orchestration.Run
import SnippetProfiler.Powers
import SnippetProfiler.Probe.Recorder
import SnippetProfiler.Probe.Scripted
import SnippetProfiler.Proofs.Braced.Alignment
import SnippetProfiler.Proofs.Braced.Comments
import SnippetProfiler.Proofs.Braced.Conservation
import SnippetProfiler.Proofs.Braced.Deeds
import SnippetProfiler.Proofs.Braced.Fragments
import SnippetProfiler.Proofs.Braced.Hooks
import SnippetProfiler.Proofs.Braced.Inclusion
import SnippetProfiler.Proofs.Braced.LineTable
import SnippetProfiler.Proofs.Braced.Lines
import SnippetProfiler.Proofs.Braced.Location
import SnippetProfiler.Proofs.Braced.Lookahead
import SnippetProfiler.Proofs.Braced.Nesting
import SnippetProfiler.Proofs.Braced.Pieces
import SnippetProfiler.Proofs.Braced.Places
import SnippetProfiler.Proofs.Braced.Reports
import SnippetProfiler.Proofs.Braced.Scans
import SnippetProfiler.Proofs.Braced.Sessions
import SnippetProfiler.Proofs.Braced.Snippet
import SnippetProfiler.Proofs.Braced.Statements
import SnippetProfiler.Proofs.Braced.Strictness
import SnippetProfiler.Proofs.Braced.Tiling
import SnippetProfiler.Proofs.Braced.Transparency
import SnippetProfiler.Proofs.Braced.View
import SnippetProfiler.Proofs.Braced.Woven
import SnippetProfiler.Proofs.Comparison.Ranking
import SnippetProfiler.Proofs.Comparison.Stopping
import SnippetProfiler.Proofs.Complexity.Fitting
import SnippetProfiler.Proofs.Complexity.Growth
import SnippetProfiler.Proofs.Complexity.Points
import SnippetProfiler.Proofs.Decimal.Nearest
import SnippetProfiler.Proofs.Feed.Eviction
import SnippetProfiler.Proofs.Feed.Following
import SnippetProfiler.Proofs.Feed.Room
import SnippetProfiler.Proofs.Feed.Shelf
import SnippetProfiler.Proofs.Indented.Callers
import SnippetProfiler.Proofs.Indented.Codes
import SnippetProfiler.Proofs.Indented.Completion
import SnippetProfiler.Proofs.Indented.Erasure
import SnippetProfiler.Proofs.Indented.Features
import SnippetProfiler.Proofs.Indented.Header
import SnippetProfiler.Proofs.Indented.Hooked
import SnippetProfiler.Proofs.Indented.Imports
import SnippetProfiler.Proofs.Indented.LineMap
import SnippetProfiler.Proofs.Indented.Operands
import SnippetProfiler.Proofs.Indented.Plain
import SnippetProfiler.Proofs.Indented.Quoting
import SnippetProfiler.Proofs.Indented.Reading
import SnippetProfiler.Proofs.Indented.Recursion
import SnippetProfiler.Proofs.Indented.Scanning
import SnippetProfiler.Proofs.Indented.Snippet
import SnippetProfiler.Proofs.Indented.Walk
import SnippetProfiler.Proofs.Json.RoundTrip
import SnippetProfiler.Proofs.Json.Scalars
import SnippetProfiler.Proofs.Metrics.Calls
import SnippetProfiler.Proofs.Metrics.Drawing
import SnippetProfiler.Proofs.Metrics.Heatmap
import SnippetProfiler.Proofs.Metrics.Tally
import SnippetProfiler.Proofs.Metrics.Timelines
import SnippetProfiler.Proofs.Orchestration.Claims
import SnippetProfiler.Proofs.Orchestration.Courses
import SnippetProfiler.Proofs.Orchestration.Schedule
import SnippetProfiler.Proofs.Orchestration.Steps
import SnippetProfiler.Proofs.Probe.Calls
import SnippetProfiler.Proofs.Probe.Clock
import SnippetProfiler.Proofs.Probe.Memory
import SnippetProfiler.Proofs.Probe.Notes
import SnippetProfiler.Proofs.Probe.Order
import SnippetProfiler.Proofs.Probe.Recorder
import SnippetProfiler.Proofs.Probe.Time
import SnippetProfiler.Proofs.Quantity.Float
import SnippetProfiler.Proofs.Quantity.Rounding
import SnippetProfiler.Proofs.Sandbox.Children
import SnippetProfiler.Proofs.Sandbox.Ending
import SnippetProfiler.Proofs.Sandbox.Life
import SnippetProfiler.Proofs.Sandbox.Stream
import SnippetProfiler.Proofs.Sandbox.Times
import SnippetProfiler.Proofs.Service.Completion
import SnippetProfiler.Proofs.Service.Observation
import SnippetProfiler.Proofs.Service.Refusals
import SnippetProfiler.Proofs.Service.Steps
import SnippetProfiler.Proofs.Sorting
import SnippetProfiler.Proofs.Text.Compatible
import SnippetProfiler.Proofs.Text.Lines
import SnippetProfiler.Proofs.Trace.Clipping
import SnippetProfiler.Proofs.Trace.Data
import SnippetProfiler.Proofs.Trace.Kinds
import SnippetProfiler.Proofs.Trace.Origins
import SnippetProfiler.Proofs.Trace.RoundTrip
import SnippetProfiler.Proofs.Trace.Sentinel
import SnippetProfiler.Proofs.Validation.Idempotence
import SnippetProfiler.Proofs.Validation.Records
import SnippetProfiler.Quantity
import SnippetProfiler.Run.Error
import SnippetProfiler.Run.Outcome
import SnippetProfiler.Run.Request
import SnippetProfiler.Sandbox.Basic
import SnippetProfiler.Sandbox.Child
import SnippetProfiler.Sandbox.Reading
import SnippetProfiler.Sandbox.State
import SnippetProfiler.Service.Answer
import SnippetProfiler.Service.Basic
import SnippetProfiler.Service.Body
import SnippetProfiler.Service.Request
import SnippetProfiler.Service.Route
import SnippetProfiler.Service.Workshop
import SnippetProfiler.Settings.Assignments
import SnippetProfiler.Settings.Basic
import SnippetProfiler.Sorting
import SnippetProfiler.Text.Blank
import SnippetProfiler.Text.Classes
import SnippetProfiler.Text.Clip
import SnippetProfiler.Text.Decompositions
import SnippetProfiler.Text.Digits
import SnippetProfiler.Text.Identifier
import SnippetProfiler.Text.Lines
import SnippetProfiler.Text.Lower
import SnippetProfiler.Text.Names
import SnippetProfiler.Text.Names.Ancient
import SnippetProfiler.Text.Names.Emblems
import SnippetProfiler.Text.Names.Forms
import SnippetProfiler.Text.Names.Letters
import SnippetProfiler.Text.Names.Other
import SnippetProfiler.Text.Names.Symbols
import SnippetProfiler.Text.Percent
import SnippetProfiler.Text.Quoted
import SnippetProfiler.Text.Title
import SnippetProfiler.Text.Utf8
import SnippetProfiler.Text.Wide
import SnippetProfiler.Trace.Data
import SnippetProfiler.Trace.Event
import SnippetProfiler.Trace.Frame
import SnippetProfiler.Trace.Options
import SnippetProfiler.Validation.Fault
import SnippetProfiler.Validation.Record
import SnippetProfiler.Validation.Value
