import SnippetProfiler.Metrics.Data
import SnippetProfiler.Run.Error
import SnippetProfiler.Trace.Data

/-!
# Outcomes and reports

How a run ends: with what it printed, its trace and its duration, or with a failure that
has a kind, a message and, if it is known, a line.  The report of a run is what a caller gets of
it: its id, its language, its outcome, and the metrics of a run that ended well.
-/

namespace SnippetProfiler

open Validation (Checked Fault Fields Reason Step float positive int string list nullable literal
  record variant)

/-- The line at which a run failed, a number or a word. -/
inductive FailureLine where
  | number (n : Int)
  | word (s : String)
  deriving DecidableEq, Repr

/-- The word for a line that is not known. -/
def unknownLine : FailureLine := .word "unknown"

namespace FailureLine

/-- Reads a line or null.  A text and an integer are taken as they are; another value may
still be read as an integer. -/
def read : Json → Checked (Option FailureLine)
  | .null => .valid none
  | .str s => .valid (some (.word s))
  | v => match int v with
    | .valid n => .valid (some (.number n))
    | .faulty fs =>
      .faulty (fs.map (fun f => { f with path := .key "int" :: f.path })
        ++ [⟨[.key "str"], .stringType⟩])

/-- A line as data. -/
def toJson : Option FailureLine → Json
  | some (number n) => .int n
  | some (word s) => .str s
  | none => .null

end FailureLine

/-- A run that ended well. -/
structure Success where
  output : String := ""
  trace : Trace Float := []
  duration : Float := 0
  errors : String := ""
  deriving Repr

/-- A run that did not. -/
structure Failure where
  kind : ErrorKind
  message : String
  line : Option FailureLine := none
  stack : Option String := none
  timeout : Option Float := none
  deriving Repr

/-- How a run ended. -/
inductive Outcome where
  | success (s : Success)
  | failure (f : Failure)
  deriving Repr

/-! ### Outcomes as data -/

/-- Reads the fields of a success. -/
def Success.ofFields (fields : Fields) : Checked Success :=
  (fun _ output => Success.mk output) <$> fields.optional "status" () (literal "success")
    <*> fields.optional "output" "" string
    <*> fields.optional "trace" [] (list TraceEvent.read)
    <*> fields.optional "totalDurationMs" 0 float
    <*> fields.optional "stderr" "" string

/-- A success as data. -/
def Success.toJson (s : Success) : Json :=
  .obj [("status", .str "success"), ("output", .str s.output),
    ("trace", Json.list TraceEvent.toJson s.trace), ("totalDurationMs", .float s.duration),
    ("stderr", .str s.errors)]

/-- Reads a kind of failure. -/
def ErrorKind.read : Json → Checked ErrorKind
  | .str s => match ErrorKind.ofWord? s with
    | some k => .valid k
    | none => .fault .notInEnumeration
  | _ => .fault .notInEnumeration

/-- Reads the fields of a failure. -/
def Failure.ofFields (fields : Fields) : Checked Failure :=
  (fun _ kind => Failure.mk kind) <$> fields.optional "status" () (literal "failure")
    <*> fields.required "kind" ErrorKind.read
    <*> fields.required "message" string
    <*> fields.optional "sourceLine" none FailureLine.read
    <*> fields.optional "stack" none (nullable string)
    <*> fields.optional "timeoutMs" none (nullable float)

/-- A failure as data. -/
def Failure.toJson (f : Failure) : Json :=
  .obj [("status", .str "failure"), ("kind", .str f.kind.word), ("message", .str f.message),
    ("sourceLine", FailureLine.toJson f.line), ("stack", Json.ofText? f.stack),
    ("timeoutMs", Json.ofFloat? f.timeout)]

namespace Outcome

/-- Reads an outcome. -/
def read : Json → Checked Outcome :=
  variant "status" fun word =>
    if word = "success" then some fun fields => (Success.ofFields fields).map success
    else if word = "failure" then some fun fields => (Failure.ofFields fields).map failure
    else none

/-- An outcome as data. -/
def toJson : Outcome → Json
  | success s => s.toJson
  | failure f => f.toJson

end Outcome

/-! ### Reports -/

/-- The report of a run. -/
structure RunReport where
  id : String
  language : String
  outcome : Outcome
  metrics : Option (ExecutionMetrics Float) := none
  deriving Repr

namespace RunReport

/-- Reads a report. -/
def read : Json → Checked RunReport :=
  record fun fields =>
    RunReport.mk <$> fields.required "executionId" string <*> fields.required "language" string
      <*> fields.required "outcome" Outcome.read
      <*> fields.optional "metrics" none (nullable ExecutionMetrics.read)

/-- A report as data. -/
def toJson (r : RunReport) : Json :=
  .obj [("executionId", .str r.id), ("language", .str r.language), ("outcome", r.outcome.toJson),
    ("metrics", match r.metrics with
      | some m => m.toJson
      | none => .null)]

end RunReport

end SnippetProfiler
