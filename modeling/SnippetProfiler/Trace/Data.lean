import SnippetProfiler.Text.Clip
import SnippetProfiler.Trace.Event
import SnippetProfiler.Trace.Options
import SnippetProfiler.Validation.Record

/-!
# Trace events as data

For the options and each kind of event, `read` takes data for a record and `toJson` gives
the record as data, all fields included.  Summaries of arguments and values are clipped
when they are read.
-/

namespace SnippetProfiler

open Validation (Checked Fields float int bool string list nullable record variant literal)

/-! ### Options -/

/-- Reads the fields of options; what is not mentioned is tracked. -/
def TrackingOptions.ofFields (fields : Fields) : Checked TrackingOptions :=
  let flag (name : String) := fields.optional name true bool
  TrackingOptions.mk <$> flag "trackMemory" <*> flag "trackVariables" <*> flag "trackFunctions"
    <*> flag "trackExecutionFlow"

/-- Reads options. -/
def TrackingOptions.read : Json → Checked TrackingOptions := record TrackingOptions.ofFields

/-- Options as an instrumented program takes them: what has a value that counts as on. -/
def TrackingOptions.ofPresent (isOn : Json → Bool) (v : Json) : TrackingOptions :=
  let flag (name : String) := (v.get? name).any isOn
  ⟨flag "trackMemory", flag "trackVariables", flag "trackFunctions", flag "trackExecutionFlow"⟩

/-- Options as data. -/
def TrackingOptions.toJson (o : TrackingOptions) : Json :=
  .obj (o.fields.map fun (k, v) => (k, .bool v))

/-! ### Kinds -/

/-- The word for a kind of event. -/
def EventKind.word : EventKind → String
  | .memory => "memory"
  | .functionCall => "functionCall"
  | .variableState => "variableState"
  | .executionFlow => "executionFlow"

/-- The kind of event with a word. -/
def EventKind.ofWord? (word : String) : Option EventKind :=
  [memory, functionCall, variableState, executionFlow].find? (·.word = word)

/-- Checks the field that names the kind of an event. -/
def EventKind.check (kind : EventKind) (fields : Fields) : Checked Unit :=
  fields.optional "kind" () (literal kind.word)

/-! ### Events -/

/-- Reads the fields of a memory sample. -/
def MemorySample.ofFields (fields : Fields) : Checked (MemorySample Float) :=
  (fun _ time => MemorySample.mk time) <$> EventKind.memory.check fields
    <*> fields.required "timestampMs" float
    <*> fields.required "rss" int
    <*> fields.optional "vms" 0 int
    <*> fields.optional "allocatedDelta" 0 int
    <*> fields.optional "deallocatedDelta" 0 int

/-- A memory sample as data. -/
def MemorySample.toJson (s : MemorySample Float) : Json :=
  .obj [("kind", .str EventKind.memory.word), ("timestampMs", .float s.time),
    ("rss", .int s.resident), ("vms", .int s.virtual), ("allocatedDelta", .int s.allocated),
    ("deallocatedDelta", .int s.deallocated)]

/-- Reads the fields of a call. -/
def FunctionCall.ofFields (fields : Fields) : Checked (FunctionCall Float) :=
  (fun _ time => FunctionCall.mk time) <$> EventKind.functionCall.check fields
    <*> fields.required "timestampMs" float
    <*> fields.required "name" string
    <*> fields.optional "caller" none (nullable string)
    <*> fields.optional "argSummaries" [] (fun v => (list string v).map (·.map Text.summary))
    <*> fields.optional "durationMs" 0 float

/-- A call as data. -/
def FunctionCall.toJson (c : FunctionCall Float) : Json :=
  .obj [("kind", .str EventKind.functionCall.word), ("timestampMs", .float c.time),
    ("name", .str c.name), ("caller", Json.ofText? c.caller),
    ("argSummaries", Json.texts c.arguments), ("durationMs", .float c.duration)]

/-- Reads the fields of a variable state. -/
def VariableState.ofFields (fields : Fields) : Checked (VariableState Float) :=
  (fun _ time => VariableState.mk time) <$> EventKind.variableState.check fields
    <*> fields.required "timestampMs" float
    <*> fields.required "name" string
    <*> fields.required "typeName" string
    <*> fields.required "valueSummary" (fun v => (string v).map Text.summary)
    <*> fields.optional "sourceLine" none (nullable int)

/-- A variable state as data. -/
def VariableState.toJson (v : VariableState Float) : Json :=
  .obj [("kind", .str EventKind.variableState.word), ("timestampMs", .float v.time),
    ("name", .str v.name), ("typeName", .str v.typeName), ("valueSummary", .str v.value),
    ("sourceLine", Json.ofInt? v.line)]

/-- Reads the fields of an executed line. -/
def LineExecution.ofFields (fields : Fields) : Checked (LineExecution Float) :=
  (fun _ time => LineExecution.mk time) <$> EventKind.executionFlow.check fields
    <*> fields.required "timestampMs" float
    <*> fields.required "sourceLine" int
    <*> fields.optional "sourceText" "" string
    <*> fields.optional "durationMs" 0 float

/-- An executed line as data. -/
def LineExecution.toJson (l : LineExecution Float) : Json :=
  .obj [("kind", .str EventKind.executionFlow.word), ("timestampMs", .float l.time),
    ("sourceLine", .int l.line), ("sourceText", .str l.text), ("durationMs", .float l.duration)]

namespace TraceEvent

/-- Reads the fields of an event of a known kind. -/
def ofFields : EventKind → Fields → Checked (TraceEvent Float)
  | .memory, fields => (MemorySample.ofFields fields).map .memory
  | .functionCall, fields => (FunctionCall.ofFields fields).map .functionCall
  | .variableState, fields => (VariableState.ofFields fields).map .variableState
  | .executionFlow, fields => (LineExecution.ofFields fields).map .executionFlow

/-- Reads an event of a known kind. -/
def readKind (kind : EventKind) : Json → Checked (TraceEvent Float) := record (ofFields kind)

/-- Reads an event that names its kind. -/
def read : Json → Checked (TraceEvent Float) :=
  variant "kind" fun word => (EventKind.ofWord? word).map ofFields

/-- An event as data. -/
def toJson : TraceEvent Float → Json
  | memory s => s.toJson
  | functionCall c => c.toJson
  | variableState v => v.toJson
  | executionFlow l => l.toJson

/-- An event as data without its kind. -/
def dataJson (e : TraceEvent Float) : Json :=
  match e.toJson with
  | .obj fields => .obj (fields.drop 1)
  | v => v

end TraceEvent

end SnippetProfiler
