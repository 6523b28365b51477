import SnippetProfiler.Metrics.Basic

/-!
# Metrics as data

For each record of the metrics, `read` takes data for it and `toJson` gives it as data.
-/

namespace SnippetProfiler

open Validation (Checked Fields float int string list nullable record)

/-- The key of the duration of a run in a summary. -/
def executionTimeKey : String := "execution_time_ms"

/-! ### Functions -/

/-- Reads an entry of the table of functions. -/
def FunctionStats.read : Json → Checked (FunctionStats Float) :=
  record fun fields =>
    FunctionStats.mk <$> fields.required "name" string <*> fields.required "callCount" int
      <*> fields.required "totalDurationMs" float <*> fields.required "averageDurationMs" float

/-- An entry of the table of functions as data. -/
def FunctionStats.toJson (s : FunctionStats Float) : Json :=
  .obj [("name", .str s.name), ("callCount", .int s.callCount),
    ("totalDurationMs", .float s.total), ("averageDurationMs", .float s.average)]

/-- Reads the function that took longest. -/
def ExpensiveFunction.read : Json → Checked (ExpensiveFunction Float) :=
  record fun fields =>
    ExpensiveFunction.mk <$> fields.required "name" string
      <*> fields.required "totalDurationMs" float

/-- The function that took longest as data. -/
def ExpensiveFunction.toJson (f : ExpensiveFunction Float) : Json :=
  .obj [("name", .str f.name), ("totalDurationMs", .float f.total)]

/-! ### The graph of calls -/

/-- Reads an edge. -/
def CallEdge.read : Json → Checked (CallEdge Float) :=
  record fun fields =>
    CallEdge.mk <$> fields.required "source" string <*> fields.required "target" string
      <*> fields.required "callCount" int <*> fields.required "cumulativeDurationMs" float
      <*> fields.required "averageDurationMs" float

/-- An edge as data. -/
def CallEdge.toJson (e : CallEdge Float) : Json :=
  .obj [("source", .str e.source), ("target", .str e.target), ("callCount", .int e.callCount),
    ("cumulativeDurationMs", .float e.total), ("averageDurationMs", .float e.average)]

/-- Reads a graph of calls. -/
def CallGraph.read : Json → Checked (CallGraph Float) :=
  record fun fields =>
    CallGraph.mk <$> fields.required "nodes" (list string)
      <*> fields.required "edges" (list CallEdge.read)

/-- A graph of calls as data. -/
def CallGraph.toJson (g : CallGraph Float) : Json :=
  .obj [("nodes", Json.texts g.nodes), ("edges", Json.list CallEdge.toJson g.edges)]

/-! ### Lines, memory, variables -/

/-- Reads a line of the heatmap. -/
def HotLine.read : Json → Checked (HotLine Float) :=
  record fun fields =>
    HotLine.mk <$> fields.required "line" int <*> fields.required "sourceText" string
      <*> fields.required "executionCount" int <*> fields.required "totalDurationMs" float
      <*> fields.required "averageDurationMs" float

/-- A line of the heatmap as data. -/
def HotLine.toJson (l : HotLine Float) : Json :=
  .obj [("line", .int l.line), ("sourceText", .str l.text), ("executionCount", .int l.count),
    ("totalDurationMs", .float l.total), ("averageDurationMs", .float l.average)]

/-- Reads a point of the memory timeline. -/
def MemoryPoint.read : Json → Checked (MemoryPoint Float) :=
  record fun fields =>
    MemoryPoint.mk <$> fields.required "timestampMs" float <*> fields.required "value" int
      <*> fields.required "allocation" int <*> fields.required "deallocation" int

/-- A point of the memory timeline as data. -/
def MemoryPoint.toJson (p : MemoryPoint Float) : Json :=
  .obj [("timestampMs", .float p.time), ("value", .int p.value), ("allocation", .int p.allocated),
    ("deallocation", .int p.deallocated)]

/-- Reads a change of a variable. -/
def VariableChange.read : Json → Checked (VariableChange Float) :=
  record fun fields =>
    VariableChange.mk <$> fields.required "timestampMs" float <*> fields.required "value" string
      <*> fields.optional "line" none (nullable int)

/-- A change of a variable as data. -/
def VariableChange.toJson (c : VariableChange Float) : Json :=
  .obj [("timestampMs", .float c.time), ("value", .str c.value), ("line", Json.ofInt? c.line)]

/-- Reads the timeline of a variable. -/
def VariableTimeline.read : Json → Checked (VariableTimeline Float) :=
  record fun fields =>
    VariableTimeline.mk <$> fields.required "name" string <*> fields.required "typeName" string
      <*> fields.required "changes" (list VariableChange.read)

/-- The timeline of a variable as data. -/
def VariableTimeline.toJson (t : VariableTimeline Float) : Json :=
  .obj [("name", .str t.name), ("typeName", .str t.typeName),
    ("changes", Json.list VariableChange.toJson t.changes)]

/-! ### The whole -/

/-- Reads a summary. -/
def MetricsSummary.read : Json → Checked (MetricsSummary Float) :=
  record fun fields =>
    MetricsSummary.mk <$> fields.required "executionTimeMs" float
      <*> fields.required "peakMemoryBytes" int <*> fields.required "totalFunctionCalls" int
      <*> fields.required "uniqueFunctionCount" int
      <*> fields.optional "mostExpensiveFunction" none (nullable ExpensiveFunction.read)

/-- A summary as data. -/
def MetricsSummary.toJson (s : MetricsSummary Float) : Json :=
  .obj [("executionTimeMs", .float s.executionTime), ("peakMemoryBytes", .int s.peakMemory),
    ("totalFunctionCalls", .int s.callCount), ("uniqueFunctionCount", .int s.functionCount),
    ("mostExpensiveFunction", match s.mostExpensive with
      | some f => f.toJson
      | none => .null)]

/-- Reads all metrics of a run. -/
def ExecutionMetrics.read : Json → Checked (ExecutionMetrics Float) :=
  record fun fields =>
    ExecutionMetrics.mk <$> fields.required "summary" MetricsSummary.read
      <*> fields.required "callGraph" CallGraph.read
      <*> fields.required "heatmap" (list HotLine.read)
      <*> fields.required "complexity" GrowthEstimate.read
      <*> fields.required "functions" (list FunctionStats.read)
      <*> fields.required "memoryUsage" (list MemoryPoint.read)
      <*> fields.required "variableTracing" (list VariableTimeline.read)

/-- All metrics of a run as data. -/
def ExecutionMetrics.toJson (m : ExecutionMetrics Float) : Json :=
  .obj [("summary", m.summary.toJson), ("callGraph", m.callGraph.toJson),
    ("heatmap", Json.list HotLine.toJson m.heatmap), ("complexity", m.complexity.toJson),
    ("functions", Json.list FunctionStats.toJson m.functions),
    ("memoryUsage", Json.list MemoryPoint.toJson m.memory),
    ("variableTracing", Json.list VariableTimeline.toJson m.timelines)]

end SnippetProfiler
