import SnippetProfiler.Complexity.Estimate
import SnippetProfiler.Quantity
import SnippetProfiler.Sorting
import SnippetProfiler.Trace.Event

/-!
# Metrics

What an analyst sees of a trace: a summary, the table of functions, the graph of calls, the
lines that were executed more than once, the use of memory over time, the values of each
variable over time, and an estimate of growth.  Every metric is a function of the events of
one kind, in their order.

The tables rest on tallies: a tally counts the entries under a key and adds up their quantities,
and tallies stand in the order in which their keys first come.
-/

namespace SnippetProfiler

/-! ### Tallies -/

/-- How many entries a key has, and the sum of their quantities. -/
structure Tally (κ τ : Type) where
  key : κ
  count : Nat
  total : τ
  deriving Repr

namespace Tally

variable {κ τ : Type} [DecidableEq κ] [Quantity τ]

/-- The mean quantity of the entries. -/
def average (t : Tally κ τ) : τ := Quantity.div t.total (Quantity.ofInt t.count)

/-- Adds an entry to tallies. -/
def add (tallies : List (Tally κ τ)) (key : κ) (x : τ) : List (Tally κ τ) :=
  match tallies with
  | [] => [⟨key, 1, Quantity.add Quantity.zero x⟩]
  | t :: rest =>
    if t.key = key then ⟨key, t.count + 1, Quantity.add t.total x⟩ :: rest else t :: add rest key x

/-- The tallies of some entries. -/
def ofEntries (entries : List (κ × τ)) : List (Tally κ τ) :=
  entries.foldl (fun tallies e => add tallies e.1 e.2) []

end Tally

variable {τ : Type}

/-! ### Functions -/

/-- What all calls of a function took. -/
structure FunctionStats (τ : Type) where
  name : String
  callCount : Int
  total : τ
  average : τ
  deriving Repr

/-- The function that took longest. -/
structure ExpensiveFunction (τ : Type) where
  name : String
  total : τ
  deriving Repr

/-- The table of functions, in the order of their first calls. -/
def functionStats [Quantity τ] (calls : List (FunctionCall τ)) : List (FunctionStats τ) :=
  (Tally.ofEntries (calls.map fun c => (c.name, c.duration))).map fun t =>
    ⟨t.key, t.count, t.total, t.average⟩

/-- The entry with the largest total, the first one of several. -/
def longest [Quantity τ] : List (FunctionStats τ) → Option (FunctionStats τ)
  | [] => none
  | s :: rest => some (rest.foldl (fun best t => if Quantity.lt best.total t.total then t else best) s)

/-- The function that took longest, the first one of several. -/
def mostExpensive [Quantity τ] (stats : List (FunctionStats τ)) : Option (ExpensiveFunction τ) :=
  (longest stats).map fun s => ⟨s.name, s.total⟩

/-! ### The graph of calls -/

/-- The calls of one function by another one. -/
structure CallEdge (τ : Type) where
  source : String
  target : String
  callCount : Int
  total : τ
  average : τ
  deriving Repr

/-- Which functions call which. -/
structure CallGraph (τ : Type) where
  nodes : List String
  edges : List (CallEdge τ)
  deriving Repr

/-- The node for calls from outside all functions. -/
def rootNode : String := "global"

/-- Who made a call. -/
def FunctionCall.source (c : FunctionCall τ) : String :=
  match c.caller with
  | some name => if name.isEmpty then rootNode else name
  | none => rootNode

/-- Adds a name to names unless it is there. -/
def addName (names : List String) (name : String) : List String :=
  if names.contains name then names else names ++ [name]

/-- The graph of calls, nodes and edges in the order in which they first come. -/
def callGraph [Quantity τ] (calls : List (FunctionCall τ)) : CallGraph τ :=
  ⟨calls.foldl (fun names c => addName (addName names c.source) c.name) [rootNode],
   (Tally.ofEntries (calls.map fun c => ((c.source, c.name), c.duration))).map fun t =>
    ⟨t.key.1, t.key.2, t.count, t.total, t.average⟩⟩

/-! ### Lines -/

/-- A line that was executed more than once. -/
structure HotLine (τ : Type) where
  line : Int
  text : String
  count : Int
  total : τ
  average : τ
  deriving Repr

/-- The text of a line at its first execution. -/
def firstText (steps : List (LineExecution τ)) (line : Int) : String :=
  match steps.find? (·.line = line) with
  | some s => s.text
  | none => ""

/-- The lines that were executed more than once, the slowest first, and lines of one total
in order. -/
def lineHeatmap [Quantity τ] (steps : List (LineExecution τ)) : List (HotLine τ) :=
  let tallies := Tally.ofEntries (steps.map fun s => (s.line, s.duration))
  let inOrder := tallies.mergeSort fun a b => a.key ≤ b.key
  let hot := (inOrder.filter fun t => 1 < t.count).map fun t =>
    HotLine.mk t.key (firstText steps t.key) t.count t.total t.average
  Sorting.sortDown (fun a b => Quantity.lt a.total b.total) (fun l => Quantity.isNumber l.total) hot

/-! ### Memory and variables over time -/

/-- The memory in use at a time. -/
structure MemoryPoint (τ : Type) where
  time : τ
  value : Int
  allocated : Int
  deallocated : Int
  deriving Repr

/-- The memory in use over time. -/
def memoryTimeline (samples : List (MemorySample τ)) : List (MemoryPoint τ) :=
  samples.map fun s => ⟨s.time, s.resident, s.allocated, s.deallocated⟩

/-- A value that a variable was given. -/
structure VariableChange (τ : Type) where
  time : τ
  value : String
  line : Option Int
  deriving Repr

/-- The values of a variable over time, and the type of the last one. -/
structure VariableTimeline (τ : Type) where
  name : String
  typeName : String
  changes : List (VariableChange τ)
  deriving Repr

/-- Adds a state to the timeline of its variable. -/
def VariableTimeline.extend (timelines : List (VariableTimeline τ)) (s : VariableState τ) :
    List (VariableTimeline τ) :=
  match timelines with
  | [] => [⟨s.name, s.typeName, [⟨s.time, s.value, s.line⟩]⟩]
  | t :: rest =>
    if t.name = s.name then
      ⟨t.name, s.typeName, t.changes ++ [⟨s.time, s.value, s.line⟩]⟩ :: rest
    else t :: extend rest s

/-- The timeline of each variable, in the order in which the variables first come. -/
def variableTimelines (states : List (VariableState τ)) : List (VariableTimeline τ) :=
  states.foldl VariableTimeline.extend []

/-! ### The whole -/

/-- The summary of a run. -/
structure MetricsSummary (τ : Type) where
  executionTime : τ
  peakMemory : Int
  callCount : Int
  functionCount : Int
  mostExpensive : Option (ExpensiveFunction τ)
  deriving Repr

/-- All metrics of a run. -/
structure ExecutionMetrics (τ : Type) where
  summary : MetricsSummary τ
  callGraph : CallGraph τ
  heatmap : List (HotLine τ)
  complexity : GrowthEstimate
  functions : List (FunctionStats τ)
  memory : List (MemoryPoint τ)
  timelines : List (VariableTimeline τ)
  deriving Repr

/-- The largest of some integers, and 0 if there are none. -/
def peak : List Int → Int
  | [] => 0
  | n :: ns => ns.foldl max n

/-- The summary of a trace. -/
def summarize [Quantity τ] (trace : Trace τ) (duration : τ) : MetricsSummary τ :=
  let stats := functionStats trace.calls
  ⟨duration, peak (trace.samples.map (·.resident)), trace.calls.length, stats.length,
    SnippetProfiler.mostExpensive stats⟩

/-- All metrics of a trace, given an estimate of growth. -/
def metricsWith [Quantity τ] (complexity : GrowthEstimate) (trace : Trace τ) (duration : τ) :
    ExecutionMetrics τ :=
  ⟨summarize trace duration, callGraph trace.calls, lineHeatmap trace.steps, complexity,
    functionStats trace.calls, memoryTimeline trace.samples, variableTimelines trace.states⟩

/-- All metrics of a trace of a run of which nothing else was measured. -/
def aggregate [Quantity τ] (trace : Trace τ) (duration : τ) (hint : Option GrowthHint) :
    ExecutionMetrics τ :=
  metricsWith (.ofHint (hint.getD .unknown)) trace duration

/-- All metrics of a trace, with measurements for several sizes. -/
def aggregateWith [Quantity τ] (trace : Trace τ) (duration : τ) (hint : Option GrowthHint)
    (points : List DataPoint) : Except EstimateError (ExecutionMetrics τ) :=
  match GrowthEstimate.estimate points hint with
  | .ok e => .ok (metricsWith e trace duration)
  | .error e => .error e

end SnippetProfiler
