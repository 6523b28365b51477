import SnippetProfiler.Quantity

/-!
# Trace events

What an instrumented program reports while it runs: samples of its memory, calls of its
functions, values of its variables, and lines that it executed.  Times are quantities of
some type `τ`, in milliseconds since the start of the run.
-/

namespace SnippetProfiler

/-- The kinds of trace events. -/
inductive EventKind where
  | memory
  | functionCall
  | variableState
  | executionFlow
  deriving DecidableEq, Repr

/-- A sample of the memory in use: resident and virtual bytes, and how much the resident
bytes grew or shrank since the sample before. -/
structure MemorySample (τ : Type) where
  time : τ
  resident : Int
  virtual : Int := 0
  allocated : Int := 0
  deallocated : Int := 0
  deriving DecidableEq, Repr

/-- A call that has returned, and its caller, if that is known. -/
structure FunctionCall (τ : Type) where
  time : τ
  name : String
  caller : Option String := none
  arguments : List String := []
  duration : τ
  deriving DecidableEq, Repr

/-- A variable that was given a value. -/
structure VariableState (τ : Type) where
  time : τ
  name : String
  typeName : String
  value : String
  line : Option Int := none
  deriving DecidableEq, Repr

/-- A line that was executed. -/
structure LineExecution (τ : Type) where
  time : τ
  line : Int
  text : String := ""
  duration : τ
  deriving DecidableEq, Repr

/-- A trace event. -/
inductive TraceEvent (τ : Type) where
  | memory (sample : MemorySample τ)
  | functionCall (call : FunctionCall τ)
  | variableState (state : VariableState τ)
  | executionFlow (step : LineExecution τ)
  deriving DecidableEq, Repr

namespace TraceEvent

variable {τ : Type}

/-- The kind of an event. -/
def kind : TraceEvent τ → EventKind
  | memory _ => .memory
  | functionCall _ => .functionCall
  | variableState _ => .variableState
  | executionFlow _ => .executionFlow

/-- The time of an event. -/
def time : TraceEvent τ → τ
  | memory s => s.time
  | functionCall c => c.time
  | variableState v => v.time
  | executionFlow l => l.time

/-- An event at another time. -/
def withTime (t : τ) : TraceEvent τ → TraceEvent τ
  | memory s => memory { s with time := t }
  | functionCall c => functionCall { c with time := t }
  | variableState v => variableState { v with time := t }
  | executionFlow l => executionFlow { l with time := t }

/-- The memory sample that an event is. -/
def sample? : TraceEvent τ → Option (MemorySample τ)
  | memory s => some s
  | _ => none

/-- The call that an event is. -/
def call? : TraceEvent τ → Option (FunctionCall τ)
  | functionCall c => some c
  | _ => none

/-- The variable state that an event is. -/
def state? : TraceEvent τ → Option (VariableState τ)
  | variableState v => some v
  | _ => none

/-- The executed line that an event is. -/
def step? : TraceEvent τ → Option (LineExecution τ)
  | executionFlow l => some l
  | _ => none

end TraceEvent

/-- A trace: events in the order in which they were reported. -/
abbrev Trace (τ : Type) := List (TraceEvent τ)

namespace Trace

variable {τ : Type}

/-- The memory samples of a trace, in order. -/
def samples (t : Trace τ) : List (MemorySample τ) := t.filterMap TraceEvent.sample?

/-- The calls of a trace, in order. -/
def calls (t : Trace τ) : List (FunctionCall τ) := t.filterMap TraceEvent.call?

/-- The variable states of a trace, in order. -/
def states (t : Trace τ) : List (VariableState τ) := t.filterMap TraceEvent.state?

/-- The executed lines of a trace, in order. -/
def steps (t : Trace τ) : List (LineExecution τ) := t.filterMap TraceEvent.step?

end Trace

end SnippetProfiler
