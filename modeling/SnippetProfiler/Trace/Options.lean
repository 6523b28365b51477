/-!
# What is tracked

A run reports four kinds of events, and a request can switch each kind off.
-/

namespace SnippetProfiler

/-- Which kinds of events a run reports. -/
structure TrackingOptions where
  memory : Bool := true
  assignments : Bool := true
  functions : Bool := true
  executionFlow : Bool := true
  deriving DecidableEq, Repr

/-- The options with the keys under which an instrumented program gets them. -/
def TrackingOptions.fields (o : TrackingOptions) : List (String × Bool) :=
  [("trackMemory", o.memory), ("trackVariables", o.assignments), ("trackFunctions", o.functions),
   ("trackExecutionFlow", o.executionFlow)]

end SnippetProfiler
