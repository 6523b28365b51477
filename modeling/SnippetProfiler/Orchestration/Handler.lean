import SnippetProfiler.Complexity.Estimate
import SnippetProfiler.Run.Request
import SnippetProfiler.Sandbox.Basic

/-!
# Handlers

A handler knows how snippets of a language are treated: how they are instrumented, how long
they may run, and how their time is expected to grow.  What it does in one run is a
performance: it emits events, may rest or wait at a gate, and ends with an outcome or with a
problem.
-/

namespace SnippetProfiler

/-- Why a snippet is not instrumented. -/
inductive InstrumentProblem where
  | refused (message : String) (details : List (String × Json))
  | broken (message : String)
  | tooDeep (message : String)
  deriving Repr

/-- A handler of a language. -/
structure Handler where
  language : LanguageInfo
  /-- The time in seconds that a snippet may take when a request names none. -/
  timeout : Float
  instrument : String → TrackingOptions → Except InstrumentProblem String
  /-- The hint about the growth of a snippet, unless that is nested too deeply. -/
  hint : String → Except String GrowthHint

/-- The hint for a language that is not analysed. -/
def GrowthHint.unanalysed : GrowthHint :=
  ⟨GrowthClass.linear.text, "No static analysis for this language"⟩

/-- Why a run ends without a report. -/
inductive Problem where
  | sandbox (fault : Sandbox.RunFault)
  | noTime (cause : Sandbox.NoTime)
  | handler (message : String)
  | nesting (message : String)
  | report (faults : List Validation.Fault)
  | progress
  | cancelled
  deriving Repr

/-- The wording of a problem; faults of data and of a caller have a wording of their own. -/
def Problem.message : Problem → String
  | sandbox fault => fault.message
  | noTime cause => cause.message
  | handler message => message
  | nesting message => message
  | report _ => ""
  | progress => ""
  | cancelled => ""

/-- What a handler does next: emit an event, let others go on for a while, or wait until a
gate is open. -/
inductive Act where
  | emit (event : TraceEvent Float)
  | rest
  | await (gate : String)
  deriving Repr

/-- What a handler does in a run. -/
structure Performance where
  acts : List Act
  ending : Except Problem Outcome

/-- The performance of a handler that runs a program in a sandbox: the events of the run, and
a rest while the sandbox is closed. -/
def Performance.ofRun (gate : Option String) (run : Sandbox.Run) : Performance where
  acts := (gate.map Act.await).toList ++ run.delivered.map Act.emit ++ [.rest]
  ending := run.outcome.mapError Problem.sandbox

end SnippetProfiler
