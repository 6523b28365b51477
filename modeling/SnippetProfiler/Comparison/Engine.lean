import SnippetProfiler.Comparison.Verdict
import SnippetProfiler.Orchestration.Orchestrator

/-!
# Comparing and profiling

`compare` runs two snippets, one after the other, and compares their metrics.  `profile` runs
one snippet with several inputs of known sizes, and estimates how its time grows.  Both stop
at the first run that does not succeed.

They work over any means of running a request to its end: a function that takes a state to the
state after the run, with the report or the reason why there is none.
-/

namespace SnippetProfiler

/-- Why a request has no report. -/
inductive NoReport where
  | start (cause : StartError)
  | problem (cause : Problem)
  deriving Repr

/-- Why a comparison or a profile fails. -/
inductive EngineError where
  | noReport (cause : NoReport)
  | language (cause : RunError)
  | side (cause : RunError)
  | delta (cause : DeltaError)
  | nesting (message : String)
  | estimate (cause : EstimateError)
  deriving Repr

/-- The metrics of both runs, and how they compare. -/
structure ComparisonReport where
  first : ExecutionMetrics Float
  second : ExecutionMetrics Float
  comparison : Comparison Float
  deriving Repr

/-- A comparison as data. -/
def ComparisonReport.toJson (r : ComparisonReport) : Json :=
  .obj [("first", r.first.toJson), ("second", r.second.toJson), ("comparison", r.comparison.toJson)]

/-- An input, with its size. -/
structure Sample where
  size : Float
  input : List String
  deriving Repr

/-- The handlers of languages. -/
abbrev Languages := String → Except RunError Handler

namespace Engine

variable {σ : Type}

/-- Runs one side, and gives what a run that succeeded brought, with its metrics.  The metrics
are those of the trace that the completed program reported. -/
def runSide (languages : Languages) (run : σ → RunRequest → σ × Except NoReport RunReport)
    (side : String) (state : σ) (request : RunRequest) :
    σ × Except EngineError (Success × ExecutionMetrics Float) :=
  match run state request with
  | (state, .error e) => (state, .error (.noReport e))
  | (state, .ok report) =>
    match report.outcome with
    | .failure f =>
      (state, .error (.side (.side side f.kind f.message (FailureLine.toJson f.line))))
    | .success s =>
      match languages request.language with
      | .error e => (state, .error (.language e))
      | .ok handler =>
        match handler.hint request.code with
        | .error message => (state, .error (.nesting message))
        | .ok hint => (state, .ok (s, aggregate s.trace s.duration (some hint)))

/-- Compares two requests. -/
def compare (languages : Languages) (run : σ → RunRequest → σ × Except NoReport RunReport)
    (state : σ) (first second : RunRequest) : σ × Except EngineError ComparisonReport :=
  match runSide languages run "first" state first with
  | (state, .error e) => (state, .error e)
  | (state, .ok (_, a)) =>
    match runSide languages run "second" state second with
    | (state, .error e) => (state, .error e)
    | (state, .ok (_, b)) =>
      match compareMetrics a.summary b.summary with
      | .ok c => (state, .ok ⟨a, b, c⟩)
      | .error e => (state, .error (.delta e))

/-- The name of a sample, by its number. -/
def sampleName (number : Nat) (size : Float) : String :=
  "sample " ++ toString number ++ " (n=" ++ Decimal.significant 6 size ++ ")"

/-- Runs a request once for each sample, the first of which has the number `number`, under a
fresh id each time, and gives the sizes and durations. -/
def measure (languages : Languages) (run : σ → RunRequest → σ × Except NoReport RunReport)
    (fresh : σ → String × σ) (request : RunRequest) (number : Nat) (state : σ) :
    List Sample → σ × Except EngineError (List DataPoint)
  | [] => (state, .ok [])
  | sample :: samples =>
    let (id, state) := fresh state
    let copy := { request with id, input := sample.input }
    match runSide languages run (sampleName number sample.size) state copy with
    | (state, .error e) => (state, .error e)
    | (state, .ok (success, _)) =>
      let (state, points) := measure languages run fresh request (number + 1) state samples
      (state, points.map (⟨sample.size, success.duration⟩ :: ·))

/-- Profiles a request over samples. -/
def profile (languages : Languages) (run : σ → RunRequest → σ × Except NoReport RunReport)
    (fresh : σ → String × σ) (state : σ) (request : RunRequest) (samples : List Sample) :
    σ × Except EngineError GrowthEstimate :=
  match measure languages run fresh request 1 state samples with
  | (state, .error e) => (state, .error e)
  | (state, .ok points) =>
    match languages request.language with
    | .error e => (state, .error (.language e))
    | .ok handler =>
      match handler.hint request.code with
      | .error message => (state, .error (.nesting message))
      | .ok hint =>
        (state, (GrowthEstimate.estimate points (some hint)).mapError EngineError.estimate)

end Engine

end SnippetProfiler
