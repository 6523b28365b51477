import SnippetProfiler.Comparison.Engine

/-!
# Workshops

What a run does lies outside the profiler: ids are drawn, children are started, gates are
opened.  An environment says how these things change a state of the surroundings.  A workshop
is an orchestrator in its surroundings.
-/

namespace SnippetProfiler

/-- How surroundings of the type `σ` answer. -/
structure Environment (σ : Type) where
  /-- Draws an id. -/
  fresh : σ → String × σ
  /-- What the handler of a run does with its instrumented program. -/
  perform : σ → Run → String → σ × Performance
  /-- Whether a gate is open. -/
  isOpen : σ → String → Bool

/-- An orchestrator in its surroundings. -/
structure Workshop (σ : Type) where
  orchestrator : Orchestrator
  surroundings : σ

namespace Workshop

variable {σ : Type}

/-- Draws an id. -/
def fresh (env : Environment σ) (w : Workshop σ) : String × Workshop σ :=
  let (id, surroundings) := env.fresh w.surroundings
  (id, { w with surroundings })

/-- Reads a request, which takes a fresh id if it names none. -/
def read (env : Environment σ) (w : Workshop σ) (v : Json) :
    Workshop σ × Validation.Checked RunRequest :=
  if RunRequest.needsId v then
    let (id, w) := w.fresh env
    (w, RunRequest.read id v)
  else (w, RunRequest.read "" v)

/-- The languages of the profiler. -/
def languages (w : Workshop σ) : Languages := w.orchestrator.registry.resolve

/-- Lets a run that has claimed its id begin to perform. -/
def begin (env : Environment σ) (w : Workshop σ) (number : Nat) : Workshop σ :=
  let orchestrator := w.orchestrator.change number Run.start
  match orchestrator.runs[number]? with
  | none => { w with orchestrator }
  | some r =>
    match r.phase with
    | .ready program =>
      let (surroundings, performance) := env.perform w.surroundings r program
      { orchestrator := orchestrator.change number (Run.perform · performance), surroundings }
    | _ => { w with orchestrator }

/-- Lets every run go on until it waits at a gate or has ended. -/
def settle (env : Environment σ) (w : Workshop σ) : Workshop σ :=
  { w with orchestrator := w.orchestrator.settle (env.isOpen w.surroundings) }

/-- The report of a run, or why there is none. -/
def report (w : Workshop σ) (number : Nat) : Except NoReport RunReport :=
  match w.orchestrator.result? number with
  | some (.ok report) => .ok report
  | some (.error e) => .error (.problem e)
  | none => .error (.problem .cancelled)

/-- Runs a request to its end. -/
def run (env : Environment σ) (w : Workshop σ) (request : RunRequest) :
    Workshop σ × Except NoReport RunReport :=
  match w.orchestrator.execute request { sink := none } with
  | .error e => (w, .error (.start e))
  | .ok (orchestrator, number) =>
    let w := (({ w with orchestrator } : Workshop σ).begin env number).settle env
    (w, w.report number)

/-- Compares two requests. -/
def compare (env : Environment σ) (w : Workshop σ) (first second : RunRequest) :
    Workshop σ × Except EngineError ComparisonReport :=
  Engine.compare w.languages (run env) w first second

/-- Profiles a request over samples. -/
def profile (env : Environment σ) (w : Workshop σ) (request : RunRequest) (samples : List Sample) :
    Workshop σ × Except EngineError GrowthEstimate :=
  Engine.profile w.languages (run env) (fresh env) w request samples

end Workshop

end SnippetProfiler
