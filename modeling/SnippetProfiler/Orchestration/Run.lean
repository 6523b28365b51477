import SnippetProfiler.Orchestration.Handler
import SnippetProfiler.Orchestration.Relay
import SnippetProfiler.Run.Outcome

/-!
# Runs

A run has claimed its id, gets its snippet instrumented, lets the handler perform, and ends
with a report or with a problem.  While the handler performs, its events pass the relay of the
run.  The steps of the handler and of the pump may interleave in any way; `settle` takes them
in the order in which the handler goes first and the pump follows whenever the handler waits.

A run that ends with a report has delivered all events.  A run that ends with a problem stops
the pump, and the events in the channel are lost.  In both cases the stream ends first.
-/

namespace SnippetProfiler

/-- The stages that a run tells its caller of. -/
inductive Stage where
  | instrumentation
  | execution
  deriving DecidableEq, Repr

namespace Stage

/-- The word for a stage. -/
def word : Stage → String
  | instrumentation => "instrumentation"
  | execution => "execution"

/-- What is told of a stage. -/
def status : Stage → String
  | instrumentation => "complete"
  | execution => "started"

end Stage

/-- The caller of a run: the sink of its events, and whether it takes the news of a stage. -/
structure Caller where
  sink : Option (Sink (TraceEvent Float)) := some fun _ _ => true
  takes : Stage → Bool := fun _ => true

/-- Where a run stands. -/
inductive Phase where
  | claimed
  | ready (program : String)
  | performing (rest : Performance)
  | draining (outcome : Outcome)
  | ended (result : Except Problem RunReport)

/-- A run. -/
structure Run where
  request : RunRequest
  handler : Handler
  caller : Caller := {}
  relay : Relay (TraceEvent Float)
  phase : Phase := .claimed
  /-- The stages that the caller was told of. -/
  told : List Stage := []

namespace Run

/-! ### Ends -/

/-- The result of a run that has ended. -/
def result? (r : Run) : Option (Except Problem RunReport) :=
  match r.phase with
  | .ended result => some result
  | _ => none

/-- Whether a run has ended. -/
def hasEnded (r : Run) : Bool := r.result?.isSome

/-- Ends the stream and then the run. -/
def finish (r : Run) (result : Except Problem RunReport) : Run :=
  { r with relay := r.relay.endStream, phase := .ended result }

/-- The metrics of a run with an outcome. -/
def metrics? (r : Run) : Outcome → Except String (Option (ExecutionMetrics Float))
  | .success s => (r.handler.hint r.request.code).map fun hint =>
    some (aggregate r.relay.trace s.duration (some hint))
  | .failure _ => .ok none

/-- The report of a run with an outcome. -/
def report (r : Run) (outcome : Outcome) : Except Problem RunReport :=
  match r.metrics? outcome with
  | .ok metrics => .ok ⟨r.request.id, r.request.language, outcome, metrics⟩
  | .error message => .error (.nesting message)

/-- The result of a run whose snippet is not instrumented. -/
def refusal (r : Run) (message : String) (details : List (String × Json)) :
    Except Problem RunReport :=
  let line := (Json.lookup details "line").getD (.str "unknown")
  match (FailureLine.read line).under (.key "source_line") with
  | .valid line =>
    .ok ⟨r.request.id, r.request.language,
      .failure { kind := .instrumentationFailure, message, line }, none⟩
  | .faulty faults => .error (.report faults)

/-! ### Steps -/

/-- Tells the caller of a stage. -/
def tell (r : Run) (stage : Stage) : Run := { r with told := r.told ++ [stage] }

/-- The first step of a run: the snippet is instrumented. -/
def start (r : Run) : Run :=
  match r.phase with
  | .claimed =>
    match r.handler.instrument r.request.code r.request.options with
    | .error (.refused message details) => r.finish (r.refusal message details)
    | .error (.broken message) => r.finish (.error (.handler message))
    | .error (.tooDeep message) => r.finish (.error (.nesting message))
    | .ok program =>
      let r := r.tell .instrumentation
      if r.caller.takes .instrumentation then
        let r := r.tell .execution
        if r.caller.takes .execution then { r with phase := .ready program }
        else r.finish (.error .progress)
      else r.finish (.error .progress)
  | _ => r

/-- The handler begins its performance. -/
def perform (r : Run) (p : Performance) : Run :=
  match r.phase with
  | .ready _ => { r with phase := .performing p }
  | _ => r

/-- A step of the handler, or the last step of the run, after the pump has stopped. -/
def handlerStep? (isOpen : String → Bool) (r : Run) : Option Run :=
  match r.phase with
  | .performing ⟨.emit e :: acts, ending⟩ =>
    (r.relay.put? (some e)).map fun relay => { r with relay, phase := .performing ⟨acts, ending⟩ }
  | .performing ⟨.rest :: acts, ending⟩ => some { r with phase := .performing ⟨acts, ending⟩ }
  | .performing ⟨.await gate :: acts, ending⟩ =>
    if isOpen gate then some { r with phase := .performing ⟨acts, ending⟩ } else none
  | .performing ⟨[], .ok outcome⟩ =>
    (r.relay.put? none).map fun relay => { r with relay, phase := .draining outcome }
  | .performing ⟨[], .error problem⟩ => some (r.finish (.error problem))
  | .draining outcome =>
    match r.relay.pump with
    | .stopped => some (r.finish (r.report outcome))
    | _ => none
  | _ => none

/-- A step of the pump, which runs while the handler performs. -/
def pumpStep? (r : Run) : Option Run :=
  match r.phase with
  | .performing _ | .draining _ =>
    (r.relay.pumpStep? r.caller.sink).map fun relay => { r with relay }
  | _ => none

/-- A step of the consumer of the stream. -/
def consume? (r : Run) : Option (Option (TraceEvent Float) × Run) :=
  r.relay.consume?.map fun (item, relay) => (item, { r with relay })

/-- The run is cancelled.  A run that has not taken its first step cannot be cancelled so. -/
def cancel? (r : Run) : Option Run :=
  match r.phase with
  | .claimed | .ended _ => none
  | _ => some (r.finish (.error .cancelled))

/-! ### Schedules -/

/-- Whether the handler rests next. -/
def rests (r : Run) : Bool :=
  match r.phase with
  | .performing ⟨.rest :: _, _⟩ => true
  | _ => false

/-- Steps of the handler, until it waits or rests, at most `n`. -/
def handlerTurn (isOpen : String → Bool) : (n : Nat) → Run → Run
  | 0, r => r
  | n + 1, r =>
    match r.handlerStep? isOpen with
    | none => r
    | some next => if r.rests then next else handlerTurn isOpen n next

/-- Steps of the pump, until it waits, at most `n`. -/
def pumpTurn : (n : Nat) → Run → Run
  | 0, r => r
  | n + 1, r =>
    match r.pumpStep? with
    | none => r
    | some next => pumpTurn n next

/-- Turns of the handler and of the pump, until both wait, at most `n` of each. -/
def turns (isOpen : String → Bool) (steps : Nat) : (n : Nat) → Run → Run
  | 0, r => r
  | n + 1, r =>
    let r := pumpTurn steps (handlerTurn isOpen steps r)
    match r.handlerStep? isOpen with
    | none => r
    | some _ => turns isOpen steps n r

/-- More than the number of steps that are left in a run. -/
def workload (r : Run) : Nat :=
  let acts := match r.phase with
    | .performing p => p.acts.length
    | _ => 0
  3 * (acts + r.relay.channel.length) + 6

/-- A run that has gone on until it waits at a gate that is closed, or has ended. -/
def settle (isOpen : String → Bool) (r : Run) : Run :=
  turns isOpen r.workload r.workload r

end Run

end SnippetProfiler
