import SnippetProfiler.Trace.Frame

/-!
# Recorders

The part of an instrumented program that reports what the program does.  A recorder reads a
clock and a memory meter, keeps all events in lists by kind, and writes notes: an event as soon
as it happens, and in the end either everything once more or an error.

Times never go back, whatever the clock does: a reading before the latest one counts as the
latest one.  Memory is sampled at most once in an interval, unless a sample is forced.

A recorder whose output refuses notes goes on; it only remembers that a note was refused.
-/

namespace SnippetProfiler.Probe

open Quantity (sub mul lt ofInt)

/-- A clock and a memory meter that depend on a state of the type `σ`: each reading may change
the state.  The meter shows the resident and the virtual bytes. -/
structure Instruments (σ τ : Type) where
  clock : σ → τ × σ
  memory : σ → (Int × Int) × σ

/-- All events that were recorded, by kind. -/
structure Record (τ : Type) where
  samples : List (MemorySample τ) := []
  calls : List (FunctionCall τ) := []
  states : List (VariableState τ) := []
  steps : List (LineExecution τ) := []
  deriving Repr

/-- How a program fails: a message, a type, a stack and a line. -/
structure Crash where
  message : String
  type : String
  stack : Json
  line : Json
  deriving Repr

/-- What a recorder writes. -/
inductive Note (τ : Type) where
  | event (e : TraceEvent τ)
  | complete (time : τ) (record : Record τ)
  | error (crash : Crash)
  deriving Repr

/-- A recorder. -/
structure Recorder (σ τ : Type) where
  /-- The state of the instruments. -/
  surroundings : σ
  options : TrackingOptions
  /-- The milliseconds in a unit of the clock. -/
  scale : τ
  /-- The reading of the clock at the start. -/
  started : τ
  /-- The latest time. -/
  latest : τ
  /-- The time of the latest sample of the memory. -/
  sampledAt : Option τ := none
  /-- The resident bytes at the latest sample. -/
  resident : Option Int := none
  record : Record τ := {}
  written : List (Note τ) := []
  /-- Whether the end was recorded. -/
  finished : Bool := false
  /-- Whether the output refuses notes. -/
  blocked : Bool := false
  /-- Whether a note was refused. -/
  refused : Bool := false

variable {σ τ : Type}

/-- A record with one more event. -/
def Record.push (r : Record τ) : TraceEvent τ → Record τ
  | .memory s => { r with samples := r.samples ++ [s] }
  | .functionCall c => { r with calls := r.calls ++ [c] }
  | .variableState v => { r with states := r.states ++ [v] }
  | .executionFlow l => { r with steps := r.steps ++ [l] }

namespace Recorder

/-! ### Writing -/

/-- Writes a note. -/
def write (r : Recorder σ τ) (n : Note τ) : Recorder σ τ :=
  if r.blocked then { r with refused := true } else { r with written := r.written ++ [n] }

/-- Records an event and writes it. -/
def emit (r : Recorder σ τ) (e : TraceEvent τ) : Recorder σ τ :=
  ({ r with record := r.record.push e } : Recorder σ τ).write (.event e)

/-- Goes on, unless a note was refused. -/
def andThen (r : Recorder σ τ) (f : Recorder σ τ → Recorder σ τ) : Recorder σ τ :=
  if r.refused then r else f r

/-! ### Time -/

variable [Quantity τ]

/-- A reading of the clock. -/
def reading (env : Instruments σ τ) (r : Recorder σ τ) : τ × Recorder σ τ :=
  let (t, surroundings) := env.clock r.surroundings
  (t, { r with surroundings })

/-- The milliseconds since a reading of the clock. -/
def since (env : Instruments σ τ) (r : Recorder σ τ) (start : τ) : τ × Recorder σ τ :=
  let (t, r) := r.reading env
  (mul (sub t start) r.scale, r)

/-- The time: the milliseconds since the start, which never decrease. -/
def now (env : Instruments σ τ) (r : Recorder σ τ) : τ × Recorder σ τ :=
  let (t, r) := r.since env r.started
  let t := if lt t r.latest then r.latest else t
  (t, { r with latest := t })

/-- A recorder that starts.  Its clock counts `scale` milliseconds in a unit. -/
def start (env : Instruments σ τ) (scale : τ) (options : TrackingOptions) (surroundings : σ) :
    Recorder σ τ :=
  let (started, surroundings) := env.clock surroundings
  { surroundings, options, scale, started, latest := Quantity.zero }

/-! ### Memory -/

/-- The milliseconds between samples of the memory that are not forced. -/
def interval : τ := ofInt 5

/-- Whether it is too soon for a sample. -/
def isSoon (r : Recorder σ τ) (t : τ) : Bool :=
  match r.sampledAt with
  | some last => lt (sub t last) interval
  | none => false

/-- The sample at a time of what the meter shows. -/
def sampleAt (r : Recorder σ τ) (time : τ) (resident virtual : Int) : MemorySample τ :=
  let change := match r.resident with
    | some before => resident - before
    | none => 0
  ⟨time, resident, virtual, max change 0, max (-change) 0⟩

/-- Samples the memory, if it is tracked and it is not too soon. -/
def sample (env : Instruments σ τ) (r : Recorder σ τ) (forced : Bool := false) : Recorder σ τ :=
  if r.options.memory then
    let (t, r) := r.now env
    if !forced && r.isSoon t then r
    else
      let ((resident, virtual), surroundings) := env.memory r.surroundings
      ({ r with surroundings, sampledAt := some t, resident := some resident }
        : Recorder σ τ).emit (.memory (r.sampleAt t resident virtual))
  else r

/-! ### The end -/

/-- Writes everything once more. -/
def complete (env : Instruments σ τ) (r : Recorder σ τ) : Recorder σ τ :=
  let (t, r) := r.now env
  r.write (.complete t r.record)

/-- Writes how a program has completed, after a last sample of the memory. -/
def conclude (env : Instruments σ τ) (r : Recorder σ τ) : Recorder σ τ :=
  (r.sample env true).andThen fun r => r.complete env

end Recorder

/-! ### Notes as data -/

/-- All recorded events as data. -/
def Record.fields (r : Record Float) : List (String × Json) :=
  let list (kind : EventKind) (events : List (TraceEvent Float)) :=
    (kind.listKey, Json.list TraceEvent.dataJson events)
  [list .memory (r.samples.map .memory), list .functionCall (r.calls.map .functionCall),
   list .variableState (r.states.map .variableState),
   list .executionFlow (r.steps.map .executionFlow)]

namespace Note

/-- The kind of the frame of a note. -/
def kind {τ : Type} : Note τ → FrameKind
  | event _ => .event
  | complete .. => .complete
  | error _ => .error

/-- A note as data. -/
def payload : Note Float → Json
  | event e => .obj [("event", .str e.kind.word), ("data", e.dataJson)]
  | complete time record => .obj (("executionTime", .float time) :: record.fields)
  | error c =>
    .obj [("message", .str c.message), ("type", .str c.type), ("stack", c.stack), ("line", c.line)]

/-- The line that is written for a note. -/
def line (n : Note Float) : String := frameLine n.kind n.payload

end Note

end SnippetProfiler.Probe
