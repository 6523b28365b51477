import SnippetProfiler.Indented.Exception
import SnippetProfiler.Probe.Recorder

/-!
# The hooks of Python snippets

A collector is the recorder of a snippet together with the stack of its calls and what it knows
of the source.  Each hook does nothing when its kind of event is not tracked.

A line is timed from the moment at which it is opened.  A call is pushed on the stack when it is
entered; when it is left, the top of the stack goes, whichever call that is.

A hook that reports a value or an exception asks for its text, which may be made by the snippet:
that may call hooks itself.  Such a hook has two parts, before the text and behind it.  `atOnce`
puts them together for texts that call no hooks.
-/

namespace SnippetProfiler.Indented

open Probe (Crash Instruments Recorder)

/-- A call that was entered: its name, its caller, and the reading of the clock. -/
structure Entry (τ : Type) where
  name : String
  caller : String
  started : τ
  deriving Repr

/-- A variable that has got a value, as long as that has no text: the time is known before. -/
structure Binding (τ : Type) where
  time : τ
  name : String
  value : Value
  line : Option Int
  deriving Repr

/-- A call that was left, as long as its arguments have no texts: its duration is known before. -/
structure Departure (τ : Type) where
  entry : Entry τ
  duration : τ
  deriving Repr

/-- The recorder of a snippet. -/
structure Collector (σ τ : Type) extends Recorder σ τ where
  /-- The names of the calls, the latest last. -/
  stack : List String := []
  /-- The lines of the snippet. -/
  lines : List String := []
  /-- The lines of the snippet for those of the program, if they are known. -/
  mapping : Option (List (Int × Option Int)) := none
  /-- The path of the program. -/
  script : String

/-- The caller of calls that no other call makes. -/
def outermost : String := "global"

/-- The text of a line without blanks at its ends. -/
def lineText (lines : List String) (line : Int) : String :=
  if 0 < line then Text.stripped (lines.getD (line - 1).toNat "") else ""

/-- The summaries of the arguments of a call. -/
def argumentSummaries (arguments : List Value) (named : List (String × Value)) : List String :=
  arguments.map Value.summary ++ named.map fun (key, v) =>
    .ofList ((key ++ "=" ++ v.summary).toList.take Text.summaryLimit.toNat)

namespace Collector

variable {σ τ : Type} [Quantity τ]

/-- Changes the recorder of a collector. -/
def withRecorder (c : Collector σ τ) (r : Recorder σ τ) : Collector σ τ := { c with toRecorder := r }

/-- A collector that starts, with a first sample of the memory. -/
def start (env : Instruments σ τ) (options : TrackingOptions)
    (mapping : Option (List (Int × Option Int))) (lines : List String) (script : String)
    (surroundings : σ) : Collector σ τ :=
  let r := Recorder.start env (Quantity.ofInt 1000) options surroundings
  { toRecorder := r.sample env true, lines, mapping, script }

/-- The time. -/
def now (env : Instruments σ τ) (c : Collector σ τ) : τ × Collector σ τ :=
  let (t, r) := c.toRecorder.now env
  (t, c.withRecorder r)

/-- Samples the memory. -/
def sample (env : Instruments σ τ) (c : Collector σ τ) (forced : Bool := false) : Collector σ τ :=
  c.withRecorder (c.toRecorder.sample env forced)

/-! ### Lines -/

/-- The reading of the clock when a line is opened; none when lines are not tracked. -/
def openLine (env : Instruments σ τ) (c : Collector σ τ) : Option τ × Collector σ τ :=
  if c.options.executionFlow then
    let (t, r) := c.toRecorder.reading env
    (some t, c.withRecorder r)
  else (none, c)

/-- A line that was opened at a reading of the clock is done. -/
def closeLine (env : Instruments σ τ) (c : Collector σ τ) (line : Int) (started : τ) :
    Collector σ τ :=
  let (duration, r) := c.toRecorder.since env started
  let (time, r) := r.now env
  c.withRecorder (r.emit (.executionFlow ⟨time, line, lineText c.lines line, duration⟩))

/-! ### Variables -/

/-- A hook whose second part follows its first one at once, if there is one. -/
def atOnce {α : Type} (begun : Option α × Collector σ τ) (rest : Collector σ τ → α → Collector σ τ) :
    Collector σ τ :=
  match begun with
  | (some a, c) => rest c a
  | (none, c) => c

/-- A variable has got a value, the text of which is asked for when variables are tracked. -/
def beginAssign (env : Instruments σ τ) (c : Collector σ τ) (name : String) (value : Value)
    (line : Option Int) : Option (Binding τ) × Collector σ τ :=
  if c.options.assignments then
    let (time, r) := c.toRecorder.now env
    (some ⟨time, name, value, line⟩, c.withRecorder r)
  else (none, c)

/-- The value of a variable has its text. -/
def endAssign (c : Collector σ τ) (a : Binding τ) : Collector σ τ :=
  let state := ⟨a.time, a.name, a.value.typeName, a.value.summary, a.line⟩
  c.withRecorder (c.toRecorder.emit (.variableState state))

/-- A variable has got a value whose text calls no hooks. -/
def assign (env : Instruments σ τ) (c : Collector σ τ) (name : String) (value : Value)
    (line : Option Int) : Collector σ τ :=
  atOnce (c.beginAssign env name value line) endAssign

/-! ### Calls -/

/-- A call is entered; there is no entry when calls are not tracked. -/
def enter (env : Instruments σ τ) (c : Collector σ τ) (name : String) :
    Option (Entry τ) × Collector σ τ :=
  if c.options.functions then
    let caller := c.stack.getLastD outermost
    let (started, r) := c.toRecorder.reading env
    (some ⟨name, caller, started⟩, { c.withRecorder r with stack := c.stack ++ [name] })
  else (none, c)

/-- A call is left, and the texts of its arguments are asked for if it has an entry. -/
def beginLeave (env : Instruments σ τ) (c : Collector σ τ) (entry : Option (Entry τ)) :
    Option (Departure τ) × Collector σ τ :=
  match entry with
  | none => (none, c)
  | some e =>
    let (duration, r) := c.toRecorder.since env e.started
    (some ⟨e, duration⟩, { c.withRecorder r with stack := c.stack.dropLast })

/-- The arguments of a call that was left have their summaries. -/
def endLeave (env : Instruments σ τ) (c : Collector σ τ) (d : Departure τ) (summaries : List String) :
    Collector σ τ :=
  let (time, r) := c.toRecorder.now env
  let call := ⟨time, d.entry.name, some d.entry.caller, summaries, d.duration⟩
  c.withRecorder ((r.emit (.functionCall call)).sample env)

/-- A call is left, the texts of whose arguments call no hooks. -/
def leave (env : Instruments σ τ) (c : Collector σ τ) (entry : Option (Entry τ))
    (summaries : List String) : Collector σ τ :=
  atOnce (c.beginLeave env entry) fun c d => c.endLeave env d summaries

/-! ### The end -/

/-- How an exception ends a program. -/
def crash (c : Collector σ τ) (e : Exception) : Crash where
  message := e.type ++ ": " ++ e.message
  type := e.type
  stack := .str e.traceback
  line := e.failingLine c.script c.mapping

/-- The program ends, with an exception or without, after a last sample of the memory.  Only the
first end counts.  The text of an exception is asked for if there is one that is not quiet. -/
def beginFinish (env : Instruments σ τ) (c : Collector σ τ) (e : Option Exception) :
    Option Exception × Collector σ τ :=
  if c.finished then (none, c)
  else
    let c := c.withRecorder { c.toRecorder with finished := true }
    match e.filter (!·.isQuiet) with
    | none => (none, c.withRecorder (c.toRecorder.conclude env))
    | some e => (some e, c.sample env true)

/-- The exception with which the program has ended has its text. -/
def endFinish (c : Collector σ τ) (e : Exception) : Collector σ τ :=
  c.withRecorder (c.toRecorder.write (.error (c.crash e)))

/-- The program ends, with an exception whose text calls no hooks or without one. -/
def finish (env : Instruments σ τ) (c : Collector σ τ) (e : Option Exception) : Collector σ τ :=
  atOnce (c.beginFinish env e) endFinish

end Collector

end SnippetProfiler.Indented
