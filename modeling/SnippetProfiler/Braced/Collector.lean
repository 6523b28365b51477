import SnippetProfiler.Braced.Thrown
import SnippetProfiler.Probe.Recorder
import SnippetProfiler.Text.Blank

/-!
# The hooks of JavaScript snippets

A collector is the recorder of a snippet together with the stack of its calls and the line that
is open.  Each hook does nothing when its kind of event is not tracked.

A line is open until the next one begins.  A call has lines of its own: it suspends the line of
its caller and resumes it at its end, so that the line of the caller lasts as long as the calls
that it makes.  A call that is left is taken from the stack wherever it stands, because calls
that wait need not end in the order in which they began.

A hook that reports a value asks for its text, which may be made by the snippet: that may call
hooks itself.  Such a hook has two parts, before the text and behind it.  `atOnce` puts them
together for texts that call no hooks.

When the output refuses a note, a hook stops there.
-/

namespace SnippetProfiler.Braced

open Probe (Crash Instruments Note Recorder)

/-- A line that is open, with the reading of the clock when it began. -/
structure OpenLine (τ : Type) where
  line : Int
  started : τ
  deriving Repr

/-- A call that was entered; calls differ in their numbers. -/
structure Entry (τ : Type) where
  number : Nat
  name : String
  caller : String
  started : τ
  deriving Repr

/-- A variable that has got a value, as long as that has no text: the time is known before. -/
structure Binding (τ : Type) where
  time : τ
  name : String
  value : Value
  line : Option Int
  deriving Repr

/-- A call that was left, as long as its arguments have no texts: the time is known before. -/
structure Departure (τ : Type) where
  entry : Entry τ
  time : τ
  deriving Repr

/-- The recorder of a snippet. -/
structure Collector (σ τ : Type) extends Recorder σ τ where
  /-- The calls, the latest last. -/
  stack : List (Entry τ) := []
  openLine : Option (OpenLine τ) := none
  /-- The number of the next call. -/
  next : Nat
  /-- The lines of the snippet. -/
  lines : List String
  /-- The path of the program. -/
  script : String
  /-- The lines of the program in front of the snippet. -/
  offset : Int

/-- The caller of calls that no other call makes. -/
def outermost : String := "global"

/-- Whether a character is space at the end of a line. -/
def isSpace (c : Char) : Bool :=
  c = '\ufeff' || (Text.isBlank c && c ≠ '\x85' && !('\x1c' ≤ c && c ≤ '\x1f'))

/-- A text without spaces at its ends. -/
def trimmed (s : String) : String :=
  .ofList (Text.dropRightWhile isSpace (s.toList.dropWhile isSpace))

/-- The text of a line without spaces at its ends. -/
def lineText (lines : List String) (line : Int) : String :=
  if 0 < line then trimmed (lines.getD (line - 1).toNat "") else ""

namespace Collector

variable {σ τ : Type} [Quantity τ]

/-- Changes the recorder of a collector. -/
def withRecorder (c : Collector σ τ) (r : Recorder σ τ) : Collector σ τ := { c with toRecorder := r }

/-- Goes on, unless a note was refused. -/
def andThen (c : Collector σ τ) (f : Collector σ τ → Collector σ τ) : Collector σ τ :=
  if c.refused then c else f c

/-- A collector that starts, before its first sample of the memory. -/
def start (env : Instruments σ τ) (options : TrackingOptions) (lines : List String)
    (script : String) (offset : Int) (next : Nat) (surroundings : σ) : Collector σ τ :=
  { toRecorder := Recorder.start env (Quantity.ofInt 1) options surroundings
    next, lines, script, offset }

/-- Samples the memory. -/
def sample (env : Instruments σ τ) (c : Collector σ τ) (forced : Bool := false) : Collector σ τ :=
  c.withRecorder (c.toRecorder.sample env forced)

/-! ### Lines -/

/-- The line that is open is done. -/
def closeLine (env : Instruments σ τ) (c : Collector σ τ) : Collector σ τ :=
  match c.openLine with
  | none => c
  | some l =>
    let (time, r) := c.toRecorder.now env
    let (duration, r) := r.since env l.started
    { c.withRecorder (r.emit (.executionFlow ⟨time, l.line, lineText c.lines l.line, duration⟩))
      with openLine := none }

/-- A line begins. -/
def beginLine (env : Instruments σ τ) (c : Collector σ τ) (line : Int) : Collector σ τ :=
  if c.options.executionFlow then
    (c.closeLine env).andThen fun c =>
      let (started, r) := c.toRecorder.reading env
      { c.withRecorder r with openLine := some ⟨line, started⟩ }
  else c

/-- The line that is open is put aside. -/
def suspendLine (c : Collector σ τ) : Option (OpenLine τ) × Collector σ τ :=
  (c.openLine, { c with openLine := none })

/-- A line that was put aside is open again. -/
def resumeLine (env : Instruments σ τ) (c : Collector σ τ) (outer : Option (OpenLine τ)) :
    Collector σ τ :=
  (c.closeLine env).andThen fun c => { c with openLine := outer }

/-! ### Variables -/

/-- A hook whose second part follows its first one at once, if there is one. -/
def atOnce {α : Type} (begun : Option α × Collector σ τ) (rest : Collector σ τ → α → Collector σ τ) :
    Collector σ τ :=
  match begun with
  | (some a, c) => c.andThen fun c => rest c a
  | (none, c) => c

/-- A variable has got a value, the text of which is asked for when variables are tracked. -/
def beginAssign (env : Instruments σ τ) (c : Collector σ τ) (name : String) (value : Value)
    (line : Option Int) : Option (Binding τ) × Collector σ τ :=
  if c.options.assignments then
    let (time, r) := c.toRecorder.now env
    (some ⟨time, name, value, line⟩, c.withRecorder r)
  else (none, c)

/-- The value of a variable has its text. -/
def endAssign (c : Collector σ τ) (a : Binding τ) : Collector σ τ :=
  let state := ⟨a.time, a.name, a.value.typeName, a.value.summary, a.line⟩
  c.withRecorder (c.toRecorder.emit (.variableState state))

/-- Variables have got values, one after the other, whose texts call no hooks. -/
def assign (env : Instruments σ τ) (c : Collector σ τ) :
    List (String × Value × Option Int) → Collector σ τ
  | [] => c
  | (name, value, line) :: entries =>
    (atOnce (c.beginAssign env name value line) endAssign).andThen fun c => assign env c entries

/-! ### Calls -/

/-- A call is entered; there is no entry when calls are not tracked. -/
def enter (env : Instruments σ τ) (c : Collector σ τ) (name : String) :
    Option (Entry τ) × Collector σ τ :=
  if c.options.functions then
    let caller := (c.stack.getLast?.map Entry.name).getD outermost
    let (started, r) := c.toRecorder.reading env
    let entry : Entry τ := ⟨c.next, name, caller, started⟩
    (some entry, { c.withRecorder r with stack := c.stack ++ [entry], next := c.next + 1 })
  else (none, c)

/-- A call is left, and the texts of its arguments are asked for if it has an entry. -/
def beginLeave (env : Instruments σ τ) (c : Collector σ τ) (entry : Option (Entry τ)) :
    Option (Departure τ) × Collector σ τ :=
  match entry with
  | none => (none, c)
  | some e =>
    let c := { c with stack := c.stack.filter fun other => other.number ≠ e.number }
    let (time, r) := c.toRecorder.now env
    (some ⟨e, time⟩, c.withRecorder r)

/-- The arguments of a call that was left have their texts. -/
def endLeave (env : Instruments σ τ) (c : Collector σ τ) (d : Departure τ) (arguments : List Value) :
    Collector σ τ :=
  let (duration, r) := c.toRecorder.since env d.entry.started
  let call := ⟨d.time, d.entry.name, some d.entry.caller, arguments.map Value.summary, duration⟩
  (c.withRecorder (r.emit (.functionCall call))).andThen fun c => c.sample env

/-- A call is left, the texts of whose arguments call no hooks. -/
def leave (env : Instruments σ τ) (c : Collector σ τ) (entry : Option (Entry τ))
    (arguments : List Value) : Collector σ τ :=
  atOnce (c.beginLeave env entry) fun c d => c.endLeave env d arguments

/-! ### The end -/

/-- How what is thrown ends a program. -/
def crash (c : Collector σ τ) (t : Thrown) : Crash where
  message := t.message
  type := t.type
  stack := t.stack
  line := failingLine c.script c.offset c.lines.length t

/-- The program ends, by what is thrown or by itself, after its open line is done and a last sample
of the memory.  Only the first end counts.  The text of what is thrown is asked for. -/
def beginFinish (env : Instruments σ τ) (c : Collector σ τ) (thrown : Option Thrown) :
    Option Thrown × Collector σ τ :=
  if c.finished then (none, c)
  else
    let c := ({ c with finished := true } : Collector σ τ).closeLine env
    match thrown with
    | none => (none, c.andThen fun c => c.withRecorder (c.toRecorder.conclude env))
    | some t => (some t, c.andThen fun c => c.sample env true)

/-- What has ended the program has its text. -/
def endFinish (c : Collector σ τ) (t : Thrown) : Collector σ τ :=
  c.withRecorder (c.toRecorder.write (.error (c.crash t)))

/-- The program ends, by what is thrown, whose text calls no hooks, or by itself. -/
def finish (env : Instruments σ τ) (c : Collector σ τ) (thrown : Option Thrown) :
    Collector σ τ :=
  atOnce (c.beginFinish env thrown) endFinish

end Collector

end SnippetProfiler.Braced
