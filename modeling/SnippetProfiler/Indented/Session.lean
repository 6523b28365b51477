import SnippetProfiler.Indented.Action
import SnippetProfiler.Indented.Collector
import SnippetProfiler.Probe.Scripted

/-!
# Sessions of Python snippets

A session is what a snippet does with the hooks.  It may start a new collector at any time.  The
hooks use the collector that was started last, but a line that is open stays with the collector
with which it was opened.

A coroutine runs its actions at once and ends when it is resumed.
-/

namespace SnippetProfiler.Indented

open Probe (Note Scripted scripted)

/-- A line that is open, with the number of its collector, unless lines are not tracked. -/
structure Timer where
  line : Int
  started : Option (Nat × Float)

/-- A coroutine that waits for its end. -/
structure Coroutine where
  id : String
  call : Call
  entry : Option (Entry Float)

/-- A session. -/
structure Session where
  instruments : Scripted := {}
  script : String := ""
  written : List (Note Float) := []
  /-- The collectors in the order in which they were started. -/
  collectors : List (Collector Scripted Float) := []
  timers : List Timer := []
  coroutines : List Coroutine := []

namespace Session

/-- The result of an action. -/
abbrev Result := Session × Except Trouble Reply

/-! ### Collectors -/

/-- Uses the collector with a number, with the instruments and the output as they are now. -/
def use {α : Type} (s : Session) (number : Nat)
    (f : Collector Scripted Float → α × Collector Scripted Float) : Session × Option α :=
  match s.collectors[number]? with
  | none => (s, none)
  | some c =>
    let r := { c.toRecorder with surroundings := s.instruments, written := s.written }
    let (a, c) := f (c.withRecorder r)
    ({ s with
        instruments := c.surroundings
        written := c.written
        collectors := s.collectors.set number c }, some a)

/-- The number of the collector that was started last. -/
def current (s : Session) : Nat := s.collectors.length - 1

/-- Uses the current collector; without one the member that is asked for cannot be had. -/
def hook (s : Session) (member : String)
    (f : Collector Scripted Float → Reply × Collector Scripted Float) : Result :=
  match s.use s.current f with
  | (s, some reply) => (s, .ok reply)
  | (s, none) => (s, .error (.noCollector member))

/-- A hook that gives nothing. -/
def quietHook (s : Session) (member : String)
    (f : Collector Scripted Float → Collector Scripted Float) : Result :=
  s.hook member fun c => (.nothing, f c)

/-- The stack of the current collector. -/
def stack? (s : Session) : Option (List String) := s.collectors.getLast?.map Collector.stack

/-! ### Calls -/

/-- Enters a call. -/
def enter (s : Session) (c : Call) : Session × Option (Option (Entry Float)) :=
  s.use s.current fun collector => collector.enter scripted c.name

/-- Leaves a call. -/
def leave (s : Session) (c : Call) (entry : Option (Entry Float)) : Session :=
  (s.use s.current fun collector =>
    ((), collector.leave scripted entry (argumentSummaries c.arguments c.named))).1

/-- How a call ends. -/
def ending (c : Call) (name : Option String) : Except Trouble Reply :=
  match c.raises with
  | none => .ok (.returned c.returns name)
  | some (.ok e) => .error (.raised e)
  | some (.error cause) => .error (.unfit cause)

/-! ### Actions -/

/-- The last timer of a line, and the other timers. -/
def takeTimer (line : Int) (timers : List Timer) : Option (Timer × List Timer) :=
  match timers.reverse.span fun t => t.line ≠ line with
  | (later, t :: earlier) => some (t, earlier.reverse ++ later.reverse)
  | (_, []) => none

/-- Starts a collector. -/
def start (s : Session) (options : TrackingOptions) (mapping : Option (List (Int × Option Int)))
    (lines : List String) : Session :=
  let c := Collector.start scripted options mapping lines s.script s.instruments
  { s with
    instruments := c.surroundings
    written := s.written ++ c.written
    collectors := s.collectors ++ [c] }

/-- Opens a line. -/
def openLine (s : Session) (line : Int) : Result :=
  match s.use s.current fun c => c.openLine scripted with
  | (s, none) => (s, .error (.noCollector "options"))
  | (s, some started) =>
    ({ s with timers := s.timers ++ [⟨line, started.map fun t => (s.current, t)⟩] }, .ok .nothing)

/-- Closes the line that was opened last with a number. -/
def closeLine (s : Session) (line : Int) : Session :=
  match takeTimer line s.timers with
  | none => s
  | some (timer, timers) =>
    let s := { s with timers }
    match timer.started with
    | none => s
    | some (number, started) => (s.use number fun c => ((), c.closeLine scripted line started)).1

/-- Lets a coroutine end. -/
def resume (s : Session) (id : String) : Result :=
  match s.coroutines.find? fun c => c.id = id with
  | none => (s, .ok .nothing)
  | some c =>
    let s := { s with coroutines := s.coroutines.filter fun c => c.id ≠ id }
    (s.leave c.call c.entry, ending c.call none)

/-- Ends the program. -/
def finish (s : Session) (raised : Option Raise) : Result :=
  match raised with
  | some (.error cause) => (s, .error (.unfit cause))
  | some (.ok e) => s.quietHook "finish" fun c => c.finish scripted (some e)
  | none => s.quietHook "finish" fun c => c.finish scripted none

mutual

/-- What an action does and gives. -/
def act (s : Session) : Action → Result
  | .start options mapping lines => (s.start options mapping lines, .ok .nothing)
  | .tick amount => ({ s with instruments := s.instruments.tick amount }, .ok .nothing)
  | .openLine line => s.openLine line
  | .closeLine line => (s.closeLine line, .ok .unheeded)
  | .assign name value line =>
    s.quietHook "options" fun c => c.assign scripted name value line
  | .sample forced => s.quietHook "sample_memory" fun c => c.sample scripted forced
  | .now => s.hook "now" fun c =>
    let (t, c) := c.now scripted
    (.time t, c)
  | .summarize value => (s, .ok (.text value.summary))
  | .generate => (s, .ok .untouched)
  | .call c body =>
    match s.enter c with
    | (s, none) => (s, .error (.noCollector "enter"))
    | (s, some entry) =>
      match s.actAll body with
      | (s, some trouble) => (s.leave c entry, .error trouble)
      | (s, none) => (s.leave c entry, ending c (some c.name))
  | .spawn id c body =>
    match s.enter c with
    | (s, none) => (s, .error (.noCollector "enter"))
    | (s, some entry) =>
      match s.actAll body with
      | (s, some trouble) => (s.leave c entry, .error trouble)
      | (s, none) =>
        ({ s with coroutines := s.coroutines ++ [⟨id, c, entry⟩] }, .ok .nothing)
  | .resume id => s.resume id
  | .finish raised => s.finish raised

/-- Actions one after the other, up to the first that fails. -/
def actAll (s : Session) : List Action → Session × Option Trouble
  | [] => (s, none)
  | a :: as =>
    match s.act a with
    | (s, .error trouble) => (s, some trouble)
    | (s, .ok _) => s.actAll as

end

end Session

end SnippetProfiler.Indented
