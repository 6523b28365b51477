import SnippetProfiler.Json.Reader
import SnippetProfiler.Json.Writer
import SnippetProfiler.Sorting
import SnippetProfiler.Text.Blank
import SnippetProfiler.Text.Quoted
import SnippetProfiler.Trace.Data

/-!
# Frames

An instrumented program reports to the profiler on its standard output, among what the
program itself prints.  A report is a line that ends in a frame: a sentinel, and an object
on the rest of the line.  `split` takes a line apart; text in front of a sentinel is
ordinary output.  `frameLine` writes a frame as the program does.

A frame of the kind `complete` brings the whole trace once more.  `traceOf` collects it: the
events that are in order, sorted by time, and at equal times by kind and position.
-/

namespace SnippetProfiler

open Validation (Checked Fault Fields)

/-! ### Events in frames -/

/-- Why an event in a frame is refused. -/
inductive EventError where
  | unknownKind (kind : Json)
  | compositeKind (kind : Json)
  | faulty (faults : List Fault)
  deriving Repr

namespace EventError

/-- The text of a word, number, truth value or null that stands where a kind should. -/
def scalarText : Json → String
  | .null => "None"
  | .bool b => if b then "True" else "False"
  | .int n => Decimal.integer n
  | .float x => Decimal.dataLayout.write x
  | .str s => Text.Quoted.literal s
  | _ => ""

/-- The wording of an error; faults have a wording of their own. -/
def message : EventError → String
  | unknownKind kind => "unknown event kind " ++ scalarText kind
  | compositeKind kind => "unhashable type: '" ++ kind.typeName ++ "'"
  | faulty _ => ""

/-- Whether an error is one of the program that reports: the frame is then dropped.  A kind
that is a list or an object is not foreseen. -/
def isForeseen : EventError → Bool
  | compositeKind _ => false
  | _ => true

end EventError

/-- The event of a kind, with data. -/
def decodeEvent (kind data : Json) : Except EventError (TraceEvent Float) :=
  match kind with
  | .arr _ | .obj _ => .error (.compositeKind kind)
  | .str word =>
    match EventKind.ofWord? word with
    | none => .error (.unknownKind kind)
    | some k =>
      match TraceEvent.readKind k data with
      | .valid e => .ok e
      | .faulty fs => .error (.faulty fs)
  | _ => .error (.unknownKind kind)

/-! ### Sentinels -/

/-- The kinds of frames. -/
inductive FrameKind where
  | event
  | complete
  | error
  deriving DecidableEq, Repr

namespace FrameKind

/-- The word for a kind of frame. -/
def word : FrameKind → String
  | event => "event"
  | complete => "complete"
  | error => "error"

/-- The text in front of the object of a frame. -/
def sentinel : FrameKind → List Char
  | event => "__PERFSCOPE_EVENT__".toList
  | complete => "__PERFSCOPE_COMPLETE__".toList
  | error => "__PERFSCOPE_ERROR__".toList

/-- The kind of frame whose sentinel begins a text. -/
def beginning? (s : List Char) : Option FrameKind :=
  [event, complete, error].find? fun k => k.sentinel.isPrefixOf s

end FrameKind

/-- A line with a sentinel in it. -/
structure Marked where
  before : List Char
  kind : FrameKind
  after : List Char
  deriving Repr

/-- A line at its first sentinel, if it has one. -/
def findSentinel : List Char → Option Marked
  | [] => none
  | c :: cs =>
    match FrameKind.beginning? (c :: cs) with
    | some k => some ⟨[], k, (c :: cs).drop k.sentinel.length⟩
    | none => (findSentinel cs).map fun m => { m with before := c :: m.before }

/-! ### Frames of a line -/

/-- A part of a line: ordinary output, an event, or the end of the program. -/
inductive Frame where
  | output (text : String)
  | event (event : TraceEvent Float) (payload : Fields)
  | complete (payload : Fields)
  | error (payload : Fields)
  deriving Repr

/-- Why a frame is refused. -/
inductive FrameError where
  | unreadable (body : List Char) (cause : Json.ReadError)
  | notAnObject
  | event (cause : EventError)
  deriving Repr

namespace FrameError

/-- The wording of the cause. -/
def message : FrameError → String
  | unreadable body cause => cause.message body
  | notAnObject => "payload is not an object"
  | event cause => cause.message

/-- Whether a frame with this error is dropped. -/
def isForeseen : FrameError → Bool
  | event cause => cause.isForeseen
  | unreadable _ (.tooDeep _) => false
  | _ => true

end FrameError

/-- A line whose frame is refused, with the output in front of the frame. -/
structure LineError where
  kind : FrameKind
  cause : FrameError
  output : String
  deriving Repr

/-- The wording of an error. -/
def LineError.message (e : LineError) : String :=
  "Malformed " ++ e.kind.word ++ " frame: " ++ e.cause.message

/-- The frame of a kind with the object `payload`. -/
def frameOf (kind : FrameKind) (payload : Fields) : Except FrameError Frame :=
  match kind with
  | .complete => .ok (.complete payload)
  | .error => .ok (.error payload)
  | .event =>
    let entry (key : String) := (Json.lookup payload key).getD .null
    match decodeEvent (entry "event") (entry "data") with
    | .ok e => .ok (.event e payload)
    | .error e => .error (.event e)

/-- Whether a character ends a line of output. -/
def endsLine (c : Char) : Bool := c = '\r' || c = '\n'

/-- The frame of a kind with the text `body`. -/
def readFrame (kind : FrameKind) (body : List Char) : Except FrameError Frame :=
  match Json.parse body with
  | .error e => .error (.unreadable body e)
  | .ok (.obj payload) => frameOf kind payload
  | .ok _ => .error .notAnObject

/-- The parts of a line. -/
def split (line : String) : Except LineError (List Frame) :=
  match findSentinel line.toList with
  | none => .ok [.output line]
  | some m =>
    let output := String.ofList m.before
    match readFrame m.kind (Text.dropRightWhile endsLine m.after) with
    | .error e => .error ⟨m.kind, e, output⟩
    | .ok frame => .ok (if m.before.isEmpty then [frame] else [.output output, frame])

/-- The line that a program writes for a frame. -/
def frameLine (kind : FrameKind) (payload : Json) : String :=
  .ofList (kind.sentinel ++ Json.chars Json.spaced payload ++ ['\n'])

/-! ### The trace of a completed program -/

/-- The key under which a completed program lists its events of a kind. -/
def EventKind.listKey : EventKind → String
  | .memory => "memoryUsage"
  | .functionCall => "functionCalls"
  | .variableState => "variableStates"
  | .executionFlow => "executionFlow"

/-- The kinds in the order in which their events are collected. -/
def EventKind.all : List EventKind := [.memory, .functionCall, .variableState, .executionFlow]

/-- A value that is no list where a list of events should be. -/
structure NotAList where
  typeName : String
  deriving DecidableEq, Repr

/-- The wording of an error. -/
def NotAList.message (e : NotAList) : String := "'" ++ e.typeName ++ "' object is not iterable"

/-- The items of a value.  What counts as absent has none; the items of a text and of an
object are texts. -/
def entries (v : Json) : Except NotAList (List Json) :=
  if !v.truthy then .ok []
  else match v with
    | .arr items => .ok items
    | .str s => .ok (s.toList.map fun c => .str (.singleton c))
    | .obj fields => .ok (fields.map fun (k, _) => .str k)
    | v => .error ⟨v.typeName⟩

/-- The events of one kind that are in order among the items. -/
def validEvents (kind : EventKind) (items : List Json) : Trace Float :=
  items.filterMap fun v => (TraceEvent.readKind kind v).value?

/-- The events of the kinds `kinds` in a payload, kind after kind. -/
def collect (payload : Fields) : List EventKind → Except NotAList (Trace Float)
  | [] => .ok []
  | kind :: kinds =>
    match entries ((Json.lookup payload kind.listKey).getD .null) with
    | .error e => .error e
    | .ok items => (collect payload kinds).map (validEvents kind items ++ ·)

/-- Events sorted by time; events at one time keep their order. -/
def sortByTime {τ : Type} [Quantity τ] (t : Trace τ) : Trace τ :=
  Sorting.sort (fun a b => Quantity.lt a.time b.time) (fun e => Quantity.isNumber e.time) t

/-- The trace that a completed program reports. -/
def traceOf (payload : Fields) : Except NotAList (Trace Float) :=
  (collect payload EventKind.all).map sortByTime

end SnippetProfiler
