import SnippetProfiler.Decimal.Read
import SnippetProfiler.Run.Outcome
import SnippetProfiler.Sandbox.Child
import SnippetProfiler.Sandbox.State
import SnippetProfiler.Text.Blank
import SnippetProfiler.Text.Digits

/-!
# Reading the output of a child

The output of a child is read line by line.  Its text is kept, its events are delivered one
by one, and its first terminal frame decides the outcome.  Nothing that comes after that frame
is delivered.  The times of delivered events do not go back: an event that is earlier than
the one before it is moved to the time of that one.  A line with a malformed frame counts as
its text in front of the frame.
-/

namespace SnippetProfiler.Sandbox

open Validation (Checked Fault Fields string nullable)

/-! ### Faults -/

/-- Why a reported duration is no number. -/
inductive NumberError where
  | unreadable (text : String)
  | notANumber (typeName : String)
  | tooLarge
  deriving DecidableEq, Repr

/-- The wording of an error. -/
def NumberError.message : NumberError → String
  | unreadable text => "could not convert string to float: " ++ Text.Quoted.literal text
  | notANumber typeName =>
    "float() argument must be a string or a real number, not '" ++ typeName ++ "'"
  | tooLarge => "int too large to convert to float"

/-- Why a command cannot be started as a child: it names no program, the directory is gone, one of
its words has a null character, or the child cannot be limited. -/
inductive SpawnError where
  | noProgram
  | noDirectory
  | nullCharacter
  | unlimited
  deriving DecidableEq, Repr

/-- The wording of an error. -/
def SpawnError.message : SpawnError → String
  | noProgram => "create_subprocess_exec() missing 1 required positional argument: 'program'"
  | noDirectory => "expected str, bytes or os.PathLike object, not NoneType"
  | nullCharacter => "embedded null byte"
  | unlimited => "Exception occurred in preexec_fn."

/-- What can go wrong with a run that is no outcome: a command that cannot be started, an output
that cannot be read, a report that was not foreseen, or a receiver that refuses an event. -/
inductive RunFault where
  | spawn (cause : SpawnError)
  | unreadable
  | frame (cause : FrameError)
  | trace (cause : NotAList)
  | duration (cause : NumberError)
  | failure (faults : List Fault)
  | receiver
  | move (cause : IllegalMove)
  deriving Repr

/-- The wording of a fault; faults of data and of a receiver have a wording of their own. -/
def RunFault.message : RunFault → String
  | spawn cause => cause.message
  | unreadable => "'NoneType' object has no attribute 'read'"
  | frame cause => cause.message
  | trace cause => cause.message
  | duration cause => cause.message
  | failure _ => ""
  | receiver => ""
  | move cause => cause.message

/-! ### Terminal frames -/

/-- A frame that ends a program: with the trace of a completed run, or with an error. -/
inductive Terminal where
  | complete (payload : Fields)
  | error (payload : Fields)
  deriving Repr

/-- The number that a reported value stands for; what counts as absent is zero. -/
def reportedNumber (v : Json) : Except NumberError Float :=
  if !v.truthy then .ok 0
  else match v with
    | .float x => .ok x
    | .bool _ => .ok 1
    | .int n => match Decimal.ofInt? n with
      | some x => .ok x
      | none => .error .tooLarge
    | .str s => match Decimal.readSpacedFloat? ((Validation.trim s.toList).map Text.plainDigit) with
      | some x => .ok x
      | none => .error (.unreadable s)
    | v => .error (.notANumber v.typeName)

/-- The value of a key in a payload, null if it is not there. -/
def entry (payload : Fields) (key : String) : Json := (Json.lookup payload key).getD .null

/-- The message of an error that reports none. -/
def unnamedError : String := "Program raised an error"

/-- The failure that a payload reports. -/
def reportedFailure (payload : Fields) : Checked Failure :=
  let message := entry payload "message"
  let line := entry payload "line"
  (fun message line stack => Failure.mk .runtimeError message line stack none)
    <$> (string (if message.truthy then message else .str unnamedError)).under (.key "message")
    <*> (match line with
      | .null => .valid (some unknownLine)
      | v => (FailureLine.read v).under (.key "source_line"))
    <*> (nullable string (entry payload "stack")).under (.key "stack")

/-- The outcome that a terminal frame decides, with the text of the output and of the standard
error. -/
def Terminal.outcome (output errors : String) : Terminal → Except RunFault Outcome
  | complete payload =>
    match traceOf payload with
    | .error e => .error (.trace e)
    | .ok trace =>
      match reportedNumber (entry payload "executionTime") with
      | .error e => .error (.duration e)
      | .ok duration => .ok (.success ⟨output, trace, duration, errors⟩)
  | error payload =>
    match reportedFailure payload with
    | .valid failure => .ok (.failure failure)
    | .faulty faults => .error (.failure faults)

/-! ### Lines -/

/-- What was read so far: the text, the delivered events, the first terminal frame, and the
time of the last event. -/
structure Reading where
  output : String := ""
  delivered : Trace Float := []
  terminal : Option Terminal := none
  latest : Float := 0
  deriving Repr

namespace Reading

/-- An event at a time that is not before the last one. -/
def clamp (r : Reading) (e : TraceEvent Float) : TraceEvent Float :=
  if e.time < r.latest then e.withTime r.latest else e

/-- Delivers an event to a receiver, which may refuse it. -/
def deliver (accepts : TraceEvent Float → Bool) (r : Reading) (e : TraceEvent Float) :
    Reading × Option RunFault :=
  match r.terminal with
  | some _ => (r, none)
  | none =>
    let e := r.clamp e
    let r := { r with latest := e.time }
    if accepts e then ({ r with delivered := r.delivered ++ [e] }, none)
    else (r, some .receiver)

/-- Takes a terminal frame, of which only the first one counts. -/
def finish (r : Reading) (t : Terminal) : Reading := { r with terminal := r.terminal.or (some t) }

/-- Reads a part of a line. -/
def frame (accepts : TraceEvent Float → Bool) (r : Reading) : Frame → Reading × Option RunFault
  | .output text => ({ r with output := r.output ++ text }, none)
  | .event e _ => r.deliver accepts e
  | .complete payload => (r.finish (.complete payload), none)
  | .error payload => (r.finish (.error payload), none)

/-- Reads the parts of a line, up to the first fault. -/
def frames (accepts : TraceEvent Float → Bool) (r : Reading) : List Frame → Reading × Option RunFault
  | [] => (r, none)
  | f :: fs =>
    match r.frame accepts f with
    | (r, none) => frames accepts r fs
    | (r, some fault) => (r, some fault)

/-- Reads a line. -/
def line (accepts : TraceEvent Float → Bool) (r : Reading) (line : String) :
    Reading × Option RunFault :=
  match split line with
  | .ok fs => r.frames accepts fs
  | .error e =>
    if e.cause.isForeseen then ({ r with output := r.output ++ e.output }, none)
    else (r, some (.frame e.cause))

/-- Reads lines, up to the first fault. -/
def lines (accepts : TraceEvent Float → Bool) (r : Reading) :
    List String → Reading × Option RunFault
  | [] => (r, none)
  | l :: ls =>
    match r.line accepts l with
    | (r, none) => lines accepts r ls
    | (r, some fault) => (r, some fault)

end Reading

/-- The text of octets. -/
def textOf (octets : Octets) : String := .ofList (Text.Utf8.decode octets)

/-! ### Outcomes -/

/-- The most characters of the standard error that a message shows. -/
def shownErrors : Nat := 2000

/-- A failure of the kind `runtimeError` at a line that is not known. -/
def failureOf (message : String) (stack : Option String := none) : Outcome :=
  .failure { kind := .runtimeError, message, line := some unknownLine, stack }

/-- The outcome of a child that ended without a terminal frame. -/
def silentOutcome (exitCode : Int) (errors : String) : Outcome :=
  let message :=
    "Process exited with code " ++ Decimal.integer exitCode ++ " before reporting completion"
  let shown := Text.strip errors.toList
  let tail := String.ofList (shown.drop (shown.length - shownErrors))
  failureOf (if tail.isEmpty then message else message ++ ": " ++ tail)
    (if errors.isEmpty then none else some errors)

/-- The outcome of a child that writes a line of more than `limit` octets. -/
def tooLongOutcome (limit : Int) : Outcome :=
  failureOf ("Output line exceeds the " ++ Decimal.integer limit ++ " byte limit")

/-- The outcome of a child that runs for longer than `timeout` seconds. -/
def timeoutOutcome (timeout : Float) : Outcome :=
  let milliseconds := timeout * 1000
  .failure { kind := .timeout
             message := "Execution timed out after " ++ Decimal.fixed 0 milliseconds ++ "ms"
             line := some unknownLine
             timeout := some milliseconds }

/-- The outcome of a child whose output is over. -/
def Reading.outcome (r : Reading) (child : Child) : Except RunFault Outcome :=
  let errors := textOf child.errors
  match r.terminal with
  | some t => t.outcome r.output errors
  | none => .ok (silentOutcome child.exitCode errors)

end SnippetProfiler.Sandbox
