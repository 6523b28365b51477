import SnippetProfiler.Sandbox.Reading
import SnippetProfiler.Sandbox.State
import SnippetProfiler.Settings.Basic
import SnippetProfiler.Text.Lines
import SnippetProfiler.Text.Quoted

/-!
# Sandboxes

A sandbox has a directory, in which it puts the files of a program, and runs the program as a
child process with limits on its time, its memory and its files.  `stage` puts a file into the
directory, `run` runs a program and gives its outcome, and `close` ends the sandbox and removes
the directory.

`execute` runs one program in a sandbox of its own: the module of the hooks and the program are
staged, the program is run, and the sandbox is closed.
-/

namespace SnippetProfiler

namespace Sandbox

/-! ### Limits -/

/-- The limits of a sandbox.  A size of zero is no limit. -/
structure Limits where
  /-- The time of a run, in seconds. -/
  timeout : Float
  /-- The memory of a child, in megabytes. -/
  memory : Int := 0
  /-- The size of the largest file of a child, in megabytes. -/
  fileSize : Int := 8
  /-- The octets of the longest line of output. -/
  lineLength : Int := 64 * 1024 * 1024
  deriving Repr

/-- The limits with a timeout, where those that are not given are settings. -/
def Limits.ofSettings (settings : Settings) (timeout : Float) (memory fileSize lineLength : Option Int) :
    Limits where
  timeout
  memory := memory.getD 0
  fileSize := fileSize.getD settings.fileSizeLimit
  lineLength := match lineLength with
    | some n => if n = 0 then settings.lineLimit else n
    | none => settings.lineLimit

/-- A limit that the system puts on a child: what is limited, the soft limit and the hard
one. -/
structure Bound where
  name : String
  soft : Int
  hard : Int
  deriving DecidableEq, Repr

/-- A megabyte. -/
def megabyte : Int := 1024 * 1024

/-- Why a time has no whole seconds. -/
inductive TimeError where
  | infinite
  | notANumber
  deriving DecidableEq, Repr

/-- The wording of an error. -/
def TimeError.message : TimeError → String
  | infinite => "cannot convert float infinity to integer"
  | notANumber => "cannot convert float NaN to integer"

/-- The whole seconds of a time. -/
def wholeSeconds (seconds : Float) : Except TimeError Int :=
  match Decimal.floor? seconds with
  | some n => .ok n
  | none => .error (if seconds.isNaN then .notANumber else .infinite)

/-- The limits that are asked for a child, in this order. -/
def Limits.bounds (l : Limits) : Except TimeError (List Bound) :=
  (wholeSeconds l.timeout).map fun seconds =>
    let seconds := seconds + 2
    let size (name : String) (megabytes : Int) : List Bound :=
      if megabytes = 0 then [] else [⟨name, megabytes * megabyte, megabytes * megabyte⟩]
    ⟨"RLIMIT_CPU", seconds, seconds + 1⟩ :: size "RLIMIT_FSIZE" l.fileSize
      ++ size "RLIMIT_AS" l.memory

/-- The system that starts children: the list of directories with programs, and the hard limits
above which no child may be limited. -/
structure Host where
  path : String
  ceiling : String → Option Int := fun _ => none

/-- Whether a limit fits into a signed word of the system. -/
def isWord (n : Int) : Bool := Int64.minValue.toInt ≤ n && n ≤ Int64.maxValue.toInt

/-- Whether a system can put a limit on a child.  A hard limit below zero counts as the unsigned word
that it is stored as. -/
def Host.grants (host : Host) (b : Bound) : Bool :=
  isWord b.soft && isWord b.hard &&
    match host.ceiling b.name with
    | some ceiling => b.hard % UInt64.size ≤ ceiling
    | none => true

/-- The limits that a system puts on a child; none when it cannot put all of them on it. -/
def Host.bounds? (host : Host) (l : Limits) : Option (List Bound) :=
  match l.bounds with
  | .ok bounds => if bounds.all host.grants then some bounds else none
  | .error _ => none

/-! ### Sandboxes -/

/-- A child process that was asked for. -/
structure Spawn where
  arguments : List String
  environment : List (String × Option String)
  /-- Whether the child gets input. -/
  piped : Bool
  /-- The octets of the longest line of output. -/
  lineLength : Int
  bounds : List Bound
  /-- The text that was written to a child that has started. -/
  sent : Option String := none
  killed : Bool := false
  deriving Repr

end Sandbox

/-- A sandbox. -/
structure Sandbox where
  directory : String
  limits : Sandbox.Limits
  state : Sandbox.State := .created
  /-- The files in the directory, sorted by name; none when the directory is gone. -/
  files : Option (List String) := some []
  /-- The children that were asked for. -/
  spawns : List Sandbox.Spawn := []
  /-- Whether the last child may still be running. -/
  alive : Bool := false
  deriving Repr

namespace Sandbox

/-- A timeout that is not positive. -/
structure NoTime where
  deriving DecidableEq, Repr

/-- The wording of an error. -/
def NoTime.message (_ : NoTime) : String := "timeout must be positive"

/-- A new sandbox. -/
def create (directory : String) (limits : Limits) : Except NoTime Sandbox :=
  if limits.timeout ≤ 0 then .error {} else .ok { directory, limits }

/-- The sandbox after a request for a state, and whether the request was heeded. -/
def move (s : Sandbox) (new : State) : Except IllegalMove (Sandbox × Bool) :=
  (s.state.move new).map fun (state, heeded) => ({ s with state }, heeded)

/-- The directory of a sandbox, while it is there. -/
def directory? (s : Sandbox) : Option String := s.files.map fun _ => s.directory

/-- The environment of a child, in which `path` is the list of directories with programs. -/
def environment (path : String) (s : Sandbox) : List (String × Option String) :=
  [("PATH", some path), ("HOME", s.directory?), ("TMPDIR", s.directory?),
    ("LANG", some "C.UTF-8"), ("PYTHONHASHSEED", some "0"), ("PYTHONUNBUFFERED", some "1"),
    ("PYTHONIOENCODING", some "utf-8"), ("PYTHONDONTWRITEBYTECODE", some "1")]

/-- The path of a file in the directory. -/
def path (s : Sandbox) (file : String) : String := s.directory ++ "/" ++ file

/-! ### Files -/

/-- Why there can be no file at a path. -/
inductive PathError where
  | missing
  | isDirectory
  | notDirectory
  | tooLong
  deriving DecidableEq, Repr

/-- The wording of an error for a path. -/
def PathError.message (file : String) (e : PathError) : String :=
  (match e with
    | missing => "[Errno 2] No such file or directory: "
    | isDirectory => "[Errno 21] Is a directory: "
    | notDirectory => "[Errno 20] Not a directory: "
    | tooLong => "[Errno 36] File name too long: ") ++ Text.Quoted.literal file

/-- Why a file cannot be staged. -/
inductive StageError where
  | closed
  | nullCharacter
  | unfit (file : String) (cause : PathError)
  | move (cause : IllegalMove)
  deriving Repr

/-- The wording of an error. -/
def StageError.message : StageError → String
  | closed => "expected str, bytes or os.PathLike object, not NoneType"
  | nullCharacter => "embedded null byte"
  | unfit file cause => cause.message file
  | move cause => cause.message

/-- The most octets of a name. -/
def longestName : Nat := 255

/-- The name that the parts of a path lead to from a directory with some files and no directories
in it; none if the path leads out of the directory. -/
def nameAt (files : List String) : (parts : List String) → Except PathError (Option String)
  | [] => .error .isDirectory
  | [name] =>
    if name.isEmpty || name = "." || name = ".." then .error .isDirectory
    else if longestName < name.utf8ByteSize then .error .tooLong
    else .ok (some name)
  | part :: rest =>
    if part.isEmpty || part = "." then nameAt files rest
    else if rest.all String.isEmpty then .error .isDirectory
    else if part = ".." then
      if rest.all fun r => r.isEmpty || r = "." || r = ".." then .error .isDirectory else .ok none
    else if longestName < part.utf8ByteSize then .error .tooLong
    else if files.contains part then .error .notDirectory
    else .error .missing

/-- Adds a name to sorted names. -/
def insertName (names : List String) (name : String) : List String :=
  match names with
  | [] => [name]
  | n :: rest =>
    if n = name then n :: rest
    else if name < n then name :: n :: rest
    else n :: insertName rest name

/-- Puts a file into the directory, and gives its path.  A file that is the instrumented
program moves the sandbox on; it is there even when the move is illegal. -/
def stage (s : Sandbox) (file : String) (instrumented : Bool) :
    Sandbox × Except StageError String :=
  match s.files with
  | none => (s, .error .closed)
  | some names =>
    if file.toList.contains '\x00' then (s, .error .nullCharacter)
    else
      match nameAt names ((Text.splitOnChar '/' file.toList).map .ofList) with
      | .error e => (s, .error (.unfit (s.path file) e))
      | .ok name =>
        let s := { s with files := some ((name.map (insertName names)).getD names) }
        if instrumented then
          match s.move .instrumented with
          | .ok (s, _) => (s, .ok (s.path file))
          | .error e => (s, .error (.move e))
        else (s, .ok (s.path file))

/-! ### Runs -/

/-- What a run gives: the events that were delivered, and the outcome. -/
structure Run where
  delivered : Trace Float
  outcome : Except RunFault Outcome

/-- The text that lines of input are sent as. -/
def inputText (input : List String) : String := "\n".intercalate input ++ "\n"

/-- The final state of a run with an outcome. -/
def finalState : Outcome → State
  | .success _ => .completed
  | .failure f => if f.kind = .timeout then .timedOut else .failed

/-- Ends a run with an outcome. -/
def settle (s : Sandbox) (outcome : Outcome) : Sandbox × Except RunFault Outcome :=
  match s.move (finalState outcome) with
  | .ok (s, _) => (s, .ok outcome)
  | .error e => (s, .error (.move e))

/-- Runs a program that has started as `child`.  The child is killed when a line is too long
or its time is over, and left alone when its output causes a fault. -/
def converse (s : Sandbox) (spawn : Spawn) (child : Child) (input : List String)
    (accepts : TraceEvent Float → Bool) : Sandbox × Run :=
  let text := if input.isEmpty then "" else inputText input
  let (lines, ending) := child.lines s.limits.lineLength
  let (reading, fault) := Reading.lines accepts {} (lines.map textOf)
  let run (s : Sandbox) (spawn : Spawn) (alive : Bool) (outcome : Except RunFault Outcome) :
      Sandbox × Run :=
    let s := { s with spawns := s.spawns ++ [spawn], alive }
    match outcome with
    | .error fault => (s, ⟨reading.delivered, .error fault⟩)
    | .ok outcome =>
      let (s, outcome) := s.settle outcome
      (s, ⟨reading.delivered, outcome⟩)
  match fault, ending with
  | some fault, _ => run s { spawn with sent := some "" } true (.error fault)
  | none, .tooLong =>
    run s { spawn with sent := some text, killed := true } false
      (.ok (tooLongOutcome s.limits.lineLength))
  | none, .outOfTime =>
    run s { spawn with sent := some text, killed := true } false
      (.ok (timeoutOutcome s.limits.timeout))
  | none, .closed => run s { spawn with sent := some text } false (reading.outcome child)

/-- The child that a command is asked to start as. -/
def spawn (host : Host) (s : Sandbox) (arguments input : List String) : Except SpawnError Spawn :=
  if arguments.isEmpty then .error .noProgram
  else if s.files.isNone then .error .noDirectory
  else if arguments.any (·.toList.contains '\x00') then .error .nullCharacter
  else
    match host.bounds? s.limits with
    | none => .error .unlimited
    | some bounds =>
      .ok { arguments, environment := s.environment host.path, piped := !input.isEmpty,
            lineLength := s.limits.lineLength, bounds }

/-- Runs a program in the sandbox.  `child` is what the program does as a process, and
`accepts` whether a receiver takes an event.  The output of a child that has started can be read
only if its lines may have octets. -/
def run (host : Host) (s : Sandbox) (child : Child) (arguments input : List String)
    (accepts : TraceEvent Float → Bool) : Sandbox × Run :=
  match s.move .running with
  | .error e => (s, ⟨[], .error (.move e)⟩)
  | .ok (s, _) =>
    match s.spawn host arguments input with
    | .error e => (s, ⟨[], .error (.spawn e)⟩)
    | .ok spawn =>
      match child.refused with
      | some e =>
        let program := arguments.headD ""
        let outcome := failureOf ("Could not start " ++ program ++ ": " ++ e.message program)
        let (s, outcome) := { s with spawns := s.spawns ++ [spawn] }.settle outcome
        (s, ⟨[], outcome⟩)
      | none =>
        if 0 < s.limits.lineLength then s.converse spawn child input accepts
        else
          ({ s with spawns := s.spawns ++ [{ spawn with sent := some "" }], alive := true },
            ⟨[], .error .unreadable⟩)

/-- Marks the last child as killed. -/
def killLast : List Spawn → List Spawn
  | [] => []
  | [spawn] => [{ spawn with killed := true }]
  | spawn :: rest => spawn :: killLast rest

/-- Ends the sandbox: a child that may be running is killed, and the directory is removed. -/
def close (s : Sandbox) : Sandbox :=
  { s with
    spawns := if s.alive then killLast s.spawns else s.spawns
    alive := false
    state := if s.state.isFinal then s.state else .failed
    files := none }

/-! ### Executions -/

/-- The files of an execution, and the arguments of its command, given the path of the
program. -/
structure Program where
  hooks : String
  script : String
  arguments : (path : String) → List String

/-- Stages the files, with the program as the instrumented one, and runs the program. -/
def runProgram (host : Host) (s : Sandbox) (program : Program) (child : Child)
    (input : List String) (accepts : TraceEvent Float → Bool) : Sandbox × Run :=
  let (s, _) := s.stage program.hooks false
  let (s, _) := s.stage program.script true
  s.run host child (program.arguments (s.path program.script)) input accepts

/-- Runs a program in a sandbox of its own, which is closed in the end. -/
def execute (host : Host) (directory : String) (limits : Limits) (program : Program) (child : Child)
    (input : List String) (accepts : TraceEvent Float → Bool) : Except NoTime (Sandbox × Run) :=
  match create directory limits with
  | .error e => .error e
  | .ok s =>
    let (s, run) := s.runProgram host program child input accepts
    .ok (s.close, run)

end Sandbox

end SnippetProfiler
