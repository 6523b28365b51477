import SnippetProfiler.Settings.Assignments
import SnippetProfiler.Text.Lines
import SnippetProfiler.Text.Lower
import SnippetProfiler.Validation.Record

/-!
# Settings

The settings of the profiler.  Each has a default, which a variable of the environment or a
file of assignments may change; the environment wins.  The variable of a setting has the
name of the setting after a prefix, in capitals or not.
-/

namespace SnippetProfiler

open Validation (Checked Step float int string)

/-- The settings. -/
structure Settings where
  logLevel : String := "INFO"
  /-- The time in seconds that a Python snippet may take. -/
  pythonTimeout : Float := 10
  /-- The time in seconds that a JavaScript snippet may take. -/
  javascriptTimeout : Float := 5
  /-- The program that runs Python snippets, when it is not the usual one. -/
  pythonExecutable : Option String := none
  nodeExecutable : String := "node"
  /-- The most memory of a sandbox, in megabytes. -/
  memoryLimit : Int := 512
  /-- The size of the largest file that a sandbox may write, in megabytes. -/
  fileSizeLimit : Int := 8
  /-- The time in seconds that a killed process is waited for. -/
  killGrace : Float := 0.5
  /-- The number of bytes of the longest line of output. -/
  lineLimit : Int := 64 * 1024 * 1024
  /-- The number of events that wait between a sandbox and its orchestrator. -/
  channelSize : Int := 1024
  /-- The origins whose pages may ask. -/
  origins : List String := ["*"]
  /-- The number of feeds that are kept. -/
  feedRetention : Int := 100
  deriving Repr

namespace Settings

/-- What the names of all variables start with. -/
def variablePrefix : String := "perfscope_"

/-- The values of variables by their names in lower case, the last one of a name first. -/
def byLowerName (entries : List Assignments.Assignment) : List Assignments.Assignment :=
  (entries.map fun (name, value) => (Text.lower name, value)).reverse

/-- The value that a table gives to a setting. -/
def given (table : List Assignments.Assignment) (setting : String) : Option String :=
  (table.find? fun entry => entry.1 = variablePrefix ++ setting).bind Prod.snd

/-- The origins in a list with commas. -/
def readOrigins (text : String) : List String :=
  ((Text.splitOnChar ',' text.toList).map Text.strip).filterMap fun s =>
    if s.isEmpty then none else some (.ofList s)

/-- The settings that variables of the environment and a file of assignments make. -/
def read (environment : List (String × String)) (file : String) : Checked Settings :=
  let entries := environment.map fun (name, value) => (name, some value)
  let ofEnvironment := byLowerName entries
  let ofFile := byLowerName (Assignments.read entries file)
  let setting {α : Type} (name : String) (default : α) (check : Json → Checked α) : Checked α :=
    match (given ofEnvironment name).or (given ofFile name) with
    | some text => (check (.str text)).under (.key name)
    | none => .valid default
  Settings.mk <$> setting "log_level" "INFO" string
    <*> setting "python_timeout" 10 float
    <*> setting "javascript_timeout" 5 float
    <*> setting "python_executable" none (fun v => (string v).map some)
    <*> setting "node_executable" "node" string
    <*> setting "memory_limit_mb" 512 int
    <*> setting "file_size_limit_mb" 8 int
    <*> setting "kill_grace" 0.5 float
    <*> setting "max_line_bytes" (64 * 1024 * 1024) int
    <*> setting "channel_size" 1024 int
    <*> setting "cors_origins" ["*"] (fun v => (string v).map readOrigins)
    <*> setting "feed_retention" 100 int

/-- Settings as data. -/
def toJson (s : Settings) (usualPython : String) : Json :=
  .obj [("log_level", .str s.logLevel), ("python_timeout", .float s.pythonTimeout),
    ("javascript_timeout", .float s.javascriptTimeout),
    ("python_executable", .str (s.pythonExecutable.getD usualPython)),
    ("node_executable", .str s.nodeExecutable), ("memory_limit_mb", .int s.memoryLimit),
    ("file_size_limit_mb", .int s.fileSizeLimit), ("kill_grace", .float s.killGrace),
    ("max_line_bytes", .int s.lineLimit), ("channel_size", .int s.channelSize),
    ("cors_origins", Json.texts s.origins), ("feed_retention", .int s.feedRetention)]

end Settings

end SnippetProfiler
