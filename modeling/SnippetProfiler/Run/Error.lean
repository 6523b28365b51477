import SnippetProfiler.Json.Basic

/-!
# Errors of runs

What can go wrong with a run.  `ErrorKind` classifies failures, and `RunError` is an error
that the profiler raises on purpose: it has a kind, a message, and details under keys.
-/

namespace SnippetProfiler

/-- The kinds of failures. -/
inductive ErrorKind where
  | unsupportedLanguage
  | duplicateExecution
  | instrumentationFailure
  | runtimeError
  | timeout
  | protocolDecodeError
  deriving DecidableEq, Repr

namespace ErrorKind

/-- The word for a kind of failure. -/
def word : ErrorKind → String
  | unsupportedLanguage => "UnsupportedLanguage"
  | duplicateExecution => "DuplicateExecution"
  | instrumentationFailure => "InstrumentationFailure"
  | runtimeError => "RuntimeError"
  | timeout => "Timeout"
  | protocolDecodeError => "ProtocolDecodeError"

/-- All kinds of failures. -/
def all : List ErrorKind :=
  [unsupportedLanguage, duplicateExecution, instrumentationFailure, runtimeError, timeout,
   protocolDecodeError]

/-- The kind of failure with a word. -/
def ofWord? (word : String) : Option ErrorKind := all.find? (·.word = word)

end ErrorKind

/-- An error that is raised on purpose. -/
inductive RunError where
  | unsupportedLanguage (language : String)
  | duplicateExecution (id : String)
  | instrumentation (message : String) (details : List (String × Json))
  | frame (message line : String)
  | side (name : String) (kind : ErrorKind) (message : String) (line : Json)
  | general (message : String) (details : List (String × Json))
  deriving Repr

/-- A detail that has the name of something else that an error is made from. -/
structure NameClash where
  name : String
  deriving DecidableEq, Repr

/-- The wording of an error. -/
def NameClash.message (e : NameClash) : String :=
  "ExecutionError.__init__() got multiple values for argument '" ++ e.name ++ "'"

namespace RunError

/-- The names that no detail may have. -/
def takenNames : List String := ["self", "message"]

/-- Details that may be given to an error: none of them has a name that is taken. -/
def checkDetails (details : List (String × Json)) : Except NameClash (List (String × Json)) :=
  match details.find? fun (name, _) => takenNames.contains name with
  | some (name, _) => .error ⟨name⟩
  | none => .ok details

/-- The number of characters of a line that an error shows. -/
def shownLength : Nat := 200

/-- The beginning of a line, as errors show it. -/
def shown (line : String) : String := .ofList (line.toList.take shownLength)

/-- The kind of an error. -/
def kind : RunError → ErrorKind
  | unsupportedLanguage _ => .unsupportedLanguage
  | duplicateExecution _ => .duplicateExecution
  | instrumentation .. => .instrumentationFailure
  | frame .. => .protocolDecodeError
  | side _ kind .. => kind
  | general .. => .runtimeError

/-- The wording of an error. -/
def message : RunError → String
  | unsupportedLanguage language => "Language '" ++ language ++ "' is not supported"
  | duplicateExecution id => "Execution '" ++ id ++ "' is already in flight"
  | instrumentation message _ => message
  | frame message _ => message
  | side name _ message _ => name ++ " run failed: " ++ message
  | general message _ => message

/-- The details of an error. -/
def details : RunError → List (String × Json)
  | unsupportedLanguage language => [("language", .str language)]
  | duplicateExecution id => [("execution_id", .str id)]
  | instrumentation _ details => details
  | frame _ line => [("line", .str (shown line))]
  | side name _ _ line => [("side", .str name), ("source_line", line)]
  | general _ details => details

/-- An error as data; details may take the place of the kind and the message. -/
def toJson (e : RunError) : Json :=
  .obj (e.details.foldl (fun fields (k, v) => Json.put fields k v)
    [("kind", .str e.kind.word), ("message", .str e.message)])

end RunError

end SnippetProfiler
