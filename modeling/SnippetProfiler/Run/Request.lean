import SnippetProfiler.Text.Blank
import SnippetProfiler.Text.Lines
import SnippetProfiler.Trace.Data

/-!
# Requests

What a caller asks for: a snippet in a language, the lines of its input, what to track,
and how long it may run.  A request that names no id gets a fresh one.
-/

namespace SnippetProfiler

open Validation (Checked Fields float positive string list nullable record)

/-- The lines of input that a text stands for: blank lines around it are dropped. -/
def inputLines (text : String) : List String :=
  let s := Text.strip text.toList
  if s.isEmpty then [] else (Text.splitOnNewline s).map .ofList

/-- A request to run a snippet. -/
structure RunRequest where
  code : String
  language : String
  input : List String := []
  options : TrackingOptions := {}
  id : String
  timeout : Option Float := none
  deriving Repr

/-- A language that snippets can be written in. -/
structure LanguageInfo where
  id : String
  name : String
  version : String
  deriving DecidableEq, Repr

/-- Reads the lines of input: a list of lines, or a text that is cut into lines. -/
def readInput : Json → Checked (List String)
  | .null => .valid []
  | .str s => .valid (inputLines s)
  | v => list string v

namespace RunRequest

/-- Reads the fields of a request; `fresh` is the id of a request that names none. -/
def ofFields (fresh : String) (fields : Fields) : Checked RunRequest :=
  RunRequest.mk <$> fields.required "code" string
    <*> fields.required "language" string
    <*> fields.optional "stdin" [] readInput
    <*> fields.optional "options" {} TrackingOptions.read
    <*> fields.optional "executionId" fresh string
    <*> fields.optional "timeout" none (nullable positive)

/-- Reads a request. -/
def read (fresh : String) : Json → Checked RunRequest := record (ofFields fresh)

/-- Whether data for a request takes a fresh id. -/
def needsId : Json → Bool
  | .obj fields => (Fields.find fields "executionId").isNone
  | _ => false

/-- A request as data. -/
def toJson (r : RunRequest) : Json :=
  .obj [("code", .str r.code), ("language", .str r.language), ("stdin", Json.texts r.input),
    ("options", r.options.toJson), ("executionId", .str r.id), ("timeout", Json.ofFloat? r.timeout)]

end RunRequest

namespace LanguageInfo

/-- Reads a language. -/
def read : Json → Checked LanguageInfo :=
  record fun fields =>
    LanguageInfo.mk <$> fields.required "id" string <*> fields.required "name" string
      <*> fields.required "version" string

/-- A language as data. -/
def toJson (l : LanguageInfo) : Json :=
  .obj [("id", .str l.id), ("name", .str l.name), ("version", .str l.version)]

end LanguageInfo

end SnippetProfiler
