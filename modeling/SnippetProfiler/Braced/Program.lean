import SnippetProfiler.Braced.Plan
import SnippetProfiler.Text.Lines
import SnippetProfiler.Trace.Options

/-!
# Instrumented programs

`weave` writes planned hooks into a snippet.  `instrument` makes the program that runs in
place of a snippet: four header lines, the snippet with or without its hooks, and a footer
that reports a failure.  A snippet that cannot be scanned or planned keeps its text.

`prepare` also asks whether the rewritten program can be parsed, and takes the program
without hooks if it cannot.
-/

namespace SnippetProfiler.Braced

/-! ### Hooks in their places -/

/-- The hooks in the order of their positions; hooks at one position keep their order. -/
def ordered (hooks : List Insertion) : List Insertion :=
  hooks.mergeSort fun a b => a.position ≤ b.position

/-- Writes hooks, which are in order, into the characters from a position on. -/
def weaveFrom (source : List Char) (position : Nat) : List Insertion → List Char
  | [] => source
  | i :: rest =>
    let n := i.position - position
    source.take n ++ i.hook.text.toList ++ weaveFrom (source.drop n) (max position i.position) rest

/-- Writes hooks into a text. -/
def weave (source : List Char) (hooks : List Insertion) : List Char :=
  weaveFrom source 0 (ordered hooks)

/-- The positions that get hooks, in order, with the texts of their hooks. -/
def placed (hooks : List Insertion) : List (Nat × List String) :=
  (ordered hooks).foldr (fun i groups => match groups with
    | (position, texts) :: rest =>
      if position = i.position then (position, i.hook.text :: texts) :: rest
      else (i.position, [i.hook.text]) :: groups
    | [] => [(i.position, [i.hook.text])]) []

/-! ### Rewritten snippets -/

/-- Why a snippet keeps its text. -/
inductive RewriteError where
  | scan (e : ScanError)
  | plan (e : PlanError)
  deriving DecidableEq, Repr

/-- The wording of an error. -/
def RewriteError.message : RewriteError → String
  | .scan e => e.message
  | .plan e => e.message

/-- The tokens of a snippet, and the hooks planned for them. -/
def analyse (source : String) : Except RewriteError (List Token × List Insertion) :=
  match scan source.toList with
  | .error e => .error (.scan e)
  | .ok tokens =>
    match plan tokens with
    | .error e => .error (.plan e)
    | .ok hooks => .ok (tokens, hooks)

/-- A snippet with its hooks. -/
def rewrite (source : String) : Except RewriteError String :=
  match analyse source with
  | .error e => .error e
  | .ok (_, hooks) => .ok (.ofList (weave source.toList hooks))

/-! ### Programs -/

/-- The number of lines in front of the snippet. -/
def headerLines : Nat := 4

/-- Whether the first token asks for strict mode. -/
def asksStrict : List Token → Bool
  | t :: _ => t.kind = .text && ["'use strict'", "\"use strict\""].contains t.text
  | [] => false

/-- Whether a text begins with the directive for strict mode, blanks aside. -/
def beginsStrict (source : String) : Bool :=
  let s := source.toList.dropWhile Text.isBlank
  "'use strict'".toList.isPrefixOf s || "\"use strict\"".toList.isPrefixOf s

/-- The options as the profiler gets them. -/
def optionsText (o : TrackingOptions) : String :=
  Json.write Json.spaced (.obj (o.fields.map fun (k, v) => (k, .bool v)))

/-- The header lines. -/
def header (strict : Bool) (source : String) (o : TrackingOptions) : List String :=
  [if strict then "'use strict';" else "// instrumented by perfscope",
   "const " ++ hookName ++ " = require('./_perfscope_probe.js');",
   hookName ++ ".start(" ++ optionsText o ++ ", "
     ++ Json.write Json.spaced (Json.texts (Text.lines source)) ++ ", __filename, "
     ++ toString headerLines ++ ");",
   "try \x7b"]

/-- The footer lines. -/
def footer : List String :=
  ["\x7d catch (__probeError) \x7b", "  " ++ hookName ++ ".fail(__probeError);", "\x7d"]

/-- A snippet between header and footer. -/
def assemble (strict : Bool) (source body : String) (o : TrackingOptions) : String :=
  "\n".intercalate (header strict source o) ++ "\n" ++ body ++ "\n"
    ++ "\n".intercalate footer ++ "\n"

/-- The program for a snippet without hooks. -/
def plain (source : String) (o : TrackingOptions) : String :=
  assemble (beginsStrict source) source source o

/-- The program for a snippet with its hooks, or without them if it cannot be rewritten. -/
def instrument (source : String) (o : TrackingOptions) : String :=
  match analyse source with
  | .ok (tokens, hooks) =>
    assemble (asksStrict tokens) source (.ofList (weave source.toList hooks)) o
  | .error _ => plain source o

/-! ### Checked programs -/

/-- The answer of a checker that parses programs: it left with a code and wrote a text, or
it could not be asked. -/
inductive CheckAnswer where
  | left (code : Int) (complaint : String)
  | silent
  deriving DecidableEq, Repr

/-- Whether a text holds another one. -/
def holds (part : List Char) : List Char → Bool
  | [] => part.isEmpty
  | c :: cs => part.isPrefixOf (c :: cs) || holds part cs

/-- What a checker complains of: the first line that speaks of an error, or else the last
line that is not blank. -/
def CheckAnswer.complaint? : CheckAnswer → Option String
  | .silent => none
  | .left code text =>
    if code = 0 then none
    else
      let said := (Text.lines text).filter fun l => Text.stripped l ≠ ""
      match said.find? fun l => holds "Error".toList l.toList with
      | some l => some l
      | none => some (said.getLast?.getD "node --check failed")

/-- Whether a snippet's program has to be checked. -/
def needsCheck (source : String) (o : TrackingOptions) : Bool := instrument source o ≠ plain source o

/-- The program that runs in place of a snippet, given the answer of the checker. -/
def prepare (check : CheckAnswer) (source : String) (o : TrackingOptions) : String :=
  if needsCheck source o && check.complaint?.isSome then plain source o else instrument source o

end SnippetProfiler.Braced
