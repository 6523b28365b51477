import SnippetProfiler.Text.Quoted
import SnippetProfiler.Text.Utf8
import SnippetProfiler.Trace.Frame

/-!
# Child processes

What a child process does: whether it starts at all, the octets of its standard output and
its standard error, and its exit code.  A child may also go on until its time is over.
-/

namespace SnippetProfiler.Sandbox

/-- Octets. -/
abbrev Octets := List Nat

/-- Why a program does not start. -/
inductive StartError where
  | missing
  | denied
  deriving DecidableEq, Repr

/-- The wording of an error for a program. -/
def StartError.message (program : String) : StartError → String
  | missing => "[Errno 2] No such file or directory: " ++ Text.Quoted.literal program
  | denied => "[Errno 13] Permission denied: " ++ Text.Quoted.literal program

/-- The behaviour of a child process. -/
structure Child where
  refused : Option StartError := none
  output : Octets := []
  errors : Octets := []
  exitCode : Int := 0
  /-- Whether the child is still running when its time is over. -/
  overruns : Bool := false
  deriving Repr

/-- The child that reports at once that it has completed. -/
def Child.completing : Child :=
  { output := Text.Utf8.encode (frameLine .complete (.obj [])) }

/-! ### Lines of output -/

/-- How the lines of a child's output end: the output is over, the next line is too long, or
the time is. -/
inductive OutputEnd where
  | closed
  | tooLong
  | outOfTime
  deriving DecidableEq, Repr

/-- The code of the newline. -/
def newline : Nat := 10

/-- The lines of an output, each with its newline, and how they end.  `line` are the octets of
the current line, the last one first, and `length` is their number.  A line that takes more
than `limit` octets ends the lines, and the time may be over before a last line without
newline. -/
def cutLines (limit : Int) (overruns : Bool) (line : Octets) (length : Nat) :
    Octets → List Octets × OutputEnd
  | [] =>
    if limit < length then ([], .tooLong)
    else if overruns then ([], .outOfTime)
    else (if line.isEmpty then [] else [line.reverse], .closed)
  | b :: bs =>
    if b = newline then
      if limit < length then ([], .tooLong)
      else
        let (lines, ending) := cutLines limit overruns [] 0 bs
        ((b :: line).reverse :: lines, ending)
    else cutLines limit overruns (b :: line) (length + 1) bs

/-- The lines of a child's output. -/
def Child.lines (child : Child) (limit : Int) : List Octets × OutputEnd :=
  cutLines limit child.overruns [] 0 child.output

end SnippetProfiler.Sandbox
