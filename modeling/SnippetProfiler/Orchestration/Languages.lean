import SnippetProfiler.Braced.Handler
import SnippetProfiler.Indented.Handler
import SnippetProfiler.Orchestration.Registry

/-!
# The languages of the profiler

The registry in which the profiler starts: it knows Python and JavaScript.
-/

namespace SnippetProfiler

/-- A timeout that is given, if it is neither missing nor zero, or else that of the settings. -/
def timeoutOr (default : Float) : Option Float → Float
  | some t => if t == 0 then default else t
  | none => default

/-- The registry with the languages of the profiler, given the answer of the checker. -/
def defaultRegistry (settings : Settings) (check : Braced.CheckAnswer) : Registry Handler Nat where
  handlers :=
    [(Indented.language.id, Indented.handler settings.pythonTimeout),
     (Braced.language.id, Braced.handler check settings.javascriptTimeout)]

end SnippetProfiler
