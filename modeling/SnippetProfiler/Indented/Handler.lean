import SnippetProfiler.Indented.Growth
import SnippetProfiler.Indented.Program
import SnippetProfiler.Orchestration.Handler
import SnippetProfiler.Sandbox.Basic

/-!
# The handler of Python snippets

A snippet is instrumented statement by statement, and runs in a sandbox with a limit on its
memory.
-/

namespace SnippetProfiler.Indented

/-- The language. -/
def language : LanguageInfo := ⟨"python", "Python", "3.11"⟩

/-- The handler of snippets that may take `timeout` seconds. -/
def handler (timeout : Float) : SnippetProfiler.Handler where
  language
  timeout
  instrument source options := (prepare source options).mapError fun e => .tooDeep e.message
  hint source := (growthHint source).mapError NestingError.message

/-- The files and the command of an instrumented snippet: output is not buffered, and modules
of the user are not found. -/
def program (executable : String) : Sandbox.Program where
  hooks := hookModule ++ ".py"
  script := "snippet.py"
  arguments path := [executable, "-u", "-s", path]

/-- The limits of a snippet. -/
def limits (settings : Settings) (memory : Option Int) (timeout : Float) : Sandbox.Limits :=
  .ofSettings settings timeout (some (memory.getD settings.memoryLimit)) none none

end SnippetProfiler.Indented
