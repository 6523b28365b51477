import SnippetProfiler.Braced.Growth
import SnippetProfiler.Braced.Program
import SnippetProfiler.Json.Reader
import SnippetProfiler.Orchestration.Handler
import SnippetProfiler.Sandbox.Basic
import SnippetProfiler.Text.Digits

/-!
# The handler of JavaScript snippets

A snippet is rewritten token by token, and a rewritten program that does not pass the check
gives way to one without hooks.  When the program fails before it has reported a line, the
line is taken from the place that its standard error names.
-/

namespace SnippetProfiler.Braced

/-- The language. -/
def language : LanguageInfo := ⟨"javascript", "JavaScript", "ES2021"⟩

/-- The handler of snippets that may take `timeout` seconds, given the answer of the
checker. -/
def handler (check : CheckAnswer) (timeout : Float) : Handler where
  language
  timeout
  instrument source options := .ok (prepare check source options)
  hint source := .ok (growthHint source)

/-- The name of the file of a snippet. -/
def scriptName : String := "snippet.js"

/-- The files and the command of an instrumented snippet. -/
def program (executable : String) : Sandbox.Program where
  hooks := "_perfscope_probe.js"
  script := scriptName
  arguments path := [executable, path]

/-- The limits of a snippet.  There is none on its memory, of which the engine reserves far more
than it uses. -/
def limits (settings : Settings) (timeout : Float) : Sandbox.Limits :=
  .ofSettings settings timeout none none none

/-! ### Places -/

/-- The values of the decimal digits at the start of a text. -/
def leadingDigits (s : List Char) : List Nat :=
  (s.takeWhile fun c => (Text.decimalValue? c).isSome).filterMap Text.decimalValue?

/-- The number that digits denote. -/
def numberOf (digits : List Nat) : Nat := digits.foldl (fun n d => 10 * n + d) 0

/-- The digits of the line of the program that a text names first, as in `snippet.js:12`. -/
def namedDigits? : List Char → Option (List Nat)
  | [] => none
  | c :: cs =>
    let place := (scriptName ++ ":").toList
    let digits :=
      if place.isPrefixOf (c :: cs) then leadingDigits ((c :: cs).drop place.length) else []
    if digits.isEmpty then namedDigits? cs else some digits

/-- A failure of a program at a line that is not known, at the line of the snippet that its
stack names.  A line with too many digits cannot be read. -/
def locate (failure : Failure) : Except Json.ReadError Failure :=
  if failure.kind = .runtimeError && failure.line = some unknownLine then
    match namedDigits? (failure.stack.getD "").toList with
    | some digits =>
      if Json.digitLimit < digits.length then .error (.tooManyDigits digits.length)
      else
        let n := numberOf digits
        .ok (if headerLines < n then { failure with line := some (.number (n - headerLines)) }
          else failure)
    | none => .ok failure
  else .ok failure

/-- An outcome with the line of a failure. -/
def locateOutcome : Outcome → Except Json.ReadError Outcome
  | .success s => .ok (.success s)
  | .failure f => (locate f).map .failure

/-- The performance of the handler, whose program ran in a sandbox. -/
def performance (gate : Option String) (run : Sandbox.Run) : Performance :=
  let p := Performance.ofRun gate run
  { p with
    ending := p.ending.bind fun outcome =>
      (locateOutcome outcome).mapError fun e => .handler (e.message []) }

end SnippetProfiler.Braced
