/-!
# The life of a sandbox

A sandbox is created, gets an instrumented program, runs it, and ends.  `State.allows` says
which state may follow which.  A state in which the sandbox has ended is final: it takes no
other state any more, and a request for one is ignored.
-/

namespace SnippetProfiler.Sandbox

/-- The states of a sandbox. -/
inductive State where
  | created
  | instrumented
  | running
  | completed
  | failed
  | timedOut
  deriving DecidableEq, Repr

namespace State

/-- The word for a state. -/
def word : State → String
  | created => "created"
  | instrumented => "instrumented"
  | running => "running"
  | completed => "completed"
  | failed => "failed"
  | timedOut => "timed_out"

/-- All states. -/
def all : List State := [created, instrumented, running, completed, failed, timedOut]

/-- The state with a word. -/
def ofWord? (word : String) : Option State := all.find? (·.word = word)

/-- Whether a state is final. -/
def isFinal : State → Bool
  | completed | failed | timedOut => true
  | _ => false

/-- Whether the second state may follow the first. -/
def allows : State → State → Bool
  | created, new => new = instrumented || new = failed
  | instrumented, new => new = running || new = failed
  | running, new => new.isFinal
  | _, _ => false

end State

/-- A state that may not follow another. -/
structure IllegalMove where
  old : State
  new : State
  deriving DecidableEq, Repr

/-- The wording of an error. -/
def IllegalMove.message (e : IllegalMove) : String :=
  "Illegal sandbox transition " ++ e.old.word ++ " -> " ++ e.new.word

/-- The state after a request for `new`, and whether the request was heeded. -/
def State.move (old new : State) : Except IllegalMove (State × Bool) :=
  if old.isFinal then .ok (old, false)
  else if old.allows new then .ok (new, true)
  else .error ⟨old, new⟩

end SnippetProfiler.Sandbox
