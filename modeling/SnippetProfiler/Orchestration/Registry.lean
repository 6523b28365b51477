import SnippetProfiler.Run.Error

/-!
# The registry of languages and runs

The registry knows the handlers of the languages and the ids of the runs in flight.  An id is
claimed before a run starts and released when it has ended; while it is claimed nobody else
gets it.  Each id in flight may have the task of its run attached.  A registry that is shut
down lets no run start any more.

The order of languages and of ids is that in which they came.
-/

namespace SnippetProfiler

/-- The registry, with handlers of the type `η` and tasks of the type `τ`. -/
structure Registry (η τ : Type) where
  handlers : List (String × η) := []
  inFlight : List (String × Option τ) := []
  closed : Bool := false

/-- A language that has a handler already. -/
structure AlreadyRegistered where
  language : String
  deriving DecidableEq, Repr

/-- The wording of an error. -/
def AlreadyRegistered.message (e : AlreadyRegistered) : String :=
  "A handler for '" ++ e.language ++ "' is already registered"

/-- Why a run does not start. -/
inductive StartError where
  | refused (cause : RunError)
  | shutDown
  deriving Repr

/-- The wording of an error. -/
def StartError.message : StartError → String
  | refused cause => cause.message
  | shutDown => "Execution registry is shut down"

namespace Registry

variable {η τ : Type}

/-! ### Languages -/

/-- The handler of a language. -/
def handler? (r : Registry η τ) (language : String) : Option η :=
  (r.handlers.find? fun entry => entry.1 = language).map Prod.snd

/-- Gives a language a handler. -/
def register (r : Registry η τ) (language : String) (handler : η) :
    Except AlreadyRegistered (Registry η τ) :=
  match r.handler? language with
  | some _ => .error ⟨language⟩
  | none => .ok { r with handlers := r.handlers ++ [(language, handler)] }

/-- The handler of a language, or the error that there is none. -/
def resolve (r : Registry η τ) (language : String) : Except RunError η :=
  match r.handler? language with
  | some handler => .ok handler
  | none => .error (.unsupportedLanguage language)

/-! ### Runs -/

/-- The ids in flight. -/
def ids (r : Registry η τ) : List String := r.inFlight.map Prod.fst

/-- Whether an id is in flight. -/
def isRunning (r : Registry η τ) (id : String) : Bool := r.ids.contains id

/-- Claims an id. -/
def claim (r : Registry η τ) (id : String) : Except StartError (Registry η τ) :=
  if r.closed then .error .shutDown
  else if r.isRunning id then .error (.refused (.duplicateExecution id))
  else .ok { r with inFlight := r.inFlight ++ [(id, none)] }

/-- The entries with the task of an id replaced; an id that is not there comes last. -/
def attachTask (id : String) (task : τ) : List (String × Option τ) → List (String × Option τ)
  | [] => [(id, some task)]
  | entry :: rest =>
    if entry.1 = id then (id, some task) :: rest else entry :: attachTask id task rest

/-- Attaches a task to an id. -/
def attach (r : Registry η τ) (id : String) (task : τ) : Registry η τ :=
  { r with inFlight := attachTask id task r.inFlight }

/-- Releases an id. -/
def release (r : Registry η τ) (id : String) : Registry η τ :=
  { r with inFlight := r.inFlight.filter fun entry => entry.1 ≠ id }

/-- The attached tasks. -/
def tasks (r : Registry η τ) : List τ := r.inFlight.filterMap Prod.snd

/-- A registry that lets no run start. -/
def shutDown (r : Registry η τ) : Registry η τ := { r with closed := true }

end Registry

end SnippetProfiler
