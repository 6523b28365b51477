import SnippetProfiler.Run.Outcome

/-!
# Feeds

A feed keeps every message of one run, so that whoever follows it late still gets all of them
from the first one on: the progress of the stages of the run, the events of its trace, and at
last either the outcome with the metrics or an error.  A feed takes messages until it is finished.

A follower reads the messages one by one.  Before it looks for messages it clears the flag
which says that something has changed, and when there are none left it waits until the flag is
set.  All followers of a feed share the flag; when it comes to be set, all that wait wake.
-/

namespace SnippetProfiler

/-! ### What a feed tells -/

/-- A message of a feed. -/
inductive Message where
  | progress (stage status : String)
  | update (event : TraceEvent Float)
  | complete (outcome : Outcome) (metrics : ExecutionMetrics Float)
  | error (text : String) (outcome : Option Outcome := none)
  deriving Repr

namespace Message

/-- Whether a message is one that ends a feed. -/
def isFinal : Message → Bool
  | complete .. | error .. => true
  | _ => false

/-- A message as data. -/
def toJson : Message → Json
  | progress stage status =>
    .obj [("type", .str "progress"), ("stage", .str stage), ("status", .str status)]
  | update event =>
    .obj [("type", .str "update"), ("event", .str event.kind.word), ("data", event.dataJson)]
  | complete outcome metrics =>
    .obj [("type", .str "complete"), ("result", outcome.toJson), ("metrics", metrics.toJson)]
  | error text outcome =>
    .obj ([("type", .str "error"), ("message", .str text)]
      ++ (outcome.map fun o => ("result", o.toJson)).toList)

end Message

/-! ### Feeds and followers -/

/-- Where a follower stands. -/
inductive FollowerMood where
  /-- It is about to clear the flag. -/
  | ready
  /-- It yields messages. -/
  | reading
  /-- It is suspended until something changes. -/
  | waiting
  /-- It has got the whole feed. -/
  | ended
  deriving DecidableEq, Repr

/-- A follower of a feed, with the messages that it has got. -/
structure Follower where
  yielded : List Message := []
  mood : FollowerMood := .ready
  deriving Repr

/-- A feed. -/
structure Feed where
  id : String
  messages : List Message := []
  report : Option RunReport := none
  finished : Bool := false
  /-- The flag that something has changed. -/
  changed : Bool := false
  followers : List Follower := []
  deriving Repr

/-- A report of a success that has no metrics: there is nothing to tell of it. -/
inductive CompletionError where
  | nothingToTell
  deriving DecidableEq, Repr

/-- The wording of an error. -/
def CompletionError.message : CompletionError → String
  | nothingToTell => "'Success' object has no attribute 'message'"

/-- A follower after the flag was set. -/
def Follower.wake (f : Follower) : Follower :=
  { f with mood := if f.mood = .waiting then .ready else f.mood }

namespace Feed

/-! ### Messages -/

/-- Adds a message and sets the flag; a finished feed takes none.  Followers wake only when the
flag was not set before. -/
def push (f : Feed) (m : Message) : Feed :=
  if f.finished then f
  else
    { f with
      messages := f.messages ++ [m]
      changed := true
      followers := if f.changed then f.followers else f.followers.map Follower.wake }

/-- Tells of a stage. -/
def progress (f : Feed) (stage status : String) : Feed := f.push (.progress stage status)

/-- Tells of an event. -/
def update (f : Feed) (event : TraceEvent Float) : Feed := f.push (.update event)

/-- Adds a last message. -/
def finish (f : Feed) (m : Message) : Feed := { f.push m with finished := true }

/-- Ends a feed with an error. -/
def error (f : Feed) (text : String) : Feed := f.finish (.error text)

/-- The last message for a report. -/
def lastMessage (r : RunReport) : Except CompletionError Message :=
  match r.metrics, r.outcome with
  | some metrics, outcome => .ok (.complete outcome metrics)
  | none, .failure failure => .ok (.error failure.message (some (.failure failure)))
  | none, .success _ => .error .nothingToTell

/-- Ends a feed with a report.  The feed keeps the report in any case. -/
def complete (f : Feed) (r : RunReport) : Feed × Option CompletionError :=
  let f := { f with report := some r }
  match lastMessage r with
  | .ok m => (f.finish m, none)
  | .error e => (f, some e)

/-! ### Followers -/

/-- A new follower. -/
def follow (f : Feed) : Feed := { f with followers := f.followers ++ [{}] }

/-- A step of a follower, with the flag after it.  It has no result when the follower waits or
has ended. -/
def step? (f : Feed) (w : Follower) : Option (Follower × Bool) :=
  match w.mood with
  | .ready => some ({ w with mood := .reading }, false)
  | .reading =>
    match f.messages[w.yielded.length]? with
    | some m => some ({ w with yielded := w.yielded ++ [m] }, f.changed)
    | none =>
      if f.finished then some ({ w with mood := .ended }, f.changed)
      else if f.changed then some ({ w with mood := .ready }, f.changed)
      else some ({ w with mood := .waiting }, f.changed)
  | .waiting | .ended => none

/-- A step of the follower with a number. -/
def followerStep? (f : Feed) (number : Nat) : Option Feed :=
  match f.followers[number]? with
  | none => none
  | some w =>
    (f.step? w).map fun (w, changed) =>
      { f with changed, followers := f.followers.set number w }

/-- As many steps of a follower as there are, at most `n`. -/
def advance (number : Nat) : (n : Nat) → Feed → Feed
  | 0, f => f
  | n + 1, f =>
    match f.followerStep? number with
    | none => f
    | some f => advance number n f

/-- A feed whose followers have gone on until they wait or have ended. -/
def settle (f : Feed) : Feed :=
  (List.range f.followers.length).foldl
    (fun f number => f.advance number (f.messages.length + 6)) f

end Feed

end SnippetProfiler
