import SnippetProfiler.Feed.Store
import SnippetProfiler.Service.Workshop

/-!
# The service

The service runs requests and keeps a feed for each.  A run tells its feed of its stages and
its events.  A watcher waits for the result of the run, and ends the feed with it.

`execute`, `move?` and `watch?` are the steps of the service.  They may come in any order;
`settle` takes them in the order in which all runs go on first and the watchers follow.
-/

namespace SnippetProfiler

/-- Who waits for the result of a run, to end the feed with it. -/
structure Watcher where
  run : Nat
  feed : Nat
  done : Bool := false
  deriving Repr

/-- The service, in surroundings of the type `σ`. -/
structure Service (σ : Type) where
  workshop : Workshop σ
  feeds : FeedStore
  watchers : List Watcher := []

namespace Service

variable {σ : Type}

/-! ### News of runs -/

/-- What a feed is told when a run has gone on. -/
def news (old new : Run) : List Message :=
  ((new.told.drop old.told.length).map fun s => .progress s.word s.status)
    ++ ((new.relay.sunk.drop old.relay.sunk.length).map .update)

/-- Tells the feed of a run what is new. -/
def tell (runs : List Run) (runs' : List Run) (feeds : FeedStore) (w : Watcher) : FeedStore :=
  match runs[w.run]?, runs'[w.run]? with
  | some old, some new => feeds.change w.feed fun f => (news old new).foldl Feed.push f
  | _, _ => feeds

/-- The service with a workshop that has come from its own by steps of runs. -/
def adopt (s : Service σ) (workshop : Workshop σ) : Service σ :=
  { s with
    workshop
    feeds := s.watchers.foldl
      (tell s.workshop.orchestrator.runs workshop.orchestrator.runs) s.feeds }

/-! ### Steps -/

/-- Starts a run with a feed and a watcher.  A request that is refused gets no feed; a service
that is shut down leaves the feed of the request behind. -/
def execute (s : Service σ) (request : RunRequest) : Service σ × Except StartError Nat :=
  let orchestrator := s.workshop.orchestrator
  match orchestrator.registry.resolve request.language with
  | .error e => (s, .error (.refused e))
  | .ok _ =>
    if orchestrator.registry.isRunning request.id then
      (s, .error (.refused (.duplicateExecution request.id)))
    else
      let (feeds, feed) := s.feeds.create request.id
      match orchestrator.execute request with
      | .error (.refused e) => ({ s with feeds := feeds.discard request.id }, .error (.refused e))
      | .error .shutDown => ({ s with feeds }, .error .shutDown)
      | .ok (orchestrator, run) =>
        ({ s with
            workshop := { s.workshop with orchestrator }
            feeds
            watchers := s.watchers ++ [{ run, feed }] }, .ok run)

/-- The service after a step of a run, if the step is possible. -/
def move? (isOpen : String → Bool) (s : Service σ) (m : Orchestrator.Move) : Option (Service σ) :=
  (s.workshop.orchestrator.move? isOpen m).map fun orchestrator =>
    s.adopt { s.workshop with orchestrator }

/-- Ends a feed with the result of a run. -/
def conclude (f : Feed) : Except Problem RunReport → Feed
  | .ok report => (f.complete report).1
  | .error .cancelled => f.error "Execution cancelled"
  | .error problem => f.error ("Internal error: " ++ problem.message)

/-- A step of a watcher, once the run has ended. -/
def watch? (s : Service σ) (number : Nat) : Option (Service σ) :=
  match s.watchers[number]? with
  | none => none
  | some w =>
    if w.done then none
    else
      (s.workshop.orchestrator.result? w.run).map fun r =>
        { s with
          feeds := s.feeds.change w.feed (conclude · r)
          watchers := s.watchers.set number { w with done := true } }

/-! ### Schedules -/

/-- Lets every watcher act whose run has ended. -/
def watchAll (s : Service σ) : Service σ :=
  (List.range s.watchers.length).foldl (fun s number => (s.watch? number).getD s) s

/-- Lets a run begin to perform. -/
def begin (env : Environment σ) (s : Service σ) (run : Nat) : Service σ :=
  s.adopt (s.workshop.begin env run)

/-- Lets everything go on that can. -/
def settle (env : Environment σ) (s : Service σ) : Service σ :=
  (s.adopt (s.workshop.settle env)).watchAll

/-- Does something that takes runs to their ends. -/
def during {α : Type} (s : Service σ) (work : Workshop σ → Workshop σ × α) : Service σ × α :=
  let (workshop, a) := work s.workshop
  ((s.adopt workshop).watchAll, a)

/-- All messages of a feed, as a follower gets them. -/
def followed (env : Environment σ) (s : Service σ) (feed : Nat) : Service σ × List Message :=
  let s := { s with feeds := s.feeds.change feed Feed.follow }
  let s := if s.feeds.isFinished feed then s else s.settle env
  let s := { s with feeds := s.feeds.change feed Feed.settle }
  match s.feeds.feeds[feed]? with
  | some f => (s, ((f.followers.getLast?).map Follower.yielded).getD [])
  | none => (s, [])

end Service

end SnippetProfiler
