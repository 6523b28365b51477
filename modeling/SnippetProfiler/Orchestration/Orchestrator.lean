import SnippetProfiler.Orchestration.Registry
import SnippetProfiler.Orchestration.Run

/-!
# The orchestrator

The orchestrator starts runs and lets them take steps.  A run has claimed its id before it
starts, and the step in which it ends releases the id, so that the id is free when the result
is there.  Runs are known by their numbers.
-/

namespace SnippetProfiler

/-- The orchestrator: the registry, in which the task of an id is the number of its run, the
capacity of the channels, and the runs that were started. -/
structure Orchestrator where
  registry : Registry Handler Nat
  capacity : Nat := 1024
  runs : List Run := []

/-- The capacity of channels that is asked for; zero stands for that of the settings, and a
negative one is no bound. -/
def Orchestrator.capacityOf (settings : Settings) (size : Option Int) : Nat :=
  match size with
  | some n => if n = 0 then settings.channelSize.toNat else n.toNat
  | none => settings.channelSize.toNat

namespace Orchestrator

/-- Starts a run for a caller, and gives its number. -/
def execute (o : Orchestrator) (request : RunRequest) (caller : Caller := {}) :
    Except StartError (Orchestrator × Nat) :=
  match o.registry.resolve request.language with
  | .error e => .error (.refused e)
  | .ok handler =>
    match o.registry.claim request.id with
    | .error e => .error e
    | .ok registry =>
      let number := o.runs.length
      let run : Run := { request, handler, caller, relay := { capacity := o.capacity } }
      .ok ({ o with registry := registry.attach request.id number, runs := o.runs ++ [run] }, number)

/-- Puts a run in the place of one that it has come from.  If it has ended just now, its id is
released. -/
def replace (o : Orchestrator) (number : Nat) (new : Run) : Orchestrator :=
  match o.runs[number]? with
  | none => o
  | some old =>
    { o with
      runs := o.runs.set number new
      registry :=
        if new.hasEnded && !old.hasEnded then o.registry.release old.request.id else o.registry }

/-- What can happen next. -/
inductive Move where
  | start (number : Nat)
  | perform (number : Nat) (performance : Performance)
  | handler (number : Nat)
  | pump (number : Nat)
  | consume (number : Nat)
  | cancel (number : Nat)

/-- The orchestrator after a move, if the move is possible. -/
def move? (isOpen : String → Bool) (o : Orchestrator) : Move → Option Orchestrator
  | .start number => o.runs[number]?.map fun r => o.replace number r.start
  | .perform number p => o.runs[number]?.map fun r => o.replace number (r.perform p)
  | .handler number => (o.runs[number]?.bind (·.handlerStep? isOpen)).map (o.replace number)
  | .pump number => (o.runs[number]?.bind Run.pumpStep?).map (o.replace number)
  | .consume number => (o.runs[number]?.bind Run.consume?).map fun (_, r) => o.replace number r
  | .cancel number => (o.runs[number]?.bind Run.cancel?).map (o.replace number)

/-- Changes a run. -/
def change (o : Orchestrator) (number : Nat) (f : Run → Run) : Orchestrator :=
  match o.runs[number]? with
  | some r => o.replace number (f r)
  | none => o

/-- Lets every run go on until it waits at a gate or has ended. -/
def settle (isOpen : String → Bool) (o : Orchestrator) : Orchestrator :=
  (List.range o.runs.length).foldl (fun o number => o.change number (Run.settle isOpen)) o

/-- The result of a run that has ended. -/
def result? (o : Orchestrator) (number : Nat) : Option (Except Problem RunReport) :=
  o.runs[number]?.bind Run.result?

end Orchestrator

end SnippetProfiler
