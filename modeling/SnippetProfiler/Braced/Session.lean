import SnippetProfiler.Braced.Action
import SnippetProfiler.Braced.Collector
import SnippetProfiler.Probe.Scripted

/-!
# Sessions of JavaScript snippets

A session is what a snippet does with the hooks.  When the snippet starts a new collector, the
old one is forgotten: all hooks use the new one, also for calls that were entered before.

A call that waits runs its actions at once and gives a promise.  It goes on when it is resumed,
but not before the step is over in which that happens: `settle` then lets it end.
-/

namespace SnippetProfiler.Braced

open Probe (Note Scripted scripted)

/-- A call that waits, with how it ends. -/
structure Waiting where
  id : String
  entry : Option (Entry Float)
  arguments : List Value
  ending : Except Stop Value

/-- A promise. -/
inductive Promise where
  | pending
  | resolved (v : Value)
  | rejected (s : Stop)

/-- A promise as data: its state and its value. -/
def Promise.parts : Promise → List Json
  | .pending => [.str "pending", .null]
  | .resolved v => [.str "resolved", v.toJson?.getD .null]
  | .rejected s => [.str "rejected", s.toJson]

/-- A session. -/
structure Session where
  instruments : Scripted := {}
  /-- Whether the output refuses notes. -/
  blocked : Bool := false
  /-- The error when it refuses one. -/
  refusal : Thrown := .plain ""
  written : List (Note Float) := []
  collector : Option (Collector Scripted Float) := none
  /-- The codes with which the snippet has ended the program. -/
  exits : List Int := []
  promises : List (String × Promise) := []
  waiting : List Waiting := []
  /-- Calls that have thrown before they could wait. -/
  failed : List Waiting := []
  /-- Calls that were resumed. -/
  resumed : List Waiting := []

namespace Session

/-- Uses the collector.  Without one, a property of nothing is read. -/
def use {α : Type} (s : Session) (property : String)
    (f : Collector Scripted Float → α × Collector Scripted Float) : Session × Except Stop α :=
  match s.collector with
  | none => (s, .error (.thrown (.ofNothing property)))
  | some c =>
    let r := { c.toRecorder with
      surroundings := s.instruments, written := s.written, blocked := s.blocked, refused := false }
    let (a, c) := f (c.withRecorder r)
    ({ s with instruments := c.surroundings, written := c.written, collector := some c },
      if c.refused then .error (.thrown s.refusal) else .ok a)

/-- The result of an action. -/
abbrev Result := Session × Except Stop Reply

/-- A hook that gives nothing. -/
def hook (s : Session) (property : String)
    (f : Collector Scripted Float → Collector Scripted Float) : Result :=
  s.use property fun c => (.nothing, f c)

/-- Does something more, unless an action has stopped. -/
def andThen {α β : Type} (r : Session × Except Stop α) (f : Session → α → Session × Except Stop β) :
    Session × Except Stop β :=
  match r with
  | (s, .ok a) => f s a
  | (s, .error e) => (s, .error e)

/-- Starts a collector. -/
def start (s : Session) (options : TrackingOptions) (lines : List String) (script : String)
    (offset : Int) : Result :=
  let next := (s.collector.map Collector.next).getD 0
  let c := Collector.start scripted options lines script offset next s.instruments
  ({ s with instruments := c.surroundings, collector := some c } : Session).hook "options"
    fun c => c.sample scripted true

/-! ### Calls -/

/-- How a call ends. -/
def ending (c : Call) (stop : Option Stop) : Except Stop Value :=
  match stop, c.throws with
  | some e, _ => .error e
  | none, some t => .error (.thrown t)
  | none, none => .ok c.returns

/-- The beginning of a call: the line of the caller, and the entry. -/
def enter (s : Session) (c : Call) :
    Session × Except Stop (Option (OpenLine Float) × Option (Entry Float)) :=
  s.use "openLine" fun collector =>
    let (outer, collector) := collector.suspendLine
    let (entry, collector) := collector.enter scripted c.name
    ((outer, entry), collector)

/-- The end of a call. -/
def leave (s : Session) (c : Call) (outer : Option (OpenLine Float)) (entry : Option (Entry Float)) :
    Result :=
  s.hook "openLine" fun collector =>
    (collector.resumeLine scripted outer).andThen fun collector =>
      collector.leave scripted entry c.arguments

/-- Sets a promise. -/
def promise (s : Session) (id : String) (p : Promise) : Session :=
  { s with promises :=
      if s.promises.any (·.1 = id) then s.promises.map fun e => if e.1 = id then (id, p) else e
      else s.promises ++ [(id, p)] }

/-- A call that has run its actions waits, unless it has stopped. -/
def await (s : Session) (id : String) (c : Call) (entry : Option (Entry Float))
    (stop : Option Stop) : Session :=
  let s := s.promise id .pending
  let w : Waiting := ⟨id, entry, c.arguments, ending c stop⟩
  let others := s.waiting.filter fun other => other.id ≠ id
  match stop with
  | some _ => { s with waiting := others, failed := s.failed ++ [w] }
  | none => { s with waiting := others ++ [w] }

/-- A call that waits goes on. -/
def resume (s : Session) (id : String) : Session :=
  let (resumed, waiting) := s.waiting.partition fun w => w.id = id
  { s with waiting, resumed := s.resumed ++ resumed }

/-- A call that has waited ends. -/
def conclude (s : Session) (w : Waiting) : Session :=
  match s.hook "stack" fun c => c.leave scripted w.entry w.arguments with
  | (s, .error e) => s.promise w.id (.rejected e)
  | (s, .ok _) =>
    s.promise w.id (match w.ending with
      | .ok v => .resolved v
      | .error e => .rejected e)

/-- All calls that can go on end: first those that have thrown. -/
def settle (s : Session) : Session :=
  (s.failed ++ s.resumed).foldl conclude { s with failed := [], resumed := [] }

/-! ### The end -/

mutual

/-- The text of an exit code. -/
def codeText : Value → String
  | .text t => t
  | .number x => Decimal.scriptLayout.write (if x == 0 then 0 else x)
  | .undefined => "undefined"
  | .null => "null"
  | .bool b => if b then "true" else "false"
  | .array items => ",".intercalate (codeTexts items)
  | v => v.looseText

/-- The texts of the items of a list; what is nothing has an empty one. -/
def codeTexts : List Value → List String
  | [] => []
  | .undefined :: vs | .null :: vs => "" :: codeTexts vs
  | v :: vs => codeText v :: codeTexts vs

end

/-- Why a program fails that ends with a code; it does not with the code zero. -/
def exitCause (code : Value) : Option Thrown :=
  let succeeds := match code with
    | .number x => x == 0
    | _ => false
  if succeeds then none else some (.plain ("Process exited with code " ++ codeText code))

/-- Why a program fails because of what is thrown, which can be nothing. -/
def failCause (thrown : Option Thrown) : Thrown := thrown.getD (.plain "undefined thrown")

/-- The program ends with a code. -/
def atExit (s : Session) (code : Value) : Result :=
  if s.collector.isSome then s.hook "finished" fun c => c.finish scripted (exitCause code)
  else (s, .ok .nothing)

/-- Ends the program because of what is thrown. -/
def fail (s : Session) (thrown : Option Thrown) : Result :=
  andThen (s.hook "finished" fun c => c.finish scripted (some (failCause thrown))) fun s _ =>
    andThen (({ s with exits := s.exits ++ [1] } : Session).atExit (.number 1)) fun s _ =>
      (s, .error .exited)

/-! ### Actions -/

mutual

/-- What an action does and gives. -/
def act (s : Session) : Action → Result
  | .start options lines script offset => s.start options lines script offset
  | .tick amount => ({ s with instruments := s.instruments.tick amount }, .ok .nothing)
  | .beginLine line => s.hook "options" fun c => c.beginLine scripted line
  | .assign entries => s.hook "options" fun c => c.assign scripted entries
  | .trace value => (s, .ok (.kind value.kind))
  | .generate => (s, .ok .untouched)
  | .call c body =>
    match s.enter c with
    | (s, .error e) => (s, .error e)
    | (s, .ok (outer, entry)) =>
      let (s, stop) := s.actAll body
      andThen (s.leave c outer entry) fun s _ => (s, (ending c stop).map fun _ => .returned c)
  | .spawn id c body =>
    match s.enter c with
    | (s, .error e) => (s, .error e)
    | (s, .ok (outer, entry)) =>
      let (s, stop) := s.actAll body
      andThen (s.hook "openLine" fun collector => collector.resumeLine scripted outer) fun s _ =>
        (s.await id c entry stop, .ok .nothing)
  | .resume id => (s.resume id, .ok .nothing)
  | .finish thrown => s.hook "finished" fun c => c.finish scripted thrown
  | .fail thrown => s.fail thrown
  | .uncaught thrown => if s.collector.isSome then s.fail thrown else (s, .ok .nothing)
  | .exit code => s.atExit code

/-- Actions one after the other, up to the first that stops. -/
def actAll (s : Session) : List Action → Session × Option Stop
  | [] => (s, none)
  | a :: as =>
    match s.act a with
    | (s, .error stop) => (s, some stop)
    | (s, .ok _) => s.actAll as

end

/-- A step: an action, and what can happen after it. -/
def step (s : Session) (a : Action) : Result :=
  let (s, reply) := s.act a
  (s.settle, reply)

end Session

end SnippetProfiler.Braced
