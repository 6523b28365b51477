/-!
# Relays

The events of a run go from its handler to its caller over a channel of bounded size.  A pump
takes them out of the channel one by one: it adds each to the trace, gives it to a sink, and
puts it on the stream of the run.  A sink that fails does not stop the pump.  The handler
closes the channel with an end mark, after which the pump stops; the stream has an end mark of
its own.

Every operation is one step of the handler, of the pump, or of the consumer of the stream; it
has no result when that actor has to wait.
-/

namespace SnippetProfiler

/-- What the pump is doing: waiting for an event, delivering one, or nothing any more. -/
inductive Pump (ε : Type) where
  | waiting
  | delivering (event : ε)
  | stopped
  deriving DecidableEq, Repr

/-- A sink of events: whether its call of some number, with an event, succeeds. -/
abbrev Sink (ε : Type) := Nat → ε → Bool

/-- A relay of events.  In the channel and on the stream `none` is the end mark.  A capacity of
zero is no bound. -/
structure Relay (ε : Type) where
  capacity : Nat
  channel : List (Option ε) := []
  pump : Pump ε := .waiting
  trace : List ε := []
  /-- The events that the sink was called with. -/
  sunk : List ε := []
  /-- Those of them on which the sink failed. -/
  unsunk : List ε := []
  stream : List (Option ε) := []
  /-- How many items of the stream the consumer has taken. -/
  consumed : Nat := 0
  deriving Repr

namespace Relay

variable {ε : Type}

/-- Whether the channel is full. -/
def isFull (r : Relay ε) : Bool := r.capacity != 0 && r.capacity ≤ r.channel.length

/-- The handler puts an item into the channel. -/
def put? (r : Relay ε) (item : Option ε) : Option (Relay ε) :=
  if r.isFull then none else some { r with channel := r.channel ++ [item] }

/-- The pump takes an item out of the channel. -/
def take? (r : Relay ε) : Option (Relay ε) :=
  match r.channel with
  | [] => none
  | some e :: rest =>
    some { r with channel := rest, pump := .delivering e, trace := r.trace ++ [e] }
  | none :: rest => some { r with channel := rest, pump := .stopped }

/-- The pump gives an event to the sink, if there is one, and puts it on the stream. -/
def deliver (sink : Option (Sink ε)) (r : Relay ε) (e : ε) : Relay ε :=
  match sink with
  | none => { r with pump := .waiting, stream := r.stream ++ [some e] }
  | some accepts =>
    { r with
      pump := .waiting
      sunk := r.sunk ++ [e]
      unsunk := if accepts (r.sunk.length + 1) e then r.unsunk else r.unsunk ++ [e]
      stream := r.stream ++ [some e] }

/-- A step of the pump. -/
def pumpStep? (sink : Option (Sink ε)) (r : Relay ε) : Option (Relay ε) :=
  match r.pump with
  | .waiting => r.take?
  | .delivering e => some (r.deliver sink e)
  | .stopped => none

/-- The stream ends. -/
def endStream (r : Relay ε) : Relay ε := { r with stream := r.stream ++ [none] }

/-- A step of the consumer. -/
def consume? (r : Relay ε) : Option (Option ε × Relay ε) :=
  r.stream[r.consumed]?.map fun item => (item, { r with consumed := r.consumed + 1 })

/-- The events on the stream. -/
def published (r : Relay ε) : List ε := r.stream.filterMap id

/-- As many steps of the pump as there are, at most `n`. -/
def drain (sink : Option (Sink ε)) : (n : Nat) → Relay ε → Relay ε
  | 0, r => r
  | n + 1, r =>
    match r.pumpStep? sink with
    | some r => drain sink n r
    | none => r

end Relay

end SnippetProfiler
