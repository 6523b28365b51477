import Mathlib.Logic.Relation
import SnippetProfiler.Orchestration.Run

/-!
# Steps of runs

While the handler of a run performs, the handler, the pump, and the consumer of the stream take
steps.  A schedule is any order of steps; the one in which a run settles is such an order.

A step brings a run closer to its end, so that no schedule goes on forever.  When a run has a
result, no step changes it.
-/

namespace SnippetProfiler

open Relation (ReflTransGen)

/-- The event that an act emits. -/
def Act.event? : Act → Option (TraceEvent Float)
  | .emit e => some e
  | .rest | .await _ => none

/-- The events that acts emit. -/
def emitted (acts : List Act) : List (TraceEvent Float) := acts.filterMap Act.event?

variable {ε : Type}

/-- The event that the pump delivers. -/
def Pump.hand : Pump ε → List ε
  | .delivering e => [e]
  | .waiting | .stopped => []

namespace Relay

theorem put?_eq_some {r q : Relay ε} {item : Option ε} (h : r.put? item = some q) :
  q = { r with channel := r.channel ++ [item] }
  := by
  rw [put?] at h
  split at h
  · cases h
  · cases h
    rfl

/-- An empty channel is not full. -/
theorem isFull_of_isEmpty {r : Relay ε} (h : r.channel = []) :
  r.isFull = false
  := by
  rw [isFull, h]
  cases hc : r.capacity with
  | zero => rfl
  | succ n => simp

end Relay

namespace Run

/-! ### Steps -/

/-- A step of a run: of its handler, whichever gates are open, of the pump, or of the consumer. -/
inductive Step (s t : Run) : Prop where
  | handler (isOpen : String → Bool) (h : s.handlerStep? isOpen = some t)
  | pump (h : s.pumpStep? = some t)
  | consumer (item : Option (TraceEvent Float)) (h : s.consume? = some (item, t))

variable {s t : Run}

/-- What a step of the handler can be: it emits an event, does something else, ends the channel,
or ends the run with a problem; or the run ends after the pump has stopped. -/
theorem handlerStep?_cases {isOpen : String → Bool} (h : s.handlerStep? isOpen = some t) :
  (∃ e acts ending, s.phase = .performing ⟨.emit e :: acts, ending⟩ ∧
    t = { s with
      relay := { s.relay with channel := s.relay.channel ++ [some e] }
      phase := .performing ⟨acts, ending⟩ }) ∨
  (∃ act acts ending, act.event? = none ∧ s.phase = .performing ⟨act :: acts, ending⟩ ∧
    t = { s with phase := .performing ⟨acts, ending⟩ }) ∨
  (∃ outcome, s.phase = .performing ⟨[], .ok outcome⟩ ∧
    t = { s with
      relay := { s.relay with channel := s.relay.channel ++ [none] }
      phase := .draining outcome }) ∨
  (∃ problem, s.phase = .performing ⟨[], .error problem⟩ ∧ t = s.finish (.error problem)) ∨
  (∃ outcome, s.phase = .draining outcome ∧ s.relay.pump = .stopped ∧
    t = s.finish (s.report outcome))
  := by
  rw [handlerStep?] at h
  split at h
  · rename_i e acts ending hp
    obtain ⟨relay, hput, rfl⟩ := Option.map_eq_some_iff.mp h
    cases Relay.put?_eq_some hput
    exact .inl ⟨e, acts, ending, hp, rfl⟩
  · rename_i acts ending hp
    cases h
    exact .inr (.inl ⟨.rest, acts, ending, rfl, hp, rfl⟩)
  · rename_i gate acts ending hp
    split at h
    · cases h
      exact .inr (.inl ⟨.await gate, acts, ending, rfl, hp, rfl⟩)
    · cases h
  · rename_i outcome hp
    obtain ⟨relay, hput, rfl⟩ := Option.map_eq_some_iff.mp h
    cases Relay.put?_eq_some hput
    exact .inr (.inr (.inl ⟨outcome, hp, rfl⟩))
  · rename_i problem hp
    cases h
    exact .inr (.inr (.inr (.inl ⟨problem, hp, rfl⟩)))
  · rename_i outcome hp
    split at h
    · rename_i hpump
      cases h
      exact .inr (.inr (.inr (.inr ⟨outcome, hp, hpump, rfl⟩)))
    · cases h
  · cases h

/-- What a step of the pump can be: it takes an event or the end mark, or delivers an event.  It
takes none when the run has ended. -/
theorem pumpStep?_cases (h : s.pumpStep? = some t) :
  s.hasEnded = false ∧ (
  (∃ e rest, s.relay.pump = .waiting ∧ s.relay.channel = some e :: rest ∧
    t = { s with relay := { s.relay with
      channel := rest, pump := .delivering e, trace := s.relay.trace ++ [e] } }) ∨
  (∃ rest, s.relay.pump = .waiting ∧ s.relay.channel = none :: rest ∧
    t = { s with relay := { s.relay with channel := rest, pump := .stopped } }) ∨
  (∃ e, s.relay.pump = .delivering e ∧
    t = { s with relay := s.relay.deliver s.caller.sink e }))
  := by
  have hrunning : s.hasEnded = false ∧
      (s.relay.pumpStep? s.caller.sink).map (fun relay => { s with relay }) = some t := by
    rw [pumpStep?] at h
    split at h
    · rename_i hp
      constructor
      · rw [hasEnded, result?, hp]
        rfl
      · apply h
    · rename_i hp
      constructor
      · rw [hasEnded, result?, hp]
        rfl
      · apply h
    · cases h
  use hrunning.1
  obtain ⟨relay, hrelay, rfl⟩ := Option.map_eq_some_iff.mp hrunning.2
  rw [Relay.pumpStep?] at hrelay
  split at hrelay
  · rename_i hpump
    rw [Relay.take?] at hrelay
    split at hrelay
    · cases hrelay
    · rename_i e rest hchannel
      cases hrelay
      exact .inl ⟨e, rest, hpump, hchannel, rfl⟩
    · rename_i rest hchannel
      cases hrelay
      exact .inr (.inl ⟨rest, hpump, hchannel, rfl⟩)
  · rename_i e hpump
    cases hrelay
    exact .inr (.inr ⟨e, hpump, rfl⟩)
  · cases hrelay

/-- The consumer takes the next item of the stream. -/
theorem consume?_eq_some {item : Option (TraceEvent Float)} (h : s.consume? = some (item, t)) :
  s.relay.stream[s.relay.consumed]? = some item ∧
    t = { s with relay := { s.relay with consumed := s.relay.consumed + 1 } }
  := by
  obtain ⟨⟨_, relay⟩, hconsume, heq⟩ := Option.map_eq_some_iff.mp h
  obtain ⟨_, hitem, hrelay⟩ := Option.map_eq_some_iff.mp hconsume
  cases hrelay
  cases heq
  exact ⟨hitem, rfl⟩

/-! ### Schedules end -/

/-- No less than the steps that are ahead of a run. -/
def ahead (r : Run) : Nat :=
  let acts := match r.phase with
    | .performing p => 4 * p.acts.length + 6
    | .draining _ => 2
    | _ => 0
  acts + 3 * r.relay.channel.length + 2 * r.relay.pump.hand.length +
    (r.relay.stream.length - r.relay.consumed)

/-- A step brings a run closer to its end. -/
theorem Step.ahead_lt (h : Step s t) :
  t.ahead < s.ahead
  := by
  cases h with
  | handler isOpen h =>
      obtain ⟨e, acts, ending, hp, rfl⟩ | ⟨act, acts, ending, _, hp, rfl⟩ |
        ⟨outcome, hp, rfl⟩ | ⟨problem, hp, rfl⟩ | ⟨outcome, hp, hpump, rfl⟩ := handlerStep?_cases h
      · simp only [ahead, hp, List.length_append, List.length_cons, List.length_nil]
        omega
      · simp only [ahead, hp, List.length_cons]
        omega
      · simp only [ahead, hp, List.length_append, List.length_cons, List.length_nil]
        omega
      · simp only [ahead, hp, finish, Relay.endStream, List.length_append, List.length_cons,
          List.length_nil]
        omega
      · simp only [ahead, hp, finish, Relay.endStream, List.length_append, List.length_cons,
          List.length_nil]
        omega
  | pump h =>
      obtain ⟨_, ⟨e, rest, hpump, hchannel, rfl⟩ | ⟨rest, hpump, hchannel, rfl⟩ |
        ⟨e, hpump, rfl⟩⟩ := pumpStep?_cases h
      · simp only [ahead, hpump, hchannel, Pump.hand, List.length_cons, List.length_nil]
        omega
      · simp only [ahead, hpump, hchannel, Pump.hand, List.length_cons, List.length_nil]
        omega
      · cases hsink : s.caller.sink with
        | none =>
            simp only [ahead, hpump, Relay.deliver, Pump.hand, List.length_append,
              List.length_cons, List.length_nil]
            omega
        | some accepts =>
            simp only [ahead, hpump, Relay.deliver, Pump.hand, List.length_append,
              List.length_cons, List.length_nil]
            omega
  | consumer item h =>
      obtain ⟨hitem, rfl⟩ := consume?_eq_some h
      have hlt := (List.getElem?_eq_some_iff.mp hitem).1
      simp only [ahead]
      omega

/-- No schedule goes on forever. -/
theorem wellFounded_step : WellFounded fun t s : Run => Step s t
  := by
  apply Subrelation.wf Step.ahead_lt
  apply (measure ahead).wf

/-! ### Results are kept -/

/-- A step keeps the result. -/
theorem Step.result?_eq (h : Step s t) {result : Except Problem RunReport}
    (hresult : s.result? = some result) :
  t.result? = some result
  := by
  cases h with
  | handler isOpen h =>
      rw [result?] at hresult
      obtain ⟨e, acts, ending, hp, rfl⟩ | ⟨act, acts, ending, _, hp, rfl⟩ |
        ⟨outcome, hp, rfl⟩ | ⟨problem, hp, rfl⟩ | ⟨outcome, hp, _, rfl⟩ := handlerStep?_cases h
      all_goals
        rw [hp] at hresult
        cases hresult
  | pump h =>
      have hrunning := (pumpStep?_cases h).1
      rw [hasEnded, hresult] at hrunning
      cases hrunning
  | consumer item h =>
      obtain ⟨_, rfl⟩ := consume?_eq_some h
      apply hresult

/-- A schedule keeps the result. -/
theorem result?_schedule (h : ReflTransGen Step s t) {result : Except Problem RunReport}
    (hresult : s.result? = some result) :
  t.result? = some result
  := by
  induction h with
  | refl => apply hresult
  | tail _ hstep ih => apply hstep.result?_eq ih

/-! ### The usual schedule -/

theorem handlerTurn_schedule (isOpen : String → Bool) (n : Nat) (s : Run) :
  ReflTransGen Step s (handlerTurn isOpen n s)
  := by
  induction n generalizing s with
  | zero => apply ReflTransGen.refl
  | succ n ih =>
      rw [handlerTurn]
      split
      · apply ReflTransGen.refl
      · rename_i next hnext
        have hstep : Step s next := .handler isOpen hnext
        split
        · apply ReflTransGen.single hstep
        · apply ReflTransGen.head hstep
          apply ih

theorem pumpTurn_schedule (n : Nat) (s : Run) :
  ReflTransGen Step s (pumpTurn n s)
  := by
  induction n generalizing s with
  | zero => apply ReflTransGen.refl
  | succ n ih =>
      rw [pumpTurn]
      split
      · apply ReflTransGen.refl
      · rename_i next hnext
        apply ReflTransGen.head (.pump hnext)
        apply ih

theorem turns_schedule (isOpen : String → Bool) (steps n : Nat) (s : Run) :
  ReflTransGen Step s (turns isOpen steps n s)
  := by
  induction n generalizing s with
  | zero => apply ReflTransGen.refl
  | succ n ih =>
      have hturn : ReflTransGen Step s (pumpTurn steps (handlerTurn isOpen steps s)) := by
        apply (handlerTurn_schedule isOpen steps s).trans
        apply pumpTurn_schedule
      rw [turns]
      split
      · apply hturn
      · apply hturn.trans
        apply ih

/-- A run that settles follows a schedule. -/
theorem settle_schedule (isOpen : String → Bool) (s : Run) :
  ReflTransGen Step s (s.settle isOpen)
  := by
  apply turns_schedule

end Run

end SnippetProfiler
