import SnippetProfiler.Proofs.Orchestration.Steps

/-!
# What the caller of a run can rely on

What the pump has taken, what is in the channel, and what is still to come from the handler make
at every moment all events of the handler and an end mark; and what the sink was called with,
and the event that the pump delivers, make what it has taken.  No step changes that, in whatever
order the handler, the pump, and the consumer take their steps.

A run can always go on, unless its handler waits at a gate, until it has ended; and no schedule
goes on forever.  So in the end everything was delivered.
-/

namespace SnippetProfiler

open Relation (ReflTransGen)

variable {ε : Type}

/-- What stands in front of the first end mark among events and an end mark are all events. -/
theorem eq_of_map_some_append_none {xs zs : List ε} {ys : List (Option ε)}
    (h : xs.map some ++ none :: ys = zs.map some ++ [none]) :
  xs = zs ∧ ys = []
  := by
  induction xs generalizing zs with
  | nil =>
      cases zs with
      | nil => simpa using h
      | cons z zs => simp at h
  | cons x xs ih =>
      cases zs with
      | nil => simp at h
      | cons z zs =>
          rw [List.map_cons, List.map_cons, List.cons_append, List.cons_append] at h
          obtain ⟨hhead, htail⟩ := List.cons.inj h
          obtain ⟨rfl, hys⟩ := ih htail
          rw [Option.some.inj hhead]
          exact ⟨rfl, hys⟩

/-- Events at the front of events and an end mark are first events. -/
theorem isPrefix_of_map_some_append {xs zs : List ε} {ys : List (Option ε)}
    (h : xs.map some ++ ys = zs.map some ++ [none]) :
  xs <+: zs
  := by
  induction xs generalizing zs with
  | nil => apply List.nil_prefix
  | cons x xs ih =>
      cases zs with
      | nil => simp at h
      | cons z zs =>
          rw [List.map_cons, List.map_cons, List.cons_append, List.cons_append] at h
          obtain ⟨hhead, htail⟩ := List.cons.inj h
          rw [Option.some.inj hhead, List.prefix_cons_inj]
          apply ih htail

/-- The end mark that has stopped the pump. -/
def Pump.mark : Pump ε → List (Option ε)
  | .stopped => [none]
  | .waiting | .delivering _ => []

namespace Relay

/-- What the pump has taken out of the channel. -/
def taken (r : Relay ε) : List (Option ε) := r.trace.map some ++ r.pump.mark

/-- The events on which a sink fails, when it is called with events. -/
def failures (accepts : Sink ε) (events : List ε) : List ε :=
  ((events.zipIdx 1).filter fun (e, number) => !accepts number e).map Prod.fst

theorem failures_concat (accepts : Sink ε) (events : List ε) (e : ε) :
  failures accepts (events ++ [e]) =
    if accepts (events.length + 1) e then failures accepts events
    else failures accepts events ++ [e]
  := by
  have hlast : failures accepts (events ++ [e]) = failures accepts events ++
      (([(e, 1 + events.length)].filter fun (e, number) => !accepts number e).map Prod.fst) := by
    rw [failures, List.zipIdx_append, List.filter_append, List.map_append]
    rfl
  rw [hlast, Nat.add_comm]
  cases haccepts : accepts (events.length + 1) e with
  | false => simp [haccepts]
  | true => simp [haccepts]

end Relay

namespace Run

variable {r s t : Run}

/-! ### Nothing is lost -/

/-- What is to come from the handler. -/
def coming : Phase → List (Option (TraceEvent Float))
  | .performing p => (emitted p.acts).map some ++ [none]
  | .claimed | .ready _ | .draining _ | .ended _ => []

/-- The end mark of the stream. -/
def closing : Phase → List (Option (TraceEvent Float))
  | .ended _ => [none]
  | .claimed | .ready _ | .performing _ | .draining _ => []

theorem closing_eq_nil (h : s.hasEnded = false) :
  closing s.phase = []
  := by
  cases hp : s.phase with
  | ended result =>
      rw [hasEnded, result?, hp] at h
      cases h
  | claimed => rfl
  | ready program => rfl
  | performing p => rfl
  | draining o => rfl

/-- Whether a run is about to end with the report of an outcome, or has ended so. -/
def IsBound (outcome : Outcome) (r : Run) : Prop :=
  match r.phase with
  | .claimed | .ready _ => False
  | .performing p => p.ending = .ok outcome
  | .draining o => o = outcome
  | .ended result => result = r.report outcome ∧ r.relay.pump = .stopped

/-- A run that has come from one that was ready, and whose handler emits events and ends with an
outcome. -/
structure IsLossless (r : Run) (accepts : Sink (TraceEvent Float))
    (events : List (TraceEvent Float)) (outcome : Outcome) (s : Run) : Prop where
  request : s.request = r.request
  handler : s.handler = r.handler
  sink : s.caller.sink = some accepts
  bound : s.IsBound outcome
  /-- What was taken, what is in the channel, and what is to come make all events and an end
  mark. -/
  kept : s.relay.taken ++ s.relay.channel ++ coming s.phase = events.map some ++ [none]
  trace : s.relay.trace = s.relay.sunk ++ s.relay.pump.hand
  unsunk : s.relay.unsunk = Relay.failures accepts s.relay.sunk
  stream : s.relay.stream = s.relay.sunk.map some ++ closing s.phase
  consumed : s.relay.consumed ≤ s.relay.stream.length

variable {accepts : Sink (TraceEvent Float)} {events : List (TraceEvent Float)} {outcome : Outcome}
  {isOpen : String → Bool}

/-- Nothing is lost when only the channel and the phase change, if the run goes on. -/
theorem IsLossless.goOn (h : IsLossless r accepts events outcome s)
    {channel : List (Option (TraceEvent Float))} {phase : Phase}
    (hs : closing phase = closing s.phase)
    (hbound : ({ s with relay := { s.relay with channel }, phase } : Run).IsBound outcome)
    (hkept : s.relay.taken ++ channel ++ coming phase = events.map some ++ [none]) :
  IsLossless r accepts events outcome { s with relay := { s.relay with channel }, phase }
  := by
  constructor
  · apply h.request
  · apply h.handler
  · apply h.sink
  · apply hbound
  · apply hkept
  · apply h.trace
  · apply h.unsunk
  · rw [hs]
    apply h.stream
  · apply h.consumed

/-- The handler loses nothing. -/
theorem IsLossless.handlerStep (h : IsLossless r accepts events outcome s)
    (ht : s.handlerStep? isOpen = some t) :
  IsLossless r accepts events outcome t
  := by
  have hbound := h.bound
  have hkept := h.kept
  obtain ⟨e, acts, ending, hp, rfl⟩ | ⟨act, acts, ending, hact, hp, rfl⟩ | ⟨o, hp, rfl⟩ |
    ⟨problem, hp, rfl⟩ | ⟨o, hp, hpump, rfl⟩ := handlerStep?_cases ht
  · rw [IsBound, hp] at hbound
    rw [hp] at hkept
    apply h.goOn
    · rw [hp]
      rfl
    · apply hbound
    · simpa [coming, emitted, Act.event?] using hkept
  · rw [IsBound, hp] at hbound
    rw [hp] at hkept
    apply h.goOn
    · rw [hp]
      rfl
    · apply hbound
    · simpa [coming, emitted, hact] using hkept
  · rw [IsBound, hp] at hbound
    rw [hp] at hkept
    apply h.goOn
    · rw [hp]
      rfl
    · cases hbound
      rfl
    · simpa [coming, emitted] using hkept
  · rw [IsBound, hp] at hbound
    cases hbound
  · rw [IsBound, hp] at hbound
    have hstream := h.stream
    rw [hp] at hkept hstream
    constructor
    · apply h.request
    · apply h.handler
    · apply h.sink
    · cases hbound
      exact ⟨rfl, hpump⟩
    · apply hkept
    · apply h.trace
    · apply h.unsunk
    · simpa [closing, finish, Relay.endStream] using hstream
    · simp only [finish, Relay.endStream, List.length_append]
      apply Nat.le_add_right_of_le h.consumed

/-- What a run that has not ended is bound to does not depend on its relay. -/
theorem IsBound.relay (h : s.IsBound outcome) (hs : s.hasEnded = false)
    (relay : Relay (TraceEvent Float)) :
  ({ s with relay } : Run).IsBound outcome
  := by
  obtain ⟨request, handler, caller, _, phase, told⟩ := s
  cases phase with
  | claimed => cases h
  | ready program => cases h
  | performing p => apply h
  | draining o => apply h
  | ended result => cases hs

/-- The pump loses nothing. -/
theorem IsLossless.pumpStep (h : IsLossless r accepts events outcome s) (ht : s.pumpStep? = some t) :
  IsLossless r accepts events outcome t
  := by
  have htrace := h.trace
  have hkept := h.kept
  have hstream := h.stream
  obtain ⟨hrunning, ⟨e, rest, hpump, hchannel, rfl⟩ | ⟨rest, hpump, hchannel, rfl⟩ |
    ⟨e, hpump, rfl⟩⟩ := pumpStep?_cases ht
  · rw [hpump] at htrace
    rw [Relay.taken, hpump, hchannel] at hkept
    constructor
    · apply h.request
    · apply h.handler
    · apply h.sink
    · apply h.bound.relay hrunning
    · simpa [Relay.taken, Pump.mark] using hkept
    · simpa [Pump.hand] using htrace
    · apply h.unsunk
    · apply hstream
    · apply h.consumed
  · rw [hpump] at htrace
    rw [Relay.taken, hpump, hchannel] at hkept
    constructor
    · apply h.request
    · apply h.handler
    · apply h.sink
    · apply h.bound.relay hrunning
    · simpa [Relay.taken, Pump.mark] using hkept
    · apply htrace
    · apply h.unsunk
    · apply hstream
    · apply h.consumed
  · rw [hpump] at htrace
    rw [Relay.taken, hpump] at hkept
    rw [closing_eq_nil hrunning, List.append_nil] at hstream
    rw [h.sink, Relay.deliver]
    constructor
    · apply h.request
    · apply h.handler
    · apply h.sink
    · apply h.bound.relay hrunning
    · apply hkept
    · simpa [Pump.hand] using htrace
    · rw [Relay.failures_concat, h.unsunk]
    · simp only [closing_eq_nil hrunning, hstream, List.map_append, List.append_nil]
      rfl
    · rw [List.length_append]
      apply Nat.le_add_right_of_le h.consumed

/-- The consumer loses nothing. -/
theorem IsLossless.consume (h : IsLossless r accepts events outcome s)
    {item : Option (TraceEvent Float)} (ht : s.consume? = some (item, t)) :
  IsLossless r accepts events outcome t
  := by
  obtain ⟨hitem, rfl⟩ := consume?_eq_some ht
  constructor
  · apply h.request
  · apply h.handler
  · apply h.sink
  · apply h.bound
  · apply h.kept
  · apply h.trace
  · apply h.unsunk
  · apply h.stream
  · apply (List.getElem?_eq_some_iff.mp hitem).1

/-- A step loses nothing. -/
theorem IsLossless.step (h : IsLossless r accepts events outcome s) (hstep : Step s t) :
  IsLossless r accepts events outcome t
  := by
  cases hstep with
  | handler isOpen ht => apply h.handlerStep ht
  | pump ht => apply h.pumpStep ht
  | consumer item ht => apply h.consume ht

/-- A schedule loses nothing. -/
theorem IsLossless.schedule (h : IsLossless r accepts events outcome s)
    (hsteps : ReflTransGen Step s t) :
  IsLossless r accepts events outcome t
  := by
  induction hsteps with
  | refl => apply h
  | tail _ hstep ih => apply ih.step hstep

/-! ### Schedules are complete -/

/-- When the pump has stopped, everything was delivered. -/
theorem IsLossless.complete (h : IsLossless r accepts events outcome s)
    (hpump : s.relay.pump = .stopped) :
  s.relay.trace = events ∧ s.relay.sunk = events ∧ s.relay.channel = [] ∧ coming s.phase = []
  := by
  have hkept := h.kept
  have htrace := h.trace
  rw [hpump] at htrace
  rw [Relay.taken, hpump, Pump.mark, List.append_assoc, List.append_assoc, List.singleton_append]
    at hkept
  obtain ⟨hevents, hrest⟩ := eq_of_map_some_append_none hkept
  obtain ⟨hchannel, hcoming⟩ := List.append_eq_nil_iff.mp hrest
  refine ⟨hevents, ?_, hchannel, hcoming⟩
  rw [← hevents, htrace]
  symm
  apply List.append_nil

/-- The pump can go on, unless it has stopped or the channel is empty. -/
theorem exists_pumpStep? (hbound : s.IsBound outcome) (hrunning : s.hasEnded = false)
    (hpump : s.relay.pump ≠ .stopped) (hchannel : s.relay.channel ≠ []) :
  ∃ t, s.pumpStep? = some t
  := by
  have hrelay : ∃ relay, s.relay.pumpStep? s.caller.sink = some relay := by
    rw [Relay.pumpStep?]
    split
    · rw [Relay.take?]
      split
      · contradiction
      · exact ⟨_, rfl⟩
      · exact ⟨_, rfl⟩
    · exact ⟨_, rfl⟩
    · contradiction
  obtain ⟨relay, hrelay⟩ := hrelay
  use { s with relay }
  obtain ⟨request, handler, caller, _, phase, told⟩ := s
  cases phase with
  | claimed => cases hbound
  | ready program => cases hbound
  | performing p =>
      rw [pumpStep?, hrelay]
      rfl
  | draining o =>
      rw [pumpStep?, hrelay]
      rfl
  | ended result => cases hrunning

/-- The handler can go on when the channel is not full and no gate that it waits at is closed. -/
theorem exists_handlerStep? {acts : List Act} (hp : s.phase = .performing ⟨acts, .ok outcome⟩)
    (hgates : ∀ gate, Act.await gate ∈ acts → isOpen gate = true)
    (hfull : s.relay.isFull = false) :
  ∃ t, s.handlerStep? isOpen = some t
  := by
  cases acts with
  | nil =>
      simp only [handlerStep?, hp, Relay.put?, hfull]
      exact ⟨_, rfl⟩
  | cons act acts =>
      cases act with
      | emit e =>
          simp only [handlerStep?, hp, Relay.put?, hfull]
          exact ⟨_, rfl⟩
      | rest =>
          simp only [handlerStep?, hp]
          exact ⟨_, rfl⟩
      | await gate =>
          simp only [handlerStep?, hp, hgates gate List.mem_cons_self]
          exact ⟨_, rfl⟩

/-- An end mark is behind the pump, in the channel, or to come, and there are only events in front of
it. -/
def IsFed (s : Run) : Prop :=
  ∃ events : List (TraceEvent Float),
    s.relay.pump.mark ++ s.relay.channel ++ coming s.phase = events.map some ++ [none]

/-- When the pump has stopped, nothing is to come. -/
theorem IsFed.coming_eq_nil (h : s.IsFed) (hpump : s.relay.pump = .stopped) :
  coming s.phase = []
  := by
  obtain ⟨events, hkept⟩ := h
  rw [hpump, Pump.mark, List.append_assoc, List.singleton_append] at hkept
  obtain ⟨-, hrest⟩ := @eq_of_map_some_append_none _ [] _ _ hkept
  exact (List.append_eq_nil_iff.mp hrest).2

/-- Something is in the channel as long as the pump is to take the end mark from it. -/
theorem IsFed.channel_ne_nil (h : s.IsFed) (hcoming : coming s.phase = [])
    (hpump : s.relay.pump ≠ .stopped) :
  s.relay.channel ≠ []
  := by
  intro hchannel
  obtain ⟨events, hkept⟩ := h
  cases hs : s.relay.pump with
  | stopped => exact hpump hs
  | waiting => simp [hs, hchannel, hcoming, Pump.mark] at hkept
  | delivering e => simp [hs, hchannel, hcoming, Pump.mark] at hkept

/-- As long as a run that is bound to an outcome has not ended, its handler can go on, or the pump can,
unless the handler waits at a closed gate. -/
theorem IsFed.goesOn (h : s.IsFed) (hbound : s.IsBound outcome)
    (hgates : ∀ acts ending, s.phase = .performing ⟨acts, ending⟩ →
      ∀ gate, Act.await gate ∈ acts → isOpen gate = true)
    (hrunning : s.hasEnded = false) :
  (∃ t, s.handlerStep? isOpen = some t) ∨ ∃ t, s.pumpStep? = some t
  := by
  have hpump := exists_pumpStep? hbound hrunning
  cases hp : s.phase with
  | claimed =>
      rw [IsBound, hp] at hbound
      cases hbound
  | ready program =>
      rw [IsBound, hp] at hbound
      cases hbound
  | performing p =>
      obtain ⟨acts, ending⟩ := p
      rw [IsBound, hp] at hbound
      cases hbound
      cases hfull : s.relay.isFull with
      | false =>
          left
          apply exists_handlerStep? hp (hgates _ _ hp) hfull
      | true =>
          right
          apply hpump
          · intro hstopped
            have hcoming := h.coming_eq_nil hstopped
            rw [hp] at hcoming
            exact List.append_ne_nil_of_right_ne_nil _ (List.cons_ne_nil _ _) hcoming
          · intro hempty
            rw [Relay.isFull_of_isEmpty hempty] at hfull
            cases hfull
  | draining o =>
      by_cases hstopped : s.relay.pump = .stopped
      · left
        simp only [handlerStep?, hp, hstopped]
        exact ⟨_, rfl⟩
      · right
        apply hpump hstopped
        apply h.channel_ne_nil _ hstopped
        rw [hp]
        rfl
  | ended result =>
      rw [hasEnded, result?, hp] at hrunning
      cases hrunning

/-- When nothing is lost, the end mark is behind the events that were taken. -/
theorem IsLossless.isFed (h : IsLossless r accepts events outcome s) :
  s.IsFed
  := by
  have hkept := h.kept
  rw [Relay.taken, List.append_assoc, List.append_assoc] at hkept
  obtain ⟨left, rfl⟩ := isPrefix_of_map_some_append hkept
  rw [List.map_append, List.append_assoc, List.append_cancel_left_eq, ← List.append_assoc] at hkept
  exact ⟨left, hkept⟩

/-- As long as a run has not ended, its handler can go on when all gates are open, or the pump
can. -/
theorem IsLossless.goesOn (h : IsLossless r accepts events outcome s)
    (hrunning : s.hasEnded = false) :
  (∃ t, s.handlerStep? (fun _ => true) = some t) ∨ ∃ t, s.pumpStep? = some t
  := by
  apply h.isFed.goesOn h.bound _ hrunning
  intro _ _ _ _ _
  rfl

/-! ### What a caller can rely on -/

/-- A run that is ready, with a fresh relay and a sink. -/
structure IsReady (capacity : Nat) (accepts : Sink (TraceEvent Float)) (r : Run) : Prop where
  phase : ∃ program, r.phase = .ready program
  relay : r.relay = { capacity }
  sink : r.caller.sink = some accepts

/-- The report of a run on events. -/
def reportOn (r : Run) (events : List (TraceEvent Float)) (outcome : Outcome) :
    Except Problem RunReport :=
  ({ r with relay := { r.relay with trace := events } } : Run).report outcome

/-- What the caller of a run can rely on at any moment, when the handler emits events and ends
with an outcome. -/
structure IsFaithful (r : Run) (accepts : Sink (TraceEvent Float))
    (events : List (TraceEvent Float)) (outcome : Outcome) (s : Run) : Prop where
  /-- The sink was called with the first events, once with each, also after it has failed. -/
  sunk : s.relay.sunk <+: events
  unsunk : s.relay.unsunk = Relay.failures accepts s.relay.sunk
  trace : s.relay.trace <+: events
  /-- The stream has the first events; an end mark is behind all of them, and is the only one. -/
  stream : s.relay.stream <+: events.map some ++ [none]
  /-- The consumer takes the items in their order. -/
  yields : ∀ item t, s.consume? = some (item, t) →
    (events.map some ++ [none])[s.relay.consumed]? = some item ∧
      t.relay.consumed = s.relay.consumed + 1
  /-- When there is a result, everything was delivered and the stream has ended. -/
  resolved : ∀ result, s.result? = some result → result = r.reportOn events outcome ∧
    s.relay.trace = events ∧ s.relay.sunk = events ∧ s.relay.stream = events.map some ++ [none]
  /-- The result does not change any more. -/
  once : ∀ result t, s.result? = some result → ReflTransGen Step s t →
    t.result? = some result
  /-- The channel is not full when the pump waits at an empty one. -/
  unblocked : ¬ (s.relay.isFull = true ∧ s.relay.pump = .waiting ∧ s.relay.channel = [])
  /-- The handler or the pump can go on until the run has ended. -/
  goesOn : s.hasEnded = true ∨ (∃ t, s.handlerStep? (fun _ => true) = some t) ∨
    ∃ t, s.pumpStep? = some t
  /-- No schedule goes on forever. -/
  finite : Acc (fun t s => Step s t) s
  /-- A schedule that cannot go on has ended the run, and the consumer has taken everything. -/
  complete : (∀ t, ¬ Step s t) → s.hasEnded = true ∧ s.relay.consumed = events.length + 1

/-- The pump has taken first events. -/
theorem IsLossless.trace_isPrefix (h : IsLossless r accepts events outcome s) :
  s.relay.trace <+: events
  := by
  have hkept := h.kept
  rw [Relay.taken, List.append_assoc, List.append_assoc] at hkept
  apply isPrefix_of_map_some_append hkept

/-- The sink was called with first events. -/
theorem IsLossless.sunk_isPrefix (h : IsLossless r accepts events outcome s) :
  s.relay.sunk <+: events
  := by
  apply List.IsPrefix.trans _ h.trace_isPrefix
  use s.relay.pump.hand
  rw [h.trace]

/-- When there is a result, it is the report on all events, and everything was delivered. -/
theorem IsLossless.resolved (h : IsLossless r accepts events outcome s)
    {result : Except Problem RunReport} (hresult : s.result? = some result) :
  result = r.reportOn events outcome ∧
    s.relay.trace = events ∧ s.relay.sunk = events ∧ s.relay.stream = events.map some ++ [none]
  := by
  have hbound := h.bound
  have hstream := h.stream
  rw [result?] at hresult
  split at hresult
  · rename_i ending hp
    cases hresult
    rw [IsBound, hp] at hbound
    obtain ⟨hending, hpump⟩ := hbound
    obtain ⟨htrace, hsunk, _, _⟩ := h.complete hpump
    rw [hp, hsunk] at hstream
    refine ⟨?_, htrace, hsunk, hstream⟩
    rw [hending, reportOn, report, report, h.request]
    cases outcome with
    | success success => simp only [metrics?, h.request, h.handler, htrace]
    | failure failure => rfl
  · cases hresult

/-- The stream has first events, and at most the one end mark. -/
theorem IsLossless.stream_isPrefix (h : IsLossless r accepts events outcome s) :
  s.relay.stream <+: events.map some ++ [none]
  := by
  cases hresult : s.result? with
  | none =>
      have hrunning : s.hasEnded = false := by rw [hasEnded, hresult]; rfl
      rw [h.stream, closing_eq_nil hrunning, List.append_nil]
      apply (h.sunk_isPrefix.map some).trans
      apply List.prefix_append
  | some result =>
      use []
      rw [List.append_nil, (h.resolved hresult).2.2.2]

/-- When nothing can go on, the run has ended, and the consumer has taken everything. -/
theorem IsLossless.exhausted (h : IsLossless r accepts events outcome s)
    (hstuck : ∀ t, ¬ Step s t) :
  s.hasEnded = true ∧ s.relay.consumed = events.length + 1
  := by
  have hended : s.hasEnded = true := by
    cases hrunning : s.hasEnded with
    | true => rfl
    | false =>
        rcases h.goesOn hrunning with ⟨t, ht⟩ | ⟨t, ht⟩
        · cases hstuck t (.handler _ ht)
        · cases hstuck t (.pump ht)
  use hended
  obtain ⟨result, hresult⟩ := Option.isSome_iff_exists.mp hended
  have hlength : s.relay.stream.length = events.length + 1 := by
    rw [(h.resolved hresult).2.2.2, List.length_append, List.length_map]
    rfl
  rw [← hlength]
  apply Nat.le_antisymm h.consumed
  rw [← List.getElem?_eq_none_iff]
  cases hitem : s.relay.stream[s.relay.consumed]? with
  | none => rfl
  | some item =>
      have hconsume : s.consume? =
          some (item, { s with relay := { s.relay with consumed := s.relay.consumed + 1 } }) := by
        rw [consume?, Relay.consume?, hitem]
        rfl
      cases hstuck _ (.consumer item hconsume)

/-- A caller can rely on a run that loses nothing. -/
theorem IsLossless.isFaithful (h : IsLossless r accepts events outcome s) :
  IsFaithful r accepts events outcome s
  := by
  constructor
  case sunk => apply h.sunk_isPrefix
  case unsunk => apply h.unsunk
  case trace => apply h.trace_isPrefix
  case stream => apply h.stream_isPrefix
  case yields =>
    intro item t ht
    obtain ⟨hitem, rfl⟩ := consume?_eq_some ht
    obtain ⟨rest, hrest⟩ := h.stream_isPrefix
    constructor
    · rw [← hrest, List.getElem?_append_left (List.getElem?_eq_some_iff.mp hitem).1, hitem]
    · rfl
  case resolved =>
    intro result hresult
    apply h.resolved hresult
  case once =>
    intro result t hresult ht
    apply result?_schedule ht hresult
  case unblocked =>
    rintro ⟨hfull, _, hempty⟩
    rw [Relay.isFull_of_isEmpty hempty] at hfull
    cases hfull
  case goesOn =>
    cases hs : s.hasEnded with
    | true =>
        left
        rfl
    | false =>
        right
        apply h.goesOn hs
  case finite => apply wellFounded_step.apply
  case complete => apply h.exhausted

variable {capacity : Nat}

/-- A run is ready when it has started, if its snippet is instrumented and the caller takes the
news. -/
theorem isReady_start (request : RunRequest) (handler : Handler) (caller : Caller)
    (capacity : Nat) {program : String}
    (hprogram : handler.instrument request.code request.options = .ok program)
    (hsink : caller.sink = some accepts) (htakes : ∀ stage, caller.takes stage = true) :
  ({ request, handler, caller, relay := { capacity } } : Run).start.IsReady capacity accepts
  := by
  simp only [start, hprogram, tell, htakes, if_true]
  exact ⟨⟨program, rfl⟩, rfl, hsink⟩

/-- Nothing is lost when a handler begins to perform. -/
theorem IsReady.isLossless (h : r.IsReady capacity accepts) (acts : List Act) (outcome : Outcome) :
  IsLossless r accepts (emitted acts) outcome (r.perform ⟨acts, .ok outcome⟩)
  := by
  obtain ⟨program, hp⟩ := h.phase
  simp only [perform, hp]
  constructor
  · rfl
  · rfl
  · apply h.sink
  · rfl
  · rw [h.relay]
    rfl
  · rw [h.relay]
    rfl
  · rw [h.relay]
    rfl
  · rw [h.relay]
    rfl
  · rw [h.relay]
    apply Nat.le_refl

/-- Whatever a handler emits before it ends with an outcome, and in whatever order the handler,
the pump, and the consumer take their steps, its caller can rely on the run.  The channel may
have any capacity, and the sink may fail on any events. -/
theorem schedule_isFaithful (h : r.IsReady capacity accepts) (acts : List Act) (outcome : Outcome)
    (hs : ReflTransGen Step (r.perform ⟨acts, .ok outcome⟩) s) :
  IsFaithful r accepts (emitted acts) outcome s
  := by
  have hbegun := h.isLossless acts outcome
  apply (hbegun.schedule hs).isFaithful

/-- A run with a channel for one event and a sink that fails when it is called first. -/
def narrow : Run where
  request := { code := "", language := "", id := "" }
  handler := ⟨⟨"", "", ""⟩, 1, fun code _ => .ok code, fun _ => .ok .unanalysed⟩
  caller := { sink := some fun number _ => number != 1 }
  relay := { capacity := 1 }

/-- What a handler does that emits two events. -/
def twice : List Act :=
  [.emit (.memory ⟨1, 0, 0, 0, 0⟩), .rest, .emit (.memory ⟨2, 0, 0, 0, 0⟩)]

/-- A run through a narrow channel ends, and its caller can rely on it. -/
theorem schedule_isFaithful_narrow :
  ∃ s, s.hasEnded = true ∧
    IsFaithful narrow.start (fun number _ => number != 1) (emitted twice)
      (.failure { kind := .timeout, message := "" }) s
  := by
  have hready : narrow.start.IsReady 1 fun number _ => number != 1 :=
    isReady_start narrow.request narrow.handler narrow.caller 1 rfl rfl fun _ => rfl
  refine ⟨_, ?_, schedule_isFaithful hready twice _ (settle_schedule (fun _ => true) _)⟩
  rfl

end Run

end SnippetProfiler
