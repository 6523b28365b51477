import SnippetProfiler.Probe.Recorder
import SnippetProfiler.Proofs.Quantity.Float
import SnippetProfiler.Proofs.Trace.Data
import SnippetProfiler.Proofs.Trace.Kinds

/-!
# What is received of notes

A note of an event is received as the event with clipped summaries, and a note of the end as
the trace that it reports: the recorded events, kind after kind, clipped and sorted by time.
When the recorded events are those of a trace whose times are numbers, the reported trace has the
same events; and it has those of a kind in the same order exactly when their times never decrease.
-/

namespace SnippetProfiler

/-! ### Sorted traces -/

namespace Trace

variable {t : Trace Float}

theorem lt_time_iff (hn : ∀ e ∈ t, e.time.isNaN = false) :
  ∀ a ∈ t, ∀ b ∈ t,
    Quantity.lt a.time b.time = true ↔ Quantity.rank a.time < Quantity.rank b.time
  := fun a ha b hb => Quantity.lt_iff_rank (hn a ha) (hn b hb)

/-- Times that are numbers stand in order exactly when their ranks do. -/
theorem pairwise_rank_iff (hn : ∀ e ∈ t, e.time.isNaN = false) :
  (t.Pairwise fun a b => Quantity.rank a.time ≤ Quantity.rank b.time)
    ↔ t.Pairwise fun a b => a.time ≤ b.time
  := by
  apply List.Pairwise.iff_of_mem
  intro a b ha hb
  rw [Quantity.le_iff, and_iff_right (hn a ha), and_iff_right (hn b hb)]

theorem isNaN_gathered (hn : ∀ e ∈ t, e.time.isNaN = false) :
  ∀ e ∈ t.gathered, e.time.isNaN = false
  := fun e he => hn e (t.gathered_perm.mem_iff.mp he)

theorem isNumber_gathered (hn : ∀ e ∈ t, e.time.isNaN = false) :
  ∀ e ∈ t.gathered, Quantity.isNumber e.time = true
  := by
  intro e he
  simp only [Quantity.isNumber, isNaN_gathered hn e he, Bool.not_false]

/-- The events of a trace whose times are numbers stay the same when they are gathered and sorted. -/
theorem sortByTime_perm (hn : ∀ e ∈ t, e.time.isNaN = false) :
  (sortByTime t.gathered).Perm t
  := by
  apply List.Perm.trans _ t.gathered_perm
  apply Sorting.sort_perm
  exact isNumber_gathered hn

/-- The events of a kind keep their order when they are gathered and sorted exactly when their times
never decrease. -/
theorem ofKind_sortByTime_iff (hn : ∀ e ∈ t, e.time.isNaN = false) (k : EventKind) :
  (sortByTime t.gathered).ofKind k = t.ofKind k
    ↔ (t.ofKind k).Pairwise fun a b => a.time ≤ b.time
  := by
  have hnumbers := isNumber_gathered hn
  have hlt := lt_time_iff (isNaN_gathered hn)
  have hkind : ∀ e ∈ t.ofKind k, e.time.isNaN = false := fun e he => hn e (mem_ofKind.mp he).1
  rw [← pairwise_rank_iff hkind]
  constructor
  · intro heq
    rw [← heq]
    have hsorted := Sorting.pairwise_sort (fun e : TraceEvent Float => Quantity.rank e.time)
      hnumbers hlt (List.pairwise_of_forall (fun _ _ => trivial) : t.gathered.Pairwise fun _ _ => True)
    exact (hsorted.imp fun h => h.1).filter _
  · intro hordered
    rw [← ofKind_gathered k t, ofKind, sortByTime,
      Sorting.filter_sort fun e : TraceEvent Float => Quantity.rank e.time]
    · rfl
    · exact hnumbers
    · exact hlt
    · have hk : t.gathered.filter (fun e => e.kind = k) = t.ofKind k := ofKind_gathered k t
      rw [hk]
      exact hordered

/-- A trace with clipped summaries. -/
def clipped (t : Trace Float) : Trace Float := t.map TraceEvent.clipped

/-- Clipped summaries change no times. -/
theorem pairwise_time_clipped {r : Float → Float → Prop} :
  (t.clipped.Pairwise fun a b => r a.time b.time) ↔ t.Pairwise fun a b => r a.time b.time
  := by
  rw [clipped, List.pairwise_map]
  simp only [TraceEvent.time_clipped]

theorem ofKind_clipped (k : EventKind) (t : Trace Float) :
  t.clipped.ofKind k = (t.ofKind k).clipped
  := by
  rw [ofKind, clipped, List.filter_map]
  congr 1
  apply List.filter_congr
  intro e _
  rw [Function.comp_apply, TraceEvent.kind_clipped]

end Trace

/-! ### Collecting -/

theorem entries_list {α : Type} (f : α → Json) (xs : List α) :
  entries (Json.list f xs) = .ok (xs.map f)
  := by
  cases xs with
  | nil => rfl
  | cons x xs => rfl

/-- The data of events of a kind are valid. -/
theorem validEvents_data {k : EventKind} {t : Trace Float} (h : ∀ e ∈ t, e.kind = k) :
  validEvents k (t.map TraceEvent.dataJson) = t.clipped
  := by
  induction t with
  | nil => rfl
  | cons e t ih =>
      rw [List.forall_mem_cons] at h
      obtain ⟨rfl, ht⟩ := h
      have hrest := ih ht
      rw [validEvents] at hrest ⊢
      rw [List.map_cons, List.filterMap_cons, readKind_dataJson, hrest]
      rfl

/-- The events of kinds whose keys have the events of a trace are collected. -/
theorem collect_data {payload : Validation.Fields} {t : Trace Float} {kinds : List EventKind}
    (h : ∀ k ∈ kinds, Json.lookup payload k.listKey
      = some (Json.list TraceEvent.dataJson (t.ofKind k))) :
  collect payload kinds = .ok (kinds.flatMap fun k => t.clipped.ofKind k)
  := by
  induction kinds with
  | nil => rfl
  | cons k kinds ih =>
      rw [List.forall_mem_cons] at h
      have hvalid : validEvents k ((t.ofKind k).map TraceEvent.dataJson) = t.clipped.ofKind k := by
        rw [validEvents_data, Trace.ofKind_clipped]
        intro e he
        apply (Trace.mem_ofKind.mp he).2
      rw [collect, h.1, Option.getD_some, entries_list, ih h.2, List.flatMap_cons]
      simp only [hvalid]
      rfl

/-! ### Notes -/

namespace Probe

variable {τ : Type}

/-- The record of the events of a trace. -/
def Record.ofTrace (t : Trace τ) : Record τ := ⟨t.samples, t.calls, t.states, t.steps⟩

theorem Record.ofTrace_concat (t : Trace τ) (e : TraceEvent τ) :
  Record.ofTrace (t ++ [e]) = (Record.ofTrace t).push e
  := by
  cases e with
  | _ =>
      simp only [Record.ofTrace, Trace.samples, Trace.calls, Trace.states, Trace.steps,
        List.filterMap_append]
      simp [Record.push, TraceEvent.sample?, TraceEvent.call?, TraceEvent.state?,
        TraceEvent.step?]

theorem map_samples (t : Trace τ) :
  t.samples.map .memory = t.ofKind .memory
  := by
  rw [Trace.samples, List.map_filterMap, Trace.ofKind, ← List.filterMap_eq_filter]
  congr 1
  funext e
  cases e with
  | _ => rfl

theorem map_calls (t : Trace τ) :
  t.calls.map .functionCall = t.ofKind .functionCall
  := by
  rw [Trace.calls, List.map_filterMap, Trace.ofKind, ← List.filterMap_eq_filter]
  congr 1
  funext e
  cases e with
  | _ => rfl

theorem map_states (t : Trace τ) :
  t.states.map .variableState = t.ofKind .variableState
  := by
  rw [Trace.states, List.map_filterMap, Trace.ofKind, ← List.filterMap_eq_filter]
  congr 1
  funext e
  cases e with
  | _ => rfl

theorem map_steps (t : Trace τ) :
  t.steps.map .executionFlow = t.ofKind .executionFlow
  := by
  rw [Trace.steps, List.map_filterMap, Trace.ofKind, ← List.filterMap_eq_filter]
  congr 1
  funext e
  cases e with
  | _ => rfl

/-- The fields of the record of a trace list the events of each kind. -/
theorem fields_ofTrace (t : Trace Float) :
  (Record.ofTrace t).fields = EventKind.all.map fun k =>
    (k.listKey, Json.list TraceEvent.dataJson (t.ofKind k))
  := by
  simp only [Record.fields, Record.ofTrace, map_samples, map_calls, map_states, map_steps]
  rfl

/-- A record of a trace is reported as the clipped events of the trace, gathered and sorted. -/
theorem traceOf_ofTrace (time : Float) (t : Trace Float) :
  traceOf (("executionTime", .float time) :: (Record.ofTrace t).fields)
    = .ok (sortByTime t.clipped.gathered)
  := by
  have hcollect : collect (("executionTime", .float time) :: (Record.ofTrace t).fields) EventKind.all
      = .ok t.clipped.gathered := by
    apply collect_data
    intro k _
    rw [fields_ofTrace]
    cases k with
    | _ => simp [Json.lookup, EventKind.all, EventKind.listKey]
  rw [traceOf, hcollect]
  rfl

/-- The event of a note. -/
def Note.event? : Note τ → Option (TraceEvent τ)
  | .event e => some e
  | _ => none

/-- The event that is received of a note. -/
def Note.received? (n : Note Float) : Option (TraceEvent Float) :=
  match n.payload with
  | .obj payload =>
    match frameOf n.kind payload with
    | .ok (.event e _) => some e
    | _ => none
  | _ => none

/-- What is received of a note is its event, with clipped summaries. -/
theorem received?_eq (n : Note Float) :
  n.received? = n.event?.map TraceEvent.clipped
  := by
  cases n with
  | event e =>
      have hdecode : decodeEvent (.str e.kind.word) e.dataJson = .ok e.clipped := by
        simp only [decodeEvent, EventKind.ofWord?_word, readKind_dataJson]
      have hframe : frameOf .event [("event", .str e.kind.word), ("data", e.dataJson)]
          = .ok (.event e.clipped [("event", .str e.kind.word), ("data", e.dataJson)]) := by
        simp [frameOf, Json.lookup, hdecode]
      simp only [Note.received?, Note.payload, Note.kind, hframe]
      rfl
  | complete time record => rfl
  | error crash => rfl

/-- The events among notes. -/
def eventsOf (ns : List (Note τ)) : Trace τ := ns.filterMap Note.event?

theorem eventsOf_append (ns ms : List (Note τ)) :
  eventsOf (ns ++ ms) = eventsOf ns ++ eventsOf ms
  := List.filterMap_append ..

/-- A note that is no event adds none. -/
theorem eventsOf_concat_other (ns : List (Note τ)) {n : Note τ} (hn : n.event? = none) :
  eventsOf (ns ++ [n]) = eventsOf ns
  := by
  rw [eventsOf_append, eventsOf, eventsOf, List.filterMap_cons, hn]
  apply List.append_nil

/-- The events that are received of notes. -/
def receivedOf (ns : List (Note Float)) : Trace Float := ns.filterMap Note.received?

/-- What is received of notes are their events, with clipped summaries. -/
theorem receivedOf_eq (ns : List (Note Float)) :
  receivedOf ns = (eventsOf ns).clipped
  := by
  rw [receivedOf, Trace.clipped, eventsOf, List.map_filterMap]
  congr 1
  funext n
  apply received?_eq

end Probe

end SnippetProfiler
