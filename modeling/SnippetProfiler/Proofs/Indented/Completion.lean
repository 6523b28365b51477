import SnippetProfiler.Proofs.Probe.Time

/-!
# The trace of a completed snippet

When a snippet has completed, its collector reports a trace, the events of which were received
before, one after the other.  Whatever the snippet does, the events of both traces are the same.

They agree when those of each kind stand in the same order, too; then the metrics are equal.  This
can fail for variables only, whose events may be written late: the trace that is reported in the end
is sorted by time, but the events were received as they were written.
-/

namespace SnippetProfiler

open Probe (InTime Instruments Note eventsOf receivedOf receivedOf_eq)

/-- Two traces agree when they have the same events, those of each kind in the same order, and
the same metrics. -/
structure Trace.Agrees (t u : Trace Float) : Prop where
  perm : t.Perm u
  kinds : ∀ k, t.ofKind k = u.ofKind k
  metrics : ∀ duration hint, aggregate t duration hint = aggregate u duration hint

/-- What comes of gathering and sorting a trace agrees with it exactly when the times of each kind
never decrease. -/
theorem Trace.agrees_iff {t : Trace Float} (hn : ∀ e ∈ t, e.time.isNaN = false) :
  (sortByTime t.gathered).Agrees t ↔ ∀ k, (t.ofKind k).Pairwise fun d e => d.time ≤ e.time
  := by
  constructor
  · intro h k
    apply (ofKind_sortByTime_iff hn k).mp (h.kinds k)
  · intro h
    have hkinds (k : EventKind) := (ofKind_sortByTime_iff hn k).mpr (h k)
    constructor
    · apply sortByTime_perm hn
    · exact hkinds
    · apply aggregate_congr hkinds

/-! ### What is received -/

namespace Probe

/-- A completed program reports what was received before, sorted by time. -/
theorem InOrder.traceOf {options : TrackingOptions} {ns before after : List (Note Float)}
    {time : Float} {record : Record Float} (h : InOrder options ns)
    (hw : ns = before ++ .complete time record :: after) :
  ∃ payload, (Note.complete time record).payload = .obj payload
    ∧ traceOf payload = .ok (sortByTime (receivedOf before).gathered)
  := by
  use ("executionTime", .float time) :: record.fields
  constructor
  · rfl
  · rw [h.recorded before time record after hw, receivedOf_eq]
    apply traceOf_ofTrace

/-- Events of one kind are in time when those of some kinds are, among them this one. -/
theorem InTime.ofKind {P : EventKind → Prop} {ns before : List (Note Float)} (h : InTime P ns)
    (hbefore : before <+: ns) {k : EventKind} (hk : P k) :
  (Trace.ofKind k (receivedOf before)).Pairwise fun d e => d.time ≤ e.time
  := by
  have hsublist : (Trace.ofKind k (eventsOf before)).Sublist (eventsOf ns) :=
    List.filter_sublist.trans (hbefore.sublist.filterMap _)
  rw [receivedOf_eq, Trace.ofKind_clipped, Trace.pairwise_time_clipped]
  apply (h.sublist hsublist).imp_of_mem
  intro d e hd he hle
  apply hle
  · rw [(Trace.mem_ofKind.mp hd).2]
    exact hk
  · rw [(Trace.mem_ofKind.mp he).2]
    exact hk

/-- What is received of a steady recorder tells times that are numbers. -/
theorem Recorder.IsSteady.isNaN_received {σ : Type} {owes : Float → Prop} {r : Recorder σ Float}
    (h : r.IsSteady owes) {before : List (Note Float)} (hbefore : before <+: r.written) :
  ∀ e ∈ receivedOf before, e.time.isNaN = false
  := by
  rw [receivedOf_eq]
  intro e he
  obtain ⟨d, hd, rfl⟩ := List.mem_map.mp he
  rw [TraceEvent.time_clipped]
  have hd := (hbefore.sublist.filterMap Note.event?).subset hd
  exact (Quantity.le_iff.mp (h.past d hd)).1

end Probe

/-! ### What is reported -/

namespace Indented

variable {σ : Type} {env : Instruments σ Float} (hclock : ∀ s, (env.clock s).1.isFinite = true)

include hclock

/-- Whatever a snippet does until it has completed, it reports the events that were received
before; and the two traces agree exactly when the events of variables were received in the order of
their times. -/
theorem reported_agrees_iff (options : TrackingOptions) (mapping : Option (List (Int × Option Int)))
    (lines : List String) (script : String) (surroundings : σ) (moves : List (Move σ))
    {before after : List (Note Float)} {time : Float} {record : Probe.Record Float}
    (hw : ((Snippet.start env options mapping lines script surroundings).run env
        moves).collector.written = before ++ .complete time record :: after) :
  ∃ payload reported, (Note.complete time record).payload = .obj payload ∧
    traceOf payload = .ok reported ∧ reported.Perm (receivedOf before) ∧
    (reported.Agrees (receivedOf before)
      ↔ (Trace.ofKind .variableState (receivedOf before)).Pairwise
        fun d e => d.time ≤ e.time)
  := by
  have ho := Snippet.isOrderly_start env options mapping lines script surroundings
  obtain ⟨hs, hin⟩ := Snippet.isSteady_start hclock options mapping lines script surroundings
    (· ≠ .variableState)
  obtain ⟨hsteady, htime⟩ := Snippet.isSteady_run hclock ho hs hin moves
  have hbefore : before <+: ((Snippet.start env options mapping lines script surroundings).run env
      moves).collector.written := by
    rw [hw]
    apply List.prefix_append
  have hnumbers := hsteady.isNaN_received hbefore
  -- only events of variables are written late
  have hothers := htime.mpr fun front m _ kind t hlate hkind =>
    absurd (Snippet.owes_of_late hlate).1 hkind
  obtain ⟨payload, hpayload, hreported⟩ := (ho.run moves).recorder.notes.traceOf hw
  refine ⟨payload, _, hpayload, hreported, Trace.sortByTime_perm hnumbers, ?_⟩
  rw [Trace.agrees_iff hnumbers]
  constructor
  · exact fun h => h .variableState
  · intro hvariables k
    by_cases hk : k = .variableState
    · rw [hk]
      exact hvariables
    · exact hothers.ofKind hbefore hk

omit hclock

/-- A snippet whose texts call no hooks completes with a trace that agrees with the events that were
received. -/
theorem reported_agrees_iff_assigning :
  (∀ n, (leaping.clock n).1.isFinite = true) ∧ ∃ before time record payload reported,
    ((Snippet.start leaping {} none [] "" 0).run leaping assigning).collector.written
      = before ++ [.complete time record] ∧
    (Note.complete time record).payload = .obj payload ∧
    traceOf payload = .ok reported ∧ reported.Agrees (receivedOf before)
  := by
  have hw : ∃ before time record,
      ((Snippet.start leaping {} none [] "" 0).run leaping assigning).collector.written
          = before ++ [.complete time record]
        ∧ (Trace.ofKind .variableState (eventsOf before)).Pairwise fun d e => d.time ≤ e.time := by
    refine ⟨[_, _, _, _], _, _, rfl, ?_⟩
    decide +kernel
  obtain ⟨before, time, record, hw, htimes⟩ := hw
  obtain ⟨payload, reported, hpayload, hreported, -, hiff⟩ :=
    reported_agrees_iff isFinite_leaping {} none [] "" 0 assigning hw
  refine ⟨isFinite_leaping, before, time, record, payload, reported, hw, hpayload, hreported,
    hiff.mpr ?_⟩
  rw [receivedOf_eq, Trace.ofKind_clipped, Trace.pairwise_time_clipped]
  exact htimes

/-- A snippet that gives a variable a value, whose text gives another variable a value later. -/
def nested : List (Move Nat) :=
  [.assign "a" .none (some 1), .now, .assign "text" .none (some 2), .valueText 1, .valueText 0,
    .finish none]

/-- The trace that is reported does not always agree with the events that were received. -/
theorem reported_not_always_agrees :
  (∀ n, (leaping.clock n).1.isFinite = true) ∧ ∃ before time record payload reported,
    ((Snippet.start leaping {} none [] "" 0).run leaping nested).collector.written
      = before ++ [.complete time record] ∧
    (Note.complete time record).payload = .obj payload ∧
    traceOf payload = .ok reported ∧ ¬ reported.Agrees (receivedOf before)
  := by
  have hw : ∃ before time record,
      ((Snippet.start leaping {} none [] "" 0).run leaping nested).collector.written
          = before ++ [.complete time record]
        ∧ (∀ e ∈ eventsOf before, e.time.isNaN = false)
        ∧ ¬ (Trace.ofKind .variableState (eventsOf before)).Pairwise fun d e => d.time ≤ e.time := by
    refine ⟨[_, _, _, _], _, _, rfl, ?_, ?_⟩
    · decide +kernel
    · decide +kernel
  obtain ⟨before, time, record, hw, hnumbers, htimes⟩ := hw
  have ho : Snippet.IsOrderly {} ((Snippet.start leaping {} none [] "" 0).run leaping nested) :=
    (Snippet.isOrderly_start ..).run nested
  obtain ⟨payload, hpayload, hreported⟩ := ho.recorder.notes.traceOf hw
  refine ⟨isFinite_leaping, before, time, record, payload, _, hw, hpayload, hreported, ?_⟩
  rw [receivedOf_eq, Trace.agrees_iff]
  · intro h
    have hvariables := h .variableState
    rw [Trace.ofKind_clipped, Trace.pairwise_time_clipped] at hvariables
    exact htimes hvariables
  · intro e he
    obtain ⟨d, hd, rfl⟩ := List.mem_map.mp he
    rw [TraceEvent.time_clipped]
    exact hnumbers d hd

end Indented

end SnippetProfiler
