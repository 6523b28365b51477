import Mathlib.Tactic.Common
import SnippetProfiler.Metrics.Basic
import SnippetProfiler.Proofs.Sorting
import SnippetProfiler.Trace.Frame

/-!
# The events of one kind

`ofKind k t` are the events of the kind `k` in a trace `t`.  Two traces that have the same
events of each kind, in the same order, have the same metrics.  Gathering the events of a
trace kind by kind, and sorting them by time, gives back the events of each kind, provided
that the times of the trace never decrease.
-/

namespace SnippetProfiler

variable {τ : Type}

namespace Trace

/-- The events of a kind. -/
def ofKind (k : EventKind) (t : Trace τ) : Trace τ := t.filter fun e => e.kind = k

theorem mem_ofKind {k : EventKind} {t : Trace τ} {e : TraceEvent τ} :
  e ∈ t.ofKind k ↔ e ∈ t ∧ e.kind = k
  := by
  rw [ofKind, List.mem_filter, decide_eq_true_eq]

/-- The events of one kind have no other kind. -/
theorem ofKind_ofKind (k k' : EventKind) (t : Trace τ) :
  (t.ofKind k').ofKind k = if k = k' then t.ofKind k else []
  := by
  rw [ofKind, ofKind, List.filter_filter]
  split
  · rename_i h
    rw [h]
    simp only [Bool.and_self]
    rfl
  · rename_i h
    apply List.filter_eq_nil_iff.mpr
    intro e _ he
    rw [Bool.and_eq_true, decide_eq_true_eq, decide_eq_true_eq] at he
    apply h
    rw [← he.1, he.2]

theorem ofKind_append (k : EventKind) (t u : Trace τ) :
  Trace.ofKind k (t ++ u) = t.ofKind k ++ u.ofKind k
  := List.filter_append ..

/-! ### Parts of a trace -/

theorem samples_ofKind (t : Trace τ) :
  (t.ofKind .memory).samples = t.samples
  := by
  rw [ofKind, samples, samples, List.filterMap_filter]
  congr 1
  funext e
  cases e with
  | _ => rfl

theorem calls_ofKind (t : Trace τ) :
  (t.ofKind .functionCall).calls = t.calls
  := by
  rw [ofKind, calls, calls, List.filterMap_filter]
  congr 1
  funext e
  cases e with
  | _ => rfl

theorem states_ofKind (t : Trace τ) :
  (t.ofKind .variableState).states = t.states
  := by
  rw [ofKind, states, states, List.filterMap_filter]
  congr 1
  funext e
  cases e with
  | _ => rfl

theorem steps_ofKind (t : Trace τ) :
  (t.ofKind .executionFlow).steps = t.steps
  := by
  rw [ofKind, steps, steps, List.filterMap_filter]
  congr 1
  funext e
  cases e with
  | _ => rfl

/-! ### Metrics -/

/-- Metrics depend only on the events of each kind. -/
theorem aggregate_congr [Quantity τ] {t u : Trace τ} (h : ∀ k, t.ofKind k = u.ofKind k)
    (duration : τ) (hint : Option GrowthHint) :
  aggregate t duration hint = aggregate u duration hint
  := by
  have hsamples : t.samples = u.samples := by rw [← samples_ofKind, h, samples_ofKind]
  have hcalls : t.calls = u.calls := by rw [← calls_ofKind, h, calls_ofKind]
  have hstates : t.states = u.states := by rw [← states_ofKind, h, states_ofKind]
  have hsteps : t.steps = u.steps := by rw [← steps_ofKind, h, steps_ofKind]
  simp only [aggregate, metricsWith, summarize, hsamples, hcalls, hstates, hsteps]

/-! ### Gathering -/

/-- The events of a trace, kind after kind. -/
def gathered (t : Trace τ) : Trace τ := EventKind.all.flatMap fun k => t.ofKind k

theorem ofKind_gathered (k : EventKind) (t : Trace τ) :
  t.gathered.ofKind k = t.ofKind k
  := by
  simp only [gathered, EventKind.all, List.flatMap_cons, List.flatMap_nil, ofKind_append,
    ofKind_ofKind]
  cases k with
  | _ => simp [ofKind]

theorem gathered_eq (t : Trace τ) :
  t.gathered
    = t.ofKind .memory ++ (t.ofKind .functionCall ++ (t.ofKind .variableState
      ++ t.ofKind .executionFlow))
  := by
  simp only [gathered, EventKind.all, List.flatMap_cons, List.flatMap_nil, List.append_nil]

/-- Gathering does not change which events there are. -/
theorem gathered_perm (t : Trace τ) :
  t.gathered.Perm t
  := by
  induction t with
  | nil => rfl
  | cons e t ih =>
      have hcons : (gathered (e :: t)).Perm (e :: gathered t) := by
        rw [gathered_eq, gathered_eq]
        cases e with
        | memory s => rfl
        | functionCall c => apply List.perm_middle
        | variableState v =>
            rw [← List.append_assoc, ← List.append_assoc (ofKind .memory t)]
            apply List.perm_middle
        | executionFlow l =>
            rw [← List.append_assoc, ← List.append_assoc, ← List.append_assoc (ofKind .memory t),
              ← List.append_assoc (ofKind .memory t ++ _)]
            apply List.perm_middle
      apply hcons.trans (ih.cons e)

end Trace

end SnippetProfiler
