import Mathlib.Algebra.Order.Ring.Rat
import Mathlib.Logic.Relation
import SnippetProfiler.Proofs.Probe.Recorder

/-!
# Clocks that never go back

A clock that never goes back shows at each reading at least what it has shown at all readings before
that one.  What a recorder measures from a reading on, as an exact number of the units of such a
clock, then reaches up to all that the clock has shown.

Whatever a recorder does, it goes on to a later state of its instruments, keeps its setting, and
writes some reports of lines and calls; samples of the memory are no such reports.
-/

namespace SnippetProfiler.Probe

/-! ### Clocks -/

namespace Instruments

/-- A reading of the clock or of the meter leads from one state to another one. -/
inductive Moves {σ τ : Type} (env : Instruments σ τ) : σ → σ → Prop
  | clock (s : σ) : Moves env s (env.clock s).2
  | memory (s : σ) : Moves env s (env.memory s).2

variable {σ : Type} (env : Instruments σ ℚ)

/-- Readings lead from a state to a later one. -/
def Later {σ τ : Type} (env : Instruments σ τ) (s t : σ) : Prop :=
  Relation.ReflTransGen env.Moves s t

/-- From a state on, the clock shows nothing before a time. -/
def IsPast (time : ℚ) (s : σ) : Prop := ∀ t, env.Later s t → time ≤ (env.clock t).1

/-- What the clock has shown is past. -/
def RunsForward : Prop := ∀ s, env.IsPast (env.clock s).1 (env.clock s).2

variable {env} {s t : σ} {time : ℚ}

theorem later_clock {σ τ : Type} (env : Instruments σ τ) (s : σ) :
  env.Later s (env.clock s).2
  := .single (.clock s)

theorem later_memory {σ τ : Type} (env : Instruments σ τ) (s : σ) :
  env.Later s (env.memory s).2
  := .single (.memory s)

/-- What is past stays past. -/
theorem IsPast.later (h : env.IsPast time s) (ht : env.Later s t) :
  env.IsPast time t
  := by
  intro u hu
  apply h
  apply ht.trans hu

/-- What is before a time that is past is past. -/
theorem IsPast.mono (h : env.IsPast time s) {sooner : ℚ} (hs : sooner ≤ time) :
  env.IsPast sooner s
  := fun u hu => hs.trans (h u hu)

theorem IsPast.le_clock (h : env.IsPast time s) :
  time ≤ (env.clock s).1
  := h s .refl

end Instruments

/-! ### Reports -/

/-- Whether an event reports a line or a call. -/
def isReport {τ : Type} : TraceEvent τ → Bool
  | .functionCall _ | .executionFlow _ => true
  | .memory _ | .variableState _ => false

/-- The reports of lines and calls among notes. -/
def reportsIn {τ : Type} (ns : List (Note τ)) : Trace τ := (eventsOf ns).filter isReport

theorem reportsIn_append {τ : Type} (ns ms : List (Note τ)) :
  reportsIn (ns ++ ms) = reportsIn ns ++ reportsIn ms
  := by
  rw [reportsIn, eventsOf_append, List.filter_append]
  rfl

/-- What a recorder keeps until the end. -/
structure Setting (τ : Type) where
  options : TrackingOptions
  scale : τ
  blocked : Bool
  refused : Bool
  finished : Bool

/-- A setting in which lines and calls are tracked in the unit of the clock, the output refuses
nothing, and the end was not recorded. -/
structure Setting.IsExact (s : Setting ℚ) : Prop where
  functions : s.options.functions = true
  flow : s.options.executionFlow = true
  scale : s.scale = 1
  blocked : s.blocked = false
  refused : s.refused = false
  unfinished : s.finished = false

namespace Recorder

variable {σ τ : Type}

/-- The setting of a recorder. -/
def setting (r : Recorder σ τ) : Setting τ where
  options := r.options
  scale := r.scale
  blocked := r.blocked
  refused := r.refused
  finished := r.finished

/-- A recorder goes on to another one, which has written some more reports. -/
structure GoesTo (env : Instruments σ τ) (r : Recorder σ τ) (reports : Trace τ) (s : Recorder σ τ) :
    Prop where
  later : env.Later r.surroundings s.surroundings
  setting : s.setting = r.setting
  written : reportsIn s.written = reportsIn r.written ++ reports

variable {env : Instruments σ τ} {r s t : Recorder σ τ} {reports more : Trace τ}

theorem GoesTo.refl (env : Instruments σ τ) (r : Recorder σ τ) :
  r.GoesTo env [] r
  := ⟨.refl, rfl, (List.append_nil _).symm⟩

theorem GoesTo.trans (h : r.GoesTo env reports s) (ht : s.GoesTo env more t) :
  r.GoesTo env (reports ++ more) t
  := by
  constructor
  · exact Relation.ReflTransGen.trans h.later ht.later
  · rw [ht.setting, h.setting]
  · rw [ht.written, h.written, List.append_assoc]

/-- A recorder goes on also to what has written nothing more. -/
theorem GoesTo.pass (h : r.GoesTo env reports s) (hl : env.Later s.surroundings t.surroundings)
    (hs : t.setting = s.setting) (hw : t.written = s.written) :
  r.GoesTo env reports t
  := by
  constructor
  · exact Relation.ReflTransGen.trans h.later hl
  · rw [hs, h.setting]
  · rw [hw, h.written]

theorem GoesTo.reading (h : r.GoesTo env reports s) :
  r.GoesTo env reports (s.reading env).2
  := h.pass (env.later_clock _) rfl rfl

/-- A note is written to an output that refuses none. -/
theorem GoesTo.write (h : r.GoesTo env reports s) (hb : s.blocked = false) (n : Note τ) :
  r.GoesTo env (reports ++ reportsIn [n]) (s.write n)
  := by
  have hwrite : s.write n = { s with written := s.written ++ [n] } := by
    rw [Recorder.write, hb]
    rfl
  rw [hwrite]
  constructor
  · exact h.later
  · exact h.setting
  · rw [reportsIn_append, h.written, List.append_assoc]

theorem GoesTo.write_other (h : r.GoesTo env reports s) (hb : s.blocked = false) {n : Note τ}
    (hn : reportsIn [n] = []) :
  r.GoesTo env reports (s.write n)
  := by
  have hwrite := h.write hb n
  rw [hn, List.append_nil] at hwrite
  exact hwrite

/-- A report is written. -/
theorem GoesTo.emit (h : r.GoesTo env reports s) (hb : s.blocked = false) {e : TraceEvent τ}
    (he : isReport e = true) :
  r.GoesTo env (reports ++ [e]) (s.emit e)
  := by
  have hpush : r.GoesTo env reports { s with record := s.record.push e } := h.pass .refl rfl rfl
  have hevent : reportsIn [.event e] = [e] := List.filter_cons_of_pos he
  rw [← hevent]
  apply hpush.write hb

theorem GoesTo.emit_other (h : r.GoesTo env reports s) (hb : s.blocked = false) {e : TraceEvent τ}
    (he : isReport e = false) :
  r.GoesTo env reports (s.emit e)
  := by
  have hpush : r.GoesTo env reports { s with record := s.record.push e } := h.pass .refl rfl rfl
  apply hpush.write_other hb
  apply List.filter_cons_of_neg
  rw [he]
  exact Bool.false_ne_true

/-- An event is written in the same way when the end was recorded. -/
theorem emit_finished (r : Recorder σ τ) (e : TraceEvent τ) :
  ({ r with finished := true } : Recorder σ τ).emit e = { r.emit e with finished := true }
  := by
  simp only [Recorder.emit, Recorder.write]
  split
  · rfl
  · rfl

variable [Quantity τ]

theorem GoesTo.since (h : r.GoesTo env reports s) (start : τ) :
  r.GoesTo env reports (s.since env start).2
  := h.pass (env.later_clock _) rfl rfl

theorem GoesTo.now (h : r.GoesTo env reports s) :
  r.GoesTo env reports (s.now env).2
  := h.pass (env.later_clock _) rfl rfl

/-- A sample of the memory is no report. -/
theorem GoesTo.sample (h : r.GoesTo env reports s) (hb : s.blocked = false) (forced : Bool) :
  r.GoesTo env reports (s.sample env forced)
  := by
  simp only [Recorder.sample]
  split
  · split
    · exact h.now
    · apply GoesTo.emit_other
      · exact h.now.pass (env.later_memory _) rfl rfl
      · exact hb
      · rfl
  · exact h

/-- What is written once more in the end is no report. -/
theorem GoesTo.conclude (h : r.GoesTo env reports s) (hb : s.blocked = false) :
  r.GoesTo env reports (s.conclude env)
  := by
  have hsample := h.sample hb true
  have hblocked : (s.sample env true).blocked = false := by
    rw [← hb]
    exact congrArg Setting.blocked (hsample.setting.trans h.setting.symm)
  rw [Recorder.conclude, andThen]
  split
  · exact hsample
  · exact hsample.now.write_other hblocked rfl

end Recorder

/-! ### Durations -/

namespace Recorder

variable {σ : Type} {env : Instruments σ ℚ} {r : Recorder σ ℚ}

/-- What a recorder measures from a reading on reaches up to all that is past, and once it is measured
it is past itself. -/
theorem since_spec (hforward : env.RunsForward) (hscale : r.scale = 1) (start : ℚ) :
  (∀ time, env.IsPast time r.surroundings → time ≤ start + (r.since env start).1)
    ∧ env.IsPast (start + (r.since env start).1) (r.since env start).2.surroundings
  := by
  have hmeasured : start + (r.since env start).1 = (env.clock r.surroundings).1 := by
    have hmul : (r.since env start).1 = ((env.clock r.surroundings).1 - start) * r.scale := rfl
    rw [hmul, hscale, mul_one, add_sub_cancel]
  rw [hmeasured]
  constructor
  · intro time htime
    exact htime.le_clock
  · apply hforward

end Recorder

end SnippetProfiler.Probe
