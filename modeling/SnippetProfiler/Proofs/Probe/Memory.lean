import Mathlib.Algebra.BigOperators.Group.List.Basic
import Mathlib.Algebra.Order.Ring.Rat
import Mathlib.Tactic.Linarith
import SnippetProfiler.Proofs.Braced.Snippet

/-!
# Samples of the memory

A sample reports the resident bytes and by how much they have changed since the sample before, as
bytes that were allocated or as bytes that were deallocated.  So the changes that the samples report
add up to the change from the first sample to the last one, whatever the meter shows: what a recorder
compares the meter with is always the last sample that it has written, and a request that comes too
soon changes neither that nor the time from which the next interval is counted.

Only the end of a snippet forces a sample, or a snippet that asks for it.  All other requests are
granted when the interval since the last sample has passed.
-/

namespace SnippetProfiler

open Probe (Instruments Note Recorder)

/-! ### Samples -/

namespace Probe

variable {σ τ : Type}

/-- The sample of the memory that a note reports. -/
def Note.sample? : Note τ → Option (MemorySample τ)
  | .event (.memory s) => some s
  | _ => none

/-- The samples of the memory among notes. -/
def samplesOf (ns : List (Note τ)) : List (MemorySample τ) := ns.filterMap Note.sample?

/-- The bytes by which the memory has grown according to samples. -/
def growth (samples : List (MemorySample τ)) : Int :=
  (samples.map (·.allocated)).sum - (samples.map (·.deallocated)).sum

/-- Samples whose changes add up. -/
structure AddUp (samples : List (MemorySample τ)) : Prop where
  /-- Up to any sample, the resident bytes have grown by what the samples report. -/
  resident : ∀ front first last, front <+: samples → front.head? = some first →
    front.getLast? = some last → last.resident = first.resident + growth front
  /-- Bytes are either allocated or deallocated. -/
  change : ∀ s ∈ samples, 0 ≤ s.allocated ∧ 0 ≤ s.deallocated
    ∧ (s.allocated = 0 ∨ s.deallocated = 0)

variable {samples : List (MemorySample τ)}

theorem growth_append (samples others : List (MemorySample τ)) :
  growth (samples ++ others) = growth samples + growth others
  := by
  simp only [growth, List.map_append, List.sum_append]
  omega

theorem addUp_nil :
  AddUp ([] : List (MemorySample τ))
  := by
  constructor
  · intro front first last hfront hfirst
    rw [List.prefix_nil.mp hfront] at hfirst
    cases hfirst
  · rintro s ⟨⟩

/-- Samples add up with one more that reports the change since the last one. -/
theorem AddUp.concat (h : AddUp samples) {s : MemorySample τ}
    (hchange : 0 ≤ s.allocated ∧ 0 ≤ s.deallocated ∧ (s.allocated = 0 ∨ s.deallocated = 0))
    (hempty : samples = [] → growth [s] = 0)
    (hlast : ∀ last, samples.getLast? = some last → s.resident = last.resident + growth [s]) :
  AddUp (samples ++ [s])
  := by
  constructor
  · intro front first last hfront hfirst hend
    rw [List.prefix_concat_iff] at hfront
    obtain rfl | hfront := hfront
    · rw [List.getLast?_concat] at hend
      cases hend
      rw [growth_append]
      cases hbefore : samples.getLast? with
      | none =>
          rw [List.getLast?_eq_none_iff] at hbefore
          rw [hbefore] at hfirst
          cases hfirst
          rw [hempty hbefore, hbefore]
          simp [growth]
      | some before =>
          have hne : samples ≠ [] := by
            rintro rfl
            cases hbefore
          rw [List.head?_append_of_ne_nil _ hne] at hfirst
          rw [hlast before hbefore, h.resident samples first before (List.prefix_refl _) hfirst hbefore]
          omega
    · exact h.resident front first last hfront hfirst hend
  · intro other hother
    rw [List.mem_append, List.mem_singleton] at hother
    obtain hold | rfl := hother
    · exact h.change other hold
    · exact hchange

/-! ### Gauges -/

/-- What a recorder has to do with the memory: whether its output refuses notes, what it remembers of the
last sample, and the samples that it has written. -/
structure Gauge (τ : Type) where
  blocked : Bool
  sampledAt : Option τ
  resident : Option Int
  samples : List (MemorySample τ)

/-- What a recorder has to do with the memory. -/
def Recorder.gauge (r : Recorder σ τ) : Gauge τ :=
  ⟨r.blocked, r.sampledAt, r.resident, samplesOf r.written⟩

namespace Gauge

/-- The sample at a time of what the meter shows. -/
def sampleAt (g : Gauge τ) (time : τ) (resident virtual : Int) : MemorySample τ :=
  let change := match g.resident with
    | some before => resident - before
    | none => 0
  ⟨time, resident, virtual, max change 0, max (-change) 0⟩

variable [Quantity τ]

/-- What becomes of a gauge by a request that is forced or not: a sample is written, or nothing is
changed.  No sample is written too soon, unless it is forced. -/
inductive Goes (forced : Bool) (g : Gauge τ) : Gauge τ → Prop where
  | stays : Goes forced g g
  | samples (time : τ) (resident virtual : Int)
      (interval : forced = false → ∀ last, g.sampledAt = some last →
        Quantity.lt (Quantity.sub time last) Recorder.interval = false) :
      Goes forced g
        { g with
          sampledAt := some time
          resident := some resident
          samples := g.samples ++ [g.sampleAt time resident virtual] }

/-- A gauge that remembers the last sample, and whose samples add up. -/
structure IsSound (g : Gauge τ) : Prop where
  sampledAt : g.sampledAt = g.samples.getLast?.map (·.time)
  resident : g.resident = g.samples.getLast?.map (·.resident)
  addUp : AddUp g.samples

variable {g g' : Gauge τ} {forced : Bool}

theorem Goes.ne_nil (h : Goes forced g g') (hne : g.samples ≠ []) :
  g'.samples ≠ []
  := by
  cases h with
  | stays => exact hne
  | samples => exact List.append_ne_nil_of_right_ne_nil _ (List.cons_ne_nil _ _)

/-- A request keeps a gauge sound. -/
theorem IsSound.goes (h : g.IsSound) (hgoes : Goes forced g g') :
  g'.IsSound
  := by
  cases hgoes with
  | stays => exact h
  | samples time resident virtual hinterval =>
      constructor
      · simp only [List.getLast?_concat]
        rfl
      · simp only [List.getLast?_concat]
        rfl
      · apply h.addUp.concat
        · simp only [sampleAt]
          omega
        · intro hempty
          have hnone : g.resident = none := by
            rw [h.resident, hempty]
            rfl
          simp [growth, sampleAt, hnone]
        · intro last hlast
          have hsome : g.resident = some last.resident := by
            rw [h.resident, hlast]
            rfl
          simp only [growth, sampleAt, hsome, List.map_cons, List.map_nil, List.sum_singleton]
          omega

end Gauge

/-- The samples behind others are at most one, and that one is not written too soon unless it is
forced. -/
def Continues (forced : Bool) (samples samples' : List (MemorySample ℚ)) : Prop :=
  samples' = samples ∨ ∃ s, samples' = samples ++ [s]
    ∧ (forced = false → ∀ last, samples.getLast? = some last → 5 ≤ s.time - last.time)

/-- A request that is not forced is granted when five milliseconds have passed. -/
theorem Gauge.Goes.continues {g g' : Gauge ℚ} {forced : Bool} (hgoes : Goes forced g g')
    (h : g.IsSound) :
  Continues forced g.samples g'.samples
  := by
  cases hgoes with
  | stays => exact .inl rfl
  | samples time resident virtual hinterval =>
      right
      refine ⟨_, rfl, ?_⟩
      intro hforced last hlast
      have hat : g.sampledAt = some last.time := by
        rw [h.sampledAt, hlast]
        rfl
      have hnot := of_decide_eq_false (hinterval hforced last.time hat)
      exact le_of_not_gt hnot

/-- Requests one after the other keep a gauge sound, and the samples that there are. -/
theorem Gauge.isSound_foldl [Quantity τ] {S M : Type} {step : S → M → S} (gauge : S → Gauge τ)
    {Q : S → Prop} (hstep : ∀ s m, Q s → Q (step s m))
    (hgoes : ∀ s m, Q s → ∃ forced, Goes forced (gauge s) (gauge (step s m))) {s : S} (hs : Q s)
    (hsound : (gauge s).IsSound) (moves : List M) :
  Q (moves.foldl step s) ∧ (gauge (moves.foldl step s)).IsSound
    ∧ ((gauge s).samples ≠ [] → (gauge (moves.foldl step s)).samples ≠ [])
  := by
  induction moves generalizing s with
  | nil => exact ⟨hs, hsound, id⟩
  | cons m moves ih =>
      obtain ⟨forced, hm⟩ := hgoes s m hs
      obtain ⟨hq, hlast, hkept⟩ := ih (hstep s m hs) (hsound.goes hm)
      exact ⟨hq, hlast, fun hne => hkept (hm.ne_nil hne)⟩

/-! ### Recorders -/

namespace Recorder

variable {r s : Recorder σ τ}

/-- Nothing but a sample changes the samples. -/
theorem gauge_write {n : Note τ} (hn : n.sample? = none) :
  (r.write n).gauge = r.gauge
  := by
  rw [Recorder.write]
  split
  · rfl
  · simp only [gauge, samplesOf, List.filterMap_append, List.filterMap_cons, hn, List.filterMap_nil,
      List.append_nil]

theorem gauge_emit {e : TraceEvent τ} (he : e.kind ≠ .memory) :
  (r.emit e).gauge = r.gauge
  := by
  apply gauge_write
  cases e with
  | memory s => cases he rfl
  | _ => rfl

theorem gauge_sampled (hopen : r.blocked = false) (s : MemorySample τ) :
  (r.emit (.memory s)).gauge = { r.gauge with samples := r.gauge.samples ++ [s] }
  := by
  rw [emit_of_open hopen, gauge, samplesOf, List.filterMap_append]
  rfl

variable [Quantity τ] {env : Instruments σ τ} {forced : Bool} {late : Late τ}

/-- A recorder that goes on samples nothing. -/
theorem Goes.gauge (hgoes : Recorder.Goes env r s) :
  s.gauge = r.gauge
  := by
  induction hgoes with
  | refl => rfl
  | pass _ surroundings ih => exact ih
  | now _ ih => exact ih
  | emit _ _ _ hkind ih => rw [gauge_emit hkind, ih]

theorem Acts.gauge (hacts : Acts env r late s) :
  s.gauge = r.gauge
  := by
  cases hacts with
  | goes hgoes => exact hgoes.gauge
  | finishes _ hgoes => exact hgoes.gauge
  | event _ hkind => rw [gauge_emit hkind]; rfl
  | crash => rw [gauge_write rfl]

/-- A request samples the memory or changes nothing. -/
theorem goes_sample {g : Gauge τ} (hg : r.gauge = g) (hopen : g.blocked = false) (forced : Bool) :
  Gauge.Goes forced g (r.sample env forced).gauge
  := by
  subst hg
  rw [Recorder.sample]
  split
  · have hnow : (r.now env).2.gauge = r.gauge := rfl
    simp only
    split
    · rw [hnow]
      exact .stays
    · rename_i hsoon
      rw [gauge_sampled]
      · apply Gauge.Goes.samples
        intro hforced last hlast
        have hlast : (r.now env).2.sampledAt = some last := hlast
        simpa [hforced, isSoon, hlast] using hsoon
      · exact hopen
  · exact .stays

/-- A hook requests at most one sample of the memory. -/
theorem IsOrderly.goes_gauge {options : TrackingOptions} (h : r.IsOrderly options)
    (hadvance : Advance env r forced late s) :
  Gauge.Goes forced r.gauge s.gauge
  := by
  have hopen : r.gauge.blocked = false := h.blocked
  cases hadvance with
  | acts hacts =>
      rw [hacts.gauge]
      exact .stays
  | samples hacts => exact goes_sample hacts.gauge hopen forced
  | completes hforced _ hgoes =>
      rw [hforced, (h.finish.goes hgoes).conclude_eq, complete, gauge_write rfl]
      exact goes_sample hgoes.gauge hopen true

/-- A recorder starts with a sample if it tracks the memory. -/
theorem gauge_start (env : Instruments σ τ) (scale : τ) (options : TrackingOptions) (surroundings : σ) :
  ((start env scale options surroundings).sample env true).gauge.IsSound
    ∧ (options.memory = true →
      ((start env scale options surroundings).sample env true).gauge.samples ≠ [])
  := by
  have hstart : (start env scale options surroundings).gauge.IsSound := ⟨rfl, rfl, addUp_nil⟩
  constructor
  · exact hstart.goes (goes_sample rfl rfl true)
  · intro hmemory hnone
    obtain ⟨s, hs⟩ :=
      (isOrderly_start env scale options surroundings).getLast?_sample hmemory
    have hmem : s ∈ ((start env scale options surroundings).sample env true).gauge.samples :=
      List.mem_filterMap.mpr ⟨_, List.mem_of_getLast? hs, rfl⟩
    rw [hnone] at hmem
    cases hmem

end Recorder

end Probe

open Probe (AddUp Continues growth samplesOf)

/-! ### Snippets of both languages -/

/-- Whatever a snippet does after its start, and whatever the clock and the meter show, the changes of its
samples add up; there are samples if the memory is tracked; and whatever the snippet does next, it adds at
most one sample, which does not come within five milliseconds of the last one unless it is forced. -/
theorem snippet_samples_addUp {σ : Type} (env : Instruments σ ℚ) (options : TrackingOptions) :
  (∀ mapping lines script surroundings (moves : List (Indented.Move σ)),
    let p := (Indented.Snippet.start env options mapping lines script surroundings).run env moves
    AddUp (samplesOf p.collector.written)
      ∧ (options.memory = true → samplesOf p.collector.written ≠ [])
      ∧ ∀ m, Continues m.forces (samplesOf p.collector.written)
        (samplesOf (p.step env m).collector.written)) ∧
  (∀ lines script offset next surroundings (moves : List (Braced.Move σ)),
    let p := (Braced.Snippet.start env options lines script offset next surroundings).run env moves
    AddUp (samplesOf p.collector.written)
      ∧ (options.memory = true → samplesOf p.collector.written ≠ [])
      ∧ ∀ m, Continues m.forces (samplesOf p.collector.written)
        (samplesOf (p.step env m).collector.written))
  := by
  constructor
  · intro mapping lines script surroundings moves p
    have hstart := Indented.Snippet.isOrderly_start env options mapping lines script surroundings
    obtain ⟨hsound, hne⟩ := Probe.Recorder.gauge_start env (Quantity.ofInt 1000) options
      surroundings
    obtain ⟨hp, hsound, hkept⟩ := Probe.Gauge.isSound_foldl
      (fun q : Indented.Snippet σ ℚ => q.collector.toRecorder.gauge)
      (fun q m hq => hq.step m) (fun q m hq => ⟨_, hq.recorder.goes_gauge (hq.advance m)⟩) hstart
      hsound moves
    refine ⟨hsound.addUp, fun hmemory => hkept (hne hmemory), ?_⟩
    exact fun m => (hp.recorder.goes_gauge (hp.advance m)).continues hsound
  · intro lines script offset next surroundings moves p
    have hstart := Braced.Snippet.isOrderly_start env options lines script offset next surroundings
    obtain ⟨hsound, hne⟩ := Probe.Recorder.gauge_start env (Quantity.ofInt 1) options
      surroundings
    obtain ⟨hp, hsound, hkept⟩ := Probe.Gauge.isSound_foldl
      (fun q : Braced.Snippet σ ℚ => q.collector.toRecorder.gauge)
      (fun q m hq => hq.step m) (fun q m hq => ⟨_, hq.recorder.goes_gauge (hq.advance m)⟩) hstart
      hsound moves
    refine ⟨hsound.addUp, fun hmemory => hkept (hne hmemory), ?_⟩
    exact fun m => (hp.recorder.goes_gauge (hp.advance m)).continues hsound

/-- Instruments whose clock goes on by four milliseconds with each reading, while the memory grows and is
given back. -/
def breathing : Instruments Nat ℚ :=
  ⟨fun n => (n / 250, n + 1), fun n => ((if n < 5 then 10 * n else 7, 0), n)⟩

/-- A snippet asks for a sample too soon, then once more, and ends. -/
theorem snippet_samples_addUp_breathing :
  let p := (Indented.Snippet.start breathing {} none [] "" 0).run breathing
    [.sample false, .sample false, .finish none]
  (samplesOf p.collector.written).map (·.time) = [4, 12, 16]
    ∧ (samplesOf p.collector.written).map (·.resident) = [20, 40, 7]
    ∧ growth (samplesOf p.collector.written) = 7 - 20
    ∧ AddUp (samplesOf p.collector.written)
    ∧ Continues false (samplesOf p.collector.written)
      (samplesOf (p.step breathing (.sample false)).collector.written)
  := by
  intro p
  obtain ⟨haddUp, -, hcontinues⟩ := (snippet_samples_addUp breathing {}).1 none [] "" 0
    [.sample false, .sample false, .finish none]
  refine ⟨?_, ?_, ?_, haddUp, hcontinues (.sample false)⟩
  · decide +kernel
  · decide +kernel
  · decide +kernel

end SnippetProfiler
