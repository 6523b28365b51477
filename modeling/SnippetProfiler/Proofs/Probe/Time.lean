import SnippetProfiler.Proofs.Braced.Snippet

/-!
# The times of notes

A note of an event tells the time of the event, and a note of a completed program tells how long
the program took.  A recorder is steady when none of the times that it has told, and none of those
that it owes, is after its latest time.  However it advances, it stays steady, and however its clock
jumps, as long as the readings of the clock are finite.

An event that is written at once therefore never goes back.  An event that is written late tells a
time that was taken before: the text of a value may write events first, and they may be later.  So
the times of a snippet go back exactly where an event is written late that is not punctual.
-/

namespace SnippetProfiler.Probe

variable {σ : Type}

/-- A completed program took no less time than any event tells that was written before its end. -/
def CompletesLast (ns : List (Note Float)) : Prop :=
  ∀ before time record after, ns = before ++ .complete time record :: after →
    ∀ e ∈ eventsOf before, e.time ≤ time

/-- Notes whose times never go back: no event is earlier than one that was written before it, and
no completed program took less than the time of an event that was written before its end. -/
structure NeverGoBack (ns : List (Note Float)) : Prop where
  events : (eventsOf ns).Pairwise fun d e => d.time ≤ e.time
  completes : CompletesLast ns

/-- No event of some kinds is earlier than one of them that was written before it. -/
def InTime (P : EventKind → Prop) (ns : List (Note Float)) : Prop :=
  (eventsOf ns).Pairwise fun d e => P d.kind → P e.kind → d.time ≤ e.time

/-- An event of some kinds that is written late is not earlier than those that were written before
it. -/
def Late.IsPunctual (P : EventKind → Prop) (ns : List (Note Float)) (late : Late Float) : Prop :=
  ∀ kind time, late = .event kind time → P kind → ∀ e ∈ eventsOf ns, P e.kind → e.time ≤ time

variable {P : EventKind → Prop} {ns : List (Note Float)}

theorem inTime_concat_event (e : TraceEvent Float) :
  InTime P (ns ++ [.event e])
    ↔ InTime P ns ∧ (P e.kind → ∀ d ∈ eventsOf ns, P d.kind → d.time ≤ e.time)
  := by
  have hevents : eventsOf (ns ++ [.event e]) = eventsOf ns ++ [e] := eventsOf_append ..
  rw [InTime, hevents, List.pairwise_append]
  constructor
  · rintro ⟨hns, -, hlast⟩
    exact ⟨hns, fun he d hd hk => hlast d hd e (List.mem_singleton_self e) hk he⟩
  · rintro ⟨hns, hlast⟩
    refine ⟨hns, List.pairwise_singleton .., ?_⟩
    intro d hd d' hd' hk hk'
    rw [List.mem_singleton.mp hd'] at hk' ⊢
    exact hlast hk' d hd hk

theorem inTime_concat_other {n : Note Float} (hn : n.event? = none) :
  InTime P (ns ++ [n]) ↔ InTime P ns
  := by
  rw [InTime, eventsOf_concat_other _ hn]
  rfl

theorem CompletesLast.concat (h : CompletesLast ns) {n : Note Float}
    (hn : ∀ time record, n = .complete time record → ∀ e ∈ eventsOf ns, e.time ≤ time) :
  CompletesLast (ns ++ [n])
  := by
  intro before time record after hsplit
  rcases concat_eq_append_cons hsplit with ⟨rfl, hlast⟩ | ⟨rest, hrest⟩
  · exact hn time record hlast
  · exact h before time record rest hrest

theorem Late.isPunctual_nothing :
  Late.IsPunctual P ns .nothing
  := nofun

theorem Late.isPunctual_crash :
  Late.IsPunctual P ns .crash
  := nofun

theorem Late.isPunctual_event (kind : EventKind) (time : Float) :
  Late.IsPunctual P ns (.event kind time)
    ↔ (P kind → ∀ e ∈ eventsOf ns, P e.kind → e.time ≤ time)
  := by
  constructor
  · intro h
    exact h kind time rfl
  · rintro h _ _ ⟨⟩
    exact h

namespace Recorder

/-- A recorder whose latest time is not before the times that it has told and those that it owes. -/
structure IsSteady (owes : Float → Prop) (r : Recorder σ Float) : Prop where
  scale : Quantity.IsProper r.scale
  started : r.started.isFinite = true
  latest : r.latest.isNaN = false
  past : ∀ e ∈ eventsOf r.written, e.time ≤ r.latest
  owed : ∀ time, owes time → time ≤ r.latest
  completes : CompletesLast r.written

variable {r s : Recorder σ Float} {owes owing : Float → Prop} {options : TrackingOptions}

/-- A recorder is steady when it has what a steady one has. -/
theorem IsSteady.congr (h : r.IsSteady owes) (hs : s.scale = r.scale) (ht : s.started = r.started)
    (hl : s.latest = r.latest) (hw : s.written = r.written) :
  s.IsSteady owes
  := by
  constructor
  · rw [hs]
    apply h.scale
  · rw [ht, h.started]
  · rw [hl, h.latest]
  · rw [hw, hl]
    apply h.past
  · rw [hl]
    apply h.owed
  · rw [hw]
    apply h.completes

/-! ### Writing -/

/-- An event that is not after the latest time keeps a recorder steady. -/
theorem IsSteady.emit (h : r.IsSteady owes) (hopen : r.blocked = false) {e : TraceEvent Float}
    (he : e.time ≤ r.latest) :
  (r.emit e).IsSteady owes
  := by
  rw [emit_of_open hopen]
  constructor
  · apply h.scale
  · apply h.started
  · apply h.latest
  · intro d hd
    have hevents : eventsOf (r.written ++ [.event e]) = eventsOf r.written ++ [e] :=
      eventsOf_append ..
    rw [hevents, List.mem_append, List.mem_singleton] at hd
    obtain hd | rfl := hd
    · exact h.past d hd
    · exact he
  · apply h.owed
  · apply h.completes.concat
    rintro time record ⟨⟩

/-- A note of the end keeps a recorder steady, if it tells no time before the latest one. -/
theorem IsSteady.ending (h : r.IsSteady owes) (hopen : r.blocked = false) {n : Note Float}
    (hn : n.event? = none) (ht : ∀ time record, n = .complete time record → time = r.latest) :
  (r.write n).IsSteady owes
  := by
  rw [write_of_open hopen]
  constructor
  · apply h.scale
  · apply h.started
  · apply h.latest
  · rw [eventsOf_concat_other _ hn]
    apply h.past
  · apply h.owed
  · apply h.completes.concat
    intro time record heq
    rw [ht time record heq]
    apply h.past

/-- An event at the latest time is in time. -/
theorem IsSteady.inTime_emit_iff (h : r.IsSteady owes) (hopen : r.blocked = false)
    {e : TraceEvent Float} (he : e.time = r.latest) :
  InTime P (r.emit e).written ↔ InTime P r.written
  := by
  rw [emit_of_open hopen, inTime_concat_event, he]
  apply and_iff_left
  intro _ d hd _
  exact h.past d hd

/-! ### Time -/

variable {env : Instruments σ Float} (hclock : ∀ s, (env.clock s).1.isFinite = true)

include hclock

/-- The time is never before the latest one. -/
theorem IsSteady.le_now (h : r.IsSteady owes) :
  r.latest ≤ (r.now env).1
  := by
  have hnumber : (r.since env r.started).1.isNaN = false := by
    apply Quantity.isNaN_mul
    · apply Quantity.isNaN_sub
      · apply hclock
      · apply h.started
    · apply h.scale
  simp only [Recorder.now]
  split
  · apply Quantity.le_self h.latest
  · rename_i hlt
    apply Quantity.le_iff.mpr
    use h.latest, hnumber
    apply not_lt.mp
    rw [← Quantity.lt_iff_rank hnumber h.latest]
    apply hlt

/-- Taking the time keeps a recorder steady. -/
theorem IsSteady.now (h : r.IsSteady owes) :
  (r.now env).2.IsSteady owes
  := by
  have hle := h.le_now hclock
  constructor
  · apply h.scale
  · apply h.started
  · apply (Quantity.le_iff.mp hle).2.1
  · intro e he
    apply Quantity.le_of_le_of_le (h.past e he) hle
  · intro time htime
    apply Quantity.le_of_le_of_le (h.owed time htime) hle
  · apply h.completes

/-! ### Going on -/

/-- A recorder that goes on stays steady, and its events stay in time. -/
theorem IsSteady.goes (h : r.IsSteady owes) (ho : r.IsOrderly options) (hgoes : Goes env r s) :
  s.IsSteady owes ∧ (InTime P s.written ↔ InTime P r.written)
  := by
  induction hgoes with
  | refl => exact ⟨h, Iff.rfl⟩
  | pass _ surroundings ih => exact ⟨ih.1.congr rfl rfl rfl rfl, ih.2⟩
  | now _ ih => exact ⟨ih.1.now hclock, ih.2⟩
  | @emit s hgoes e htime _ _ ih =>
      obtain ⟨hs, hiff⟩ := ih
      have hopen := (ho.goes hgoes).blocked
      constructor
      · apply hs.emit hopen
        rw [htime]
        apply Quantity.le_self hs.latest
      · rw [hs.inTime_emit_iff hopen htime, hiff]

/-- Sampling the memory keeps a recorder steady, and its events in time. -/
theorem IsSteady.sample (h : r.IsSteady owes) (ho : r.IsOrderly options) (forced : Bool) :
  (r.sample env forced).IsSteady owes
    ∧ (InTime P (r.sample env forced).written ↔ InTime P r.written)
  := by
  have hnow := h.now hclock
  obtain heq | heq | ⟨q, s, heq, hq, htime, -⟩ := sample_cases r forced
  · rw [heq]
    exact ⟨h, Iff.rfl⟩
  · rw [heq]
    exact ⟨hnow, Iff.rfl⟩
  · have hsteady : q.IsSteady owes := by
      rw [hq]
      exact hnow.congr rfl rfl rfl rfl
    have hopen : q.blocked = false := by
      rw [hq]
      exact ho.blocked
    have hwritten : q.written = r.written := by
      rw [hq]
      rfl
    have hevent : (TraceEvent.memory s).time = q.latest := htime
    rw [heq, hsteady.inTime_emit_iff hopen hevent, hwritten]
    constructor
    · apply hsteady.emit hopen
      rw [hevent]
      apply Quantity.le_self hsteady.latest
    · rfl

/-- Writing everything once more keeps a recorder steady, and its events in time. -/
theorem IsSteady.conclude (h : r.IsSteady owes) (ho : r.IsOrderly options) :
  (r.conclude env).IsSteady owes ∧ (InTime P (r.conclude env).written ↔ InTime P r.written)
  := by
  obtain ⟨hsample, hiff⟩ := h.sample (P := P) hclock ho true
  have hopen : ((r.sample env true).now env).2.blocked = false := (ho.sample true).blocked
  rw [ho.conclude_eq, complete]
  constructor
  · apply (hsample.now hclock).ending hopen rfl
    rintro time record ⟨⟩
    rfl
  · rw [← hiff]
    show InTime P (((r.sample env true).now env).2.write _).written ↔ _
    rw [write_of_open hopen, inTime_concat_other rfl]
    rfl

/-! ### Hooks -/

theorem IsSteady.acts (h : r.IsSteady owes) (ho : r.IsOrderly options) {late : Late Float}
    (hacts : Acts env r late s) (hlate : ∀ kind time, late = .event kind time → owes time) :
  s.IsSteady owes ∧ (InTime P s.written ↔ InTime P r.written ∧ late.IsPunctual P r.written)
  := by
  have hfinish : ({ r with finished := true } : Recorder σ Float).IsSteady owes :=
    h.congr rfl rfl rfl rfl
  cases hacts with
  | goes hgoes =>
      rw [and_iff_left Late.isPunctual_nothing]
      exact h.goes hclock ho hgoes
  | finishes _ hgoes =>
      obtain ⟨hs, hiff⟩ := hfinish.goes (P := P) hclock ho.finish hgoes
      rw [and_iff_left Late.isPunctual_nothing]
      exact ⟨hs, hiff⟩
  | @event surroundings e _ _ =>
      have hpassed : ({ r with surroundings } : Recorder σ Float).IsSteady owes :=
        h.congr rfl rfl rfl rfl
      constructor
      · apply hpassed.emit ho.blocked
        apply h.owed
        exact hlate e.kind e.time rfl
      · rw [(ho.pass surroundings).emit_eq, inTime_concat_event, Late.isPunctual_event]
  | crash _ _ crash =>
      rw [and_iff_left Late.isPunctual_crash]
      constructor
      · apply h.ending ho.blocked rfl
        rintro time record ⟨⟩
      · rw [write_of_open ho.blocked, inTime_concat_other rfl]

/-- A hook that writes late only what is owed keeps a recorder steady, and its events in time
exactly when it writes punctually. -/
theorem IsSteady.advance (h : r.IsSteady owes) (ho : r.IsOrderly options) {forced : Bool}
    {late : Late Float} (hadvance : Advance env r forced late s)
    (hlate : ∀ kind time, late = .event kind time → owes time) :
  s.IsSteady owes ∧ (InTime P s.written ↔ InTime P r.written ∧ late.IsPunctual P r.written)
  := by
  cases hadvance with
  | acts hacts => exact h.acts hclock ho hacts hlate
  | samples hacts =>
      obtain ⟨hs, hiff⟩ := h.acts (P := P) hclock ho hacts hlate
      rw [← hiff]
      exact hs.sample hclock (ho.acts hacts) forced
  | @completes s _ _ hgoes =>
      have hfinish : ({ r with finished := true } : Recorder σ Float).IsSteady owes :=
        h.congr rfl rfl rfl rfl
      obtain ⟨hs, hiff⟩ := hfinish.goes (P := P) hclock ho.finish hgoes
      rw [and_iff_left Late.isPunctual_nothing, ← hiff]
      exact hs.conclude hclock (ho.finish.goes hgoes)

omit hclock

/-- What is owed behind a hook was owed before, or is the latest time. -/
theorem IsSteady.owe (h : r.IsSteady owes)
    (howing : ∀ time, owing time → owes time ∨ time = r.latest) :
  r.IsSteady owing
  := by
  refine { h with owed := ?_ }
  intro time htime
  obtain htime | rfl := howing time htime
  · exact h.owed time htime
  · apply Quantity.le_self h.latest

/-- A recorder is steady when it starts with a sample of the memory. -/
theorem isSteady_start (hclock : ∀ s, (env.clock s).1.isFinite = true) {scale : Float}
    (hs : Quantity.IsProper scale) (options : TrackingOptions) (surroundings : σ)
    (howes : ∀ time, ¬ owes time) :
  ((start env scale options surroundings).sample env true).IsSteady owes
    ∧ InTime P ((start env scale options surroundings).sample env true).written
  := by
  have hstart : (start env scale options surroundings).IsSteady owes := by
    constructor
    · apply hs
    · apply hclock
    · apply Quantity.isNaN_zero
    · rintro e ⟨⟩
    · intro time htime
      cases howes time htime
    · intro before time record after h
      cases List.append_ne_nil_of_right_ne_nil before (List.cons_ne_nil _ _) h.symm
  obtain ⟨hsample, hiff⟩ := hstart.sample (P := P) hclock
    (isOrderly_start env scale options surroundings) true
  exact ⟨hsample, hiff.mpr List.Pairwise.nil⟩

end Recorder

end SnippetProfiler.Probe

namespace SnippetProfiler

open Probe (CompletesLast InTime Instruments NeverGoBack eventsOf)
open Probe.Recorder (IsSteady)

variable {σ : Type} {env : Instruments σ Float} {options : TrackingOptions}

/-! ### Python snippets -/

namespace Indented

/-- The time of a variable is the latest one when its text is asked for. -/
theorem Collector.time_of_beginAssign {c : Collector σ Float} {name : String} {value : Value}
    {line : Option Int} {a : Binding Float}
    (h : (c.beginAssign env name value line).1 = some a) :
  a.time = (c.beginAssign env name value line).2.latest
  := by
  have hassignments := tracked_of_beginAssign h
  rw [Collector.beginAssign, if_pos hassignments] at h ⊢
  cases h
  rfl

namespace Snippet

/-- The times of the variables whose values have no texts. -/
def Owes (p : Snippet σ Float) (time : Float) : Prop := ∃ a, some a ∈ p.assigned ∧ a.time = time

variable {p : Snippet σ Float}

/-- What is written late is owed. -/
theorem owes_of_late {m : Move σ} {kind : EventKind} {time : Float}
    (h : p.late m = .event kind time) :
  kind = .variableState ∧ p.Owes time
  := by
  cases m with
  | valueText number =>
      simp only [Snippet.late] at h
      split at h
      · rename_i a ha
        cases h
        exact ⟨rfl, a, List.mem_of_getElem? ha, rfl⟩
      · cases h
  | crashText =>
      simp only [Snippet.late] at h
      split at h
      · cases h
      · cases h
  | _ => cases h

/-- What is owed behind a move was owed before, or was begun at the latest time. -/
theorem owes_step (m : Move σ) {time : Float} (h : (p.step env m).Owes time) :
  p.Owes time ∨ time = (p.step env m).collector.latest
  := by
  obtain ⟨a, ha, rfl⟩ := h
  cases m with
  | assign name value line =>
      rcases List.mem_append.mp ha with ha | ha
      · exact .inl ⟨a, ha, rfl⟩
      · exact .inr (Collector.time_of_beginAssign (List.mem_singleton.mp ha).symm)
  | valueText number =>
      left
      simp only [Snippet.step] at ha
      split at ha
      · exact ⟨a, Probe.mem_of_mem_set_none ha, rfl⟩
      · exact ⟨a, ha, rfl⟩
  | closeLine number | leave number | argumentTexts number summaries | crashText =>
      left
      simp only [Snippet.step] at ha
      split at ha
      · exact ⟨a, ha, rfl⟩
      · exact ⟨a, ha, rfl⟩
  | _ => exact .inl ⟨a, ha, rfl⟩

variable (hclock : ∀ s, (env.clock s).1.isFinite = true)

include hclock

/-- A move keeps the recorder of a snippet steady, and its events in time exactly when it writes
punctually. -/
theorem isSteady_step (ho : p.IsOrderly options) (h : p.collector.toRecorder.IsSteady p.Owes)
    (P : EventKind → Prop) (m : Move σ) :
  (p.step env m).collector.toRecorder.IsSteady (p.step env m).Owes
    ∧ (InTime P (p.step env m).collector.written
      ↔ InTime P p.collector.written ∧ (p.late m).IsPunctual P p.collector.written)
  := by
  obtain ⟨hs, hiff⟩ := h.advance (P := P) hclock ho.recorder (ho.advance m)
    fun kind time hlate => (owes_of_late hlate).2
  exact ⟨hs.owe fun time => owes_step m, hiff⟩

/-- Moves keep the recorder of a snippet steady, and its events in time exactly when each of them
writes punctually. -/
theorem isSteady_run (ho : p.IsOrderly options) (h : p.collector.toRecorder.IsSteady p.Owes)
    {P : EventKind → Prop} (hin : InTime P p.collector.written) (moves : List (Move σ)) :
  (p.run env moves).collector.toRecorder.IsSteady (p.run env moves).Owes
    ∧ (InTime P (p.run env moves).collector.written ↔ ∀ before m, before ++ [m] <+: moves →
      ((p.run env before).late m).IsPunctual P (p.run env before).collector.written)
  := by
  have hrun := Probe.foldl_iff (P := fun q : Snippet σ Float => InTime P q.collector.written)
    (Q := fun q => q.IsOrderly options ∧ q.collector.toRecorder.IsSteady q.Owes)
    (R := fun q m => (q.late m).IsPunctual P q.collector.written)
    (fun q m ⟨ho, h⟩ =>
      have ⟨hsteady, hiff⟩ := isSteady_step hclock ho h P m
      ⟨⟨ho.step m, hsteady⟩, hiff⟩)
    hin ⟨ho, h⟩ moves
  exact ⟨hrun.1.2, hrun.2⟩

/-- The recorder of a snippet is steady when it starts. -/
theorem isSteady_start (options : TrackingOptions) (mapping : Option (List (Int × Option Int)))
    (lines : List String) (script : String) (surroundings : σ) (P : EventKind → Prop) :
  let p := start env options mapping lines script surroundings
  p.collector.toRecorder.IsSteady p.Owes ∧ InTime P p.collector.written
  := by
  apply Probe.Recorder.isSteady_start hclock Quantity.isProper_thousand
  rintro time ⟨a, ⟨⟩, -⟩

end Snippet

end Indented

/-! ### JavaScript snippets -/

namespace Braced

namespace Collector

variable {c : Collector σ Float}

/-- The time of a variable is the latest one when its text is asked for. -/
theorem time_of_beginAssign {name : String} {value : Value} {line : Option Int}
    {a : Binding Float} (h : (c.beginAssign env name value line).1 = some a) :
  a.time = (c.beginAssign env name value line).2.latest
  := by
  have hassignments := tracked_of_beginAssign h
  rw [Collector.beginAssign, if_pos hassignments] at h ⊢
  cases h
  rfl

/-- The time of a call is the latest one when the texts of its arguments are asked for. -/
theorem time_of_beginLeave {entry : Option (Entry Float)} {d : Departure Float}
    (h : (c.beginLeave env entry).1 = some d) :
  d.time = (c.beginLeave env entry).2.latest
  := by
  cases entry with
  | none => cases h
  | some e =>
      cases h
      rfl

end Collector

namespace Snippet

/-- The times of the variables whose values, and of the calls whose arguments have no texts. -/
def Owes (p : Snippet σ Float) (time : Float) : Prop :=
  (∃ a, some a ∈ p.assigned ∧ a.time = time) ∨ ∃ d, some d ∈ p.leaving ∧ d.time = time

variable {p : Snippet σ Float}

/-- What is written late is owed. -/
theorem owes_of_late {m : Move σ} {kind : EventKind} {time : Float}
    (h : p.late m = .event kind time) :
  p.Owes time
  := by
  cases m with
  | valueText number =>
      simp only [Snippet.late] at h
      split at h
      · rename_i a ha
        cases h
        exact .inl ⟨a, List.mem_of_getElem? ha, rfl⟩
      · cases h
  | argumentTexts number arguments =>
      simp only [Snippet.late] at h
      split at h
      · rename_i d hd
        cases h
        exact .inr ⟨d, List.mem_of_getElem? hd, rfl⟩
      · cases h
  | crashText =>
      simp only [Snippet.late] at h
      split at h
      · cases h
      · cases h
  | _ => cases h

/-- What is owed behind a move was owed before, or was begun at the latest time. -/
theorem owes_step (m : Move σ) {time : Float} (h : (p.step env m).Owes time) :
  p.Owes time ∨ time = (p.step env m).collector.latest
  := by
  cases m with
  | assign name value line =>
      obtain ⟨a, ha, rfl⟩ | hleaving := h
      · rcases List.mem_append.mp ha with ha | ha
        · exact .inl (.inl ⟨a, ha, rfl⟩)
        · exact .inr (Collector.time_of_beginAssign (List.mem_singleton.mp ha).symm)
      · exact .inl (.inr hleaving)
  | leave number =>
      simp only [Snippet.step] at h ⊢
      split at h
      · obtain hassigned | ⟨d, hd, rfl⟩ := h
        · exact .inl (.inl hassigned)
        · rcases List.mem_append.mp hd with hd | hd
          · exact .inl (.inr ⟨d, hd, rfl⟩)
          · exact .inr (Collector.time_of_beginLeave (List.mem_singleton.mp hd).symm)
      · exact .inl h
  | valueText number =>
      left
      simp only [Snippet.step] at h
      split at h
      · obtain ⟨a, ha, rfl⟩ | hleaving := h
        · exact .inl ⟨a, Probe.mem_of_mem_set_none ha, rfl⟩
        · exact .inr hleaving
      · exact h
  | argumentTexts number arguments =>
      left
      simp only [Snippet.step] at h
      split at h
      · obtain hassigned | ⟨d, hd, rfl⟩ := h
        · exact .inl hassigned
        · exact .inr ⟨d, Probe.mem_of_mem_set_none hd, rfl⟩
      · exact h
  | resumeLine number | crashText =>
      left
      simp only [Snippet.step] at h
      split at h
      · exact h
      · exact h
  | _ => exact .inl h

variable (hclock : ∀ s, (env.clock s).1.isFinite = true)

include hclock

/-- A move keeps the recorder of a snippet steady, and its events in time exactly when it writes
punctually. -/
theorem isSteady_step (ho : p.IsOrderly options) (h : p.collector.toRecorder.IsSteady p.Owes)
    (P : EventKind → Prop) (m : Move σ) :
  (p.step env m).collector.toRecorder.IsSteady (p.step env m).Owes
    ∧ (InTime P (p.step env m).collector.written
      ↔ InTime P p.collector.written ∧ (p.late m).IsPunctual P p.collector.written)
  := by
  obtain ⟨hs, hiff⟩ := h.advance (P := P) hclock ho.recorder (ho.advance m)
    fun kind time hlate => owes_of_late hlate
  exact ⟨hs.owe fun time => owes_step m, hiff⟩

/-- Moves keep the recorder of a snippet steady, and its events in time exactly when each of them
writes punctually. -/
theorem isSteady_run (ho : p.IsOrderly options) (h : p.collector.toRecorder.IsSteady p.Owes)
    {P : EventKind → Prop} (hin : InTime P p.collector.written) (moves : List (Move σ)) :
  (p.run env moves).collector.toRecorder.IsSteady (p.run env moves).Owes
    ∧ (InTime P (p.run env moves).collector.written ↔ ∀ before m, before ++ [m] <+: moves →
      ((p.run env before).late m).IsPunctual P (p.run env before).collector.written)
  := by
  have hrun := Probe.foldl_iff (P := fun q : Snippet σ Float => InTime P q.collector.written)
    (Q := fun q => q.IsOrderly options ∧ q.collector.toRecorder.IsSteady q.Owes)
    (R := fun q m => (q.late m).IsPunctual P q.collector.written)
    (fun q m ⟨ho, h⟩ =>
      have ⟨hsteady, hiff⟩ := isSteady_step hclock ho h P m
      ⟨⟨ho.step m, hsteady⟩, hiff⟩)
    hin ⟨ho, h⟩ moves
  exact ⟨hrun.1.2, hrun.2⟩

/-- The recorder of a snippet is steady when it starts. -/
theorem isSteady_start (options : TrackingOptions) (lines : List String) (script : String)
    (offset : Int) (next : Nat) (surroundings : σ) (P : EventKind → Prop) :
  let p := start env options lines script offset next surroundings
  p.collector.toRecorder.IsSteady p.Owes ∧ InTime P p.collector.written
  := by
  apply Probe.Recorder.isSteady_start hclock Quantity.isProper_one
  rintro time (⟨a, ⟨⟩, -⟩ | ⟨d, ⟨⟩, -⟩)

end Snippet

end Braced

/-! ### Snippets of both languages -/

/-- Notes never go back exactly when all their events are in time, if a completed program took no less
time than any event tells. -/
theorem Probe.neverGoBack_iff {ns : List (Note Float)} (h : CompletesLast ns) :
  NeverGoBack ns ↔ InTime (fun _ => True) ns
  := by
  constructor
  · exact fun hns => hns.events.imp fun hle _ _ => hle
  · exact fun hns => ⟨hns.imp fun hle => hle trivial trivial, h⟩

theorem Probe.Late.isPunctual_true {ns : List (Note Float)} {late : Late Float} :
  late.IsPunctual (fun _ => True) ns
    ↔ ∀ kind time, late = .event kind time → ∀ e ∈ eventsOf ns, e.time ≤ time
  := by
  simp only [Late.IsPunctual, true_imp_iff]

/-- Whatever a snippet does after its start, and however its clock jumps between finite readings, a
completed program took no less time than any event tells that was written before its end; and the
times of all its notes never go back exactly when no event that is written late tells a time before
that of an event that was written before it. -/
theorem snippet_neverGoesBack_iff (hclock : ∀ s, (env.clock s).1.isFinite = true)
    (options : TrackingOptions) :
  (∀ mapping lines script surroundings (moves : List (Indented.Move σ)),
    let p := (Indented.Snippet.start env options mapping lines script surroundings).run env
    CompletesLast (p moves).collector.written
      ∧ (NeverGoBack (p moves).collector.written
        ↔ ∀ before m, before ++ [m] <+: moves → ∀ kind time,
          (p before).late m = .event kind time →
            ∀ e ∈ eventsOf (p before).collector.written, e.time ≤ time)) ∧
  (∀ lines script offset next surroundings (moves : List (Braced.Move σ)),
    let p := (Braced.Snippet.start env options lines script offset next surroundings).run env
    CompletesLast (p moves).collector.written
      ∧ (NeverGoBack (p moves).collector.written
        ↔ ∀ before m, before ++ [m] <+: moves → ∀ kind time,
          (p before).late m = .event kind time →
            ∀ e ∈ eventsOf (p before).collector.written, e.time ≤ time))
  := by
  constructor
  · intro mapping lines script surroundings moves p
    have ho := Indented.Snippet.isOrderly_start env options mapping lines script surroundings
    obtain ⟨hs, hin⟩ := Indented.Snippet.isSteady_start hclock options mapping lines script
      surroundings fun _ => True
    obtain ⟨hsteady, hiff⟩ := Indented.Snippet.isSteady_run hclock ho hs hin moves
    refine ⟨hsteady.completes, (Probe.neverGoBack_iff hsteady.completes).trans ?_⟩
    simp only [hiff, Probe.Late.isPunctual_true]
    rfl
  · intro lines script offset next surroundings moves p
    have ho := Braced.Snippet.isOrderly_start env options lines script offset next surroundings
    obtain ⟨hs, hin⟩ := Braced.Snippet.isSteady_start hclock options lines script offset next
      surroundings fun _ => True
    obtain ⟨hsteady, hiff⟩ := Braced.Snippet.isSteady_run hclock ho hs hin moves
    refine ⟨hsteady.completes, (Probe.neverGoBack_iff hsteady.completes).trans ?_⟩
    simp only [hiff, Probe.Late.isPunctual_true]
    rfl

/-- Instruments whose clock leaps once, by one. -/
def leaping : Instruments Nat Float :=
  ⟨fun n => (if n < 4 then 1 else 2, n + 1), fun n => ((0, 0), n)⟩

theorem isFinite_leaping (n : Nat) :
  (leaping.clock n).1.isFinite = true
  := by
  simp only [leaping]
  split
  · decide
  · decide

/-- A Python snippet that gives variables values whose texts call no hooks. -/
def Indented.assigning : List (Indented.Move Nat) :=
  [.assign "x" .none (some 1), .valueText 0, .assign "x" .none (some 2), .valueText 1, .finish none]

/-- A JavaScript snippet that gives a variable a value and makes a call, whose texts call no
hooks. -/
def Braced.assigning : List (Braced.Move Nat) :=
  [.enter "f", .assign "x" .null (some 1), .valueText 0, .leave 0, .argumentTexts 0 [.null],
    .finish none]

/-- The times of snippets whose texts call no hooks never go back. -/
theorem snippet_neverGoesBack_iff_assigning :
  (∀ n, (leaping.clock n).1.isFinite = true) ∧
    NeverGoBack ((Indented.Snippet.start leaping {} none [] "" 0).run leaping
      Indented.assigning).collector.written ∧
    NeverGoBack ((Braced.Snippet.start leaping {} [] "" 0 0 0).run leaping
      Braced.assigning).collector.written
  := by
  have h := snippet_neverGoesBack_iff isFinite_leaping {}
  refine ⟨isFinite_leaping, (h.1 none [] "" 0 Indented.assigning).2.mpr ?_,
    (h.2 [] "" 0 0 0 Braced.assigning).2.mpr ?_⟩
  · rw [Probe.forall_prefix_iff]
    intro i
    fin_cases i
    · rintro kind time ⟨⟩
    · rintro kind time ⟨⟩
      decide +kernel
    · rintro kind time ⟨⟩
    · rintro kind time ⟨⟩
      decide +kernel
    · rintro kind time ⟨⟩
  · rw [Probe.forall_prefix_iff]
    intro i
    fin_cases i
    · rintro kind time ⟨⟩
    · rintro kind time ⟨⟩
    · rintro kind time ⟨⟩
      decide +kernel
    · rintro kind time ⟨⟩
    · rintro kind time ⟨⟩
      decide +kernel
    · rintro kind time ⟨⟩

/-- A Python snippet that gives a variable a value, whose text begins and ends a line. -/
def Indented.showing : List (Indented.Move Nat) :=
  [.assign "x" .none (some 1), .openLine 2, .closeLine 0, .valueText 0, .finish none]

/-- A JavaScript snippet that makes a call, the text of whose argument begins and ends a line. -/
def Braced.showing : List (Braced.Move Nat) :=
  [.enter "f", .leave 0, .beginLine 2, .beginLine 3, .argumentTexts 0 [.null], .finish none]

/-- The times of a snippet may go back, in both languages: the text of a value may write an event
that is later than that of the value. -/
theorem snippet_may_goBack :
  (∀ n, (leaping.clock n).1.isFinite = true) ∧
    ¬ NeverGoBack ((Indented.Snippet.start leaping {} none [] "" 0).run leaping
      Indented.showing).collector.written ∧
    ¬ NeverGoBack ((Braced.Snippet.start leaping {} [] "" 0 0 0).run leaping
      Braced.showing).collector.written
  := by
  refine ⟨isFinite_leaping, ?_, ?_⟩
  · intro h
    have hevents := h.events
    revert hevents
    decide +kernel
  · intro h
    have hevents := h.events
    revert hevents
    decide +kernel

end SnippetProfiler
