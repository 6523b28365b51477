import SnippetProfiler.Indented.Collector
import SnippetProfiler.Proofs.Probe.Order

/-!
# Python snippets that run

A snippet calls the hooks of its collector one after the other.  It can close only lines that it
has opened, and leave only calls that it has entered, with what the hooks have handed out for
them; but it can do so in any order, as calls that wait do, and end as often as it likes.

A hook that asks for the text of a value, of arguments or of an exception is over when the text is
known.  The snippet may make the text itself, and call any hooks meanwhile; a text that is not made,
because the snippet breaks off, is never known.

What a move of a snippet does with its recorder is that the recorder advances.  So the recorder
stays orderly, whatever the snippet does.
-/

namespace SnippetProfiler.Indented

open Probe (Instruments Late Recorder)
open Probe.Recorder (Acts Advance Goes)

/-- A snippet that runs, with its collector and all that the hooks have handed out: the readings
of the clock for lines, the entries for calls, and what waits for a text. -/
structure Snippet (σ τ : Type) where
  collector : Collector σ τ
  timers : List (Int × Option τ) := []
  entries : List (Option (Entry τ)) := []
  /-- The variables that have got values, unless the texts of these are known. -/
  assigned : List (Option (Binding τ)) := []
  /-- The calls that were left, unless the texts of their arguments are known. -/
  leaving : List (Option (Departure τ)) := []
  /-- The exception with which the program has ended, as long as it has no text. -/
  ending : Option Exception := none

/-- What a snippet does next.  Lines, calls and texts are known by the numbers in which they were
opened, entered and asked for.  Between hooks the surroundings may change. -/
inductive Move (σ : Type) where
  | pass (surroundings : σ)
  | now
  | sample (forced : Bool)
  | openLine (line : Int)
  | closeLine (number : Nat)
  | assign (name : String) (value : Value) (line : Option Int)
  | valueText (number : Nat)
  | enter (name : String)
  | leave (number : Nat)
  | argumentTexts (number : Nat) (summaries : List String)
  | finish (e : Option Exception)
  | crashText

/-- Whether a move forces a sample of the memory. -/
def Move.forces {σ : Type} : Move σ → Bool
  | .sample forced => forced
  | .finish _ => true
  | _ => false

namespace Snippet

variable {σ τ : Type} [Quantity τ]

/-- A snippet after a move. -/
def step (env : Instruments σ τ) (p : Snippet σ τ) : Move σ → Snippet σ τ
  | .pass surroundings =>
    { p with collector := p.collector.withRecorder { p.collector.toRecorder with surroundings } }
  | .now => { p with collector := (p.collector.now env).2 }
  | .sample forced => { p with collector := p.collector.sample env forced }
  | .openLine line =>
    let (started, collector) := p.collector.openLine env
    { p with collector, timers := p.timers ++ [(line, started)] }
  | .closeLine number =>
    match p.timers[number]? with
    | some (line, some started) => { p with collector := p.collector.closeLine env line started }
    | _ => p
  | .assign name value line =>
    let (begun, collector) := p.collector.beginAssign env name value line
    { p with collector, assigned := p.assigned ++ [begun] }
  | .valueText number =>
    match p.assigned[number]? with
    | some (some a) =>
      { p with collector := p.collector.endAssign a, assigned := p.assigned.set number none }
    | _ => p
  | .enter name =>
    let (entry, collector) := p.collector.enter env name
    { p with collector, entries := p.entries ++ [entry] }
  | .leave number =>
    match p.entries[number]? with
    | some entry =>
      let (begun, collector) := p.collector.beginLeave env entry
      { p with collector, leaving := p.leaving ++ [begun] }
    | none => p
  | .argumentTexts number summaries =>
    match p.leaving[number]? with
    | some (some d) =>
      { p with
        collector := p.collector.endLeave env d summaries
        leaving := p.leaving.set number none }
    | _ => p
  | .finish e =>
    let (begun, collector) := p.collector.beginFinish env e
    { p with collector, ending := begun.or p.ending }
  | .crashText =>
    match p.ending with
    | some e => { p with collector := p.collector.endFinish e, ending := none }
    | none => p

/-- A snippet after moves. -/
def run (env : Instruments σ τ) (p : Snippet σ τ) (moves : List (Move σ)) : Snippet σ τ :=
  moves.foldl (step env) p

/-- A snippet that starts. -/
def start (env : Instruments σ τ) (options : TrackingOptions)
    (mapping : Option (List (Int × Option Int))) (lines : List String) (script : String)
    (surroundings : σ) : Snippet σ τ :=
  { collector := Collector.start env options mapping lines script surroundings }

/-- What a move writes late. -/
def late (p : Snippet σ τ) : Move σ → Late τ
  | .valueText number =>
    match p.assigned[number]? with
    | some (some a) => .event .variableState a.time
    | _ => .nothing
  | .crashText => if p.ending.isSome then .crash else .nothing
  | _ => .nothing

end Snippet

variable {σ τ : Type} [Quantity τ] {env : Instruments σ τ} {options : TrackingOptions}

/-! ### Hooks -/

namespace Collector

variable {c : Collector σ τ}

omit [Quantity τ] in
/-- A line has a reading of the clock only if lines are tracked. -/
theorem tracked_of_openLine {started : τ} (h : (c.openLine env).1 = some started) :
  c.options.executionFlow = true
  := by
  rw [Collector.openLine] at h
  split at h
  · assumption
  · cases h

theorem tracked_of_beginAssign {name : String} {value : Value} {line : Option Int}
    {a : Binding τ} (h : (c.beginAssign env name value line).1 = some a) :
  c.options.assignments = true
  := by
  rw [Collector.beginAssign] at h
  split at h
  · assumption
  · cases h

omit [Quantity τ] in
theorem tracked_of_enter {name : String} {e : Entry τ} (h : (c.enter env name).1 = some e) :
  c.options.functions = true
  := by
  rw [Collector.enter] at h
  split at h
  · assumption
  · cases h

/-- A call waits for the texts of its arguments only if it has an entry. -/
theorem entry_of_beginLeave {entry : Option (Entry τ)} {d : Departure τ}
    (h : (c.beginLeave env entry).1 = some d) :
  entry = some d.entry
  := by
  cases entry with
  | none => cases h
  | some e =>
      cases h
      rfl

/-- The first end of a program samples the memory, and writes everything once more unless there is
an exception that is not quiet. -/
theorem advance_beginFinish (h : c.toRecorder.IsOrderly options) (e : Option Exception) :
  Advance env c.toRecorder true .nothing (c.beginFinish env e).2.toRecorder
    ∧ ((c.beginFinish env e).1.isSome = true →
      (c.beginFinish env e).2.finished = true ∧ (c.beginFinish env e).2.toRecorder.IsUnended)
  := by
  rw [Collector.beginFinish]
  split
  · exact ⟨Goes.refl.advance, nofun⟩
  · rename_i hf
    have hunfinished : c.finished = false := by simpa using hf
    have hgoes : Goes env { c.toRecorder with finished := true }
        { c.toRecorder with finished := true } := .refl
    split
    · exact ⟨.completes rfl hunfinished hgoes, nofun⟩
    · constructor
      · exact .samples (.finishes hunfinished hgoes)
      · intro _
        constructor
        · exact Recorder.finished_sample _ true
        · apply Recorder.IsUnended.sample
          exact h.unended hunfinished

end Collector

/-! ### Moves -/

namespace Snippet

/-- A snippet that has got readings and entries only for what is tracked. -/
structure HasTracked (options : TrackingOptions) (p : Snippet σ τ) : Prop where
  timers : ∀ line started, (line, some started) ∈ p.timers → options.executionFlow = true
  entries : ∀ e, some e ∈ p.entries → options.functions = true
  assigned : ∀ a, some a ∈ p.assigned → options.assignments = true
  leaving : ∀ d, some d ∈ p.leaving → options.functions = true

/-- A snippet whose recorder is orderly, which has got only what is tracked, and whose exception
waits for its text only if the program has ended without a note of it. -/
structure IsOrderly (options : TrackingOptions) (p : Snippet σ τ) : Prop where
  recorder : p.collector.toRecorder.IsOrderly options
  tracked : p.HasTracked options
  ending : p.ending.isSome = true →
    p.collector.finished = true ∧ p.collector.toRecorder.IsUnended

variable {p : Snippet σ τ}

/-- What a move does with the recorder of a snippet. -/
theorem IsOrderly.advance (h : p.IsOrderly options) (m : Move σ) :
  Advance env p.collector.toRecorder m.forces (p.late m) (p.step env m).collector.toRecorder
  := by
  have hrefl : Goes env p.collector.toRecorder p.collector.toRecorder := .refl
  have htracking := h.recorder.tracking
  cases m with
  | pass surroundings => exact (hrefl.pass surroundings).advance
  | now => exact hrefl.now.advance
  | sample forced => exact .samples (.goes hrefl)
  | openLine line =>
      simp only [Snippet.step, Collector.openLine]
      split
      · exact hrefl.reading.advance
      · exact hrefl.advance
  | closeLine number =>
      simp only [Snippet.step]
      split
      · rename_i line started hline
        have hflow := h.tracked.timers line started (List.mem_of_getElem? hline)
        rw [← htracking] at hflow
        apply Goes.advance
        apply (hrefl.since started).now.emit
        · rfl
        · exact hflow
        · rintro ⟨⟩
      · exact hrefl.advance
  | assign name value line =>
      simp only [Snippet.step, Collector.beginAssign]
      split
      · exact hrefl.now.advance
      · exact hrefl.advance
  | valueText number =>
      simp only [Snippet.step, Snippet.late]
      split
      · rename_i a ha
        have hassignments := h.tracked.assigned a (List.mem_of_getElem? ha)
        rw [← htracking] at hassignments
        let state : VariableState τ := ⟨a.time, a.name, a.value.typeName, a.value.summary, a.line⟩
        exact .acts (.event (e := .variableState state) hassignments nofun)
      · exact hrefl.advance
  | enter name =>
      simp only [Snippet.step, Collector.enter]
      split
      · exact hrefl.reading.advance
      · exact hrefl.advance
  | leave number =>
      simp only [Snippet.step]
      split
      · rename_i entry _
        cases entry with
        | none => exact hrefl.advance
        | some e => exact (hrefl.since e.started).advance
      · exact hrefl.advance
  | argumentTexts number summaries =>
      simp only [Snippet.step]
      split
      · rename_i d hd
        have hfunctions := h.tracked.leaving d (List.mem_of_getElem? hd)
        rw [← htracking] at hfunctions
        apply Advance.samples
        apply Acts.goes
        apply hrefl.now.emit
        · rfl
        · exact hfunctions
        · rintro ⟨⟩
      · exact hrefl.advance
  | finish e => exact (Collector.advance_beginFinish h.recorder e).1
  | crashText =>
      simp only [Snippet.step, Snippet.late]
      cases he : p.ending with
      | none => exact hrefl.advance
      | some e =>
          obtain ⟨hfinished, hunended⟩ := h.ending (by rw [he]; rfl)
          exact .acts (.crash hfinished hunended _)

/-- A snippet gets something only if that is tracked. -/
theorem HasTracked.step (h : p.HasTracked options) (htracking : p.collector.options = options)
    (m : Move σ) :
  (p.step env m).HasTracked options
  := by
  obtain ⟨htimers, hentries, hassigned, hleaving⟩ := h
  cases m with
  | openLine line =>
      refine ⟨?_, hentries, hassigned, hleaving⟩
      intro n t ht
      rcases List.mem_append.mp ht with ht | ht
      · exact htimers n t ht
      · rw [← htracking]
        apply Collector.tracked_of_openLine
        exact (Prod.mk.inj (List.mem_singleton.mp ht)).2.symm
  | assign name value line =>
      refine ⟨htimers, hentries, Probe.forall_concat hassigned fun a ha => ?_, hleaving⟩
      rw [← htracking]
      exact Collector.tracked_of_beginAssign ha
  | enter name =>
      refine ⟨htimers, Probe.forall_concat hentries fun e he => ?_, hassigned, hleaving⟩
      rw [← htracking]
      exact Collector.tracked_of_enter he
  | leave number =>
      simp only [Snippet.step]
      split
      · rename_i entry hentry
        refine ⟨htimers, hentries, hassigned, Probe.forall_concat hleaving fun d hd => ?_⟩
        rw [Collector.entry_of_beginLeave hd] at hentry
        exact hentries d.entry (List.mem_of_getElem? hentry)
      · exact ⟨htimers, hentries, hassigned, hleaving⟩
  | valueText number =>
      simp only [Snippet.step]
      split
      · exact ⟨htimers, hentries, fun a ha => hassigned a (Probe.mem_of_mem_set_none ha), hleaving⟩
      · exact ⟨htimers, hentries, hassigned, hleaving⟩
  | argumentTexts number summaries =>
      simp only [Snippet.step]
      split
      · exact ⟨htimers, hentries, hassigned, fun d hd => hleaving d (Probe.mem_of_mem_set_none hd)⟩
      · exact ⟨htimers, hentries, hassigned, hleaving⟩
  | closeLine number =>
      simp only [Snippet.step]
      split
      · exact ⟨htimers, hentries, hassigned, hleaving⟩
      · exact ⟨htimers, hentries, hassigned, hleaving⟩
  | crashText =>
      simp only [Snippet.step]
      split
      · exact ⟨htimers, hentries, hassigned, hleaving⟩
      · exact ⟨htimers, hentries, hassigned, hleaving⟩
  | _ => exact ⟨htimers, hentries, hassigned, hleaving⟩

/-- An exception that waits for its text behind a move has waited before, unless the program ends
with it. -/
theorem ending_step (m : Move σ) (h : (p.step env m).ending.isSome = true) :
  (p.ending.isSome = true ∧ p.late m ≠ .crash)
    ∨ ∃ e, m = .finish e ∧ (p.collector.beginFinish env e).1.isSome = true
  := by
  cases m with
  | finish e =>
      simp only [Snippet.step, Option.isSome_or, Bool.or_eq_true] at h
      obtain h | h := h
      · exact .inr ⟨e, rfl, h⟩
      · exact .inl ⟨h, nofun⟩
  | crashText =>
      simp only [Snippet.step] at h
      split at h
      · cases h
      · rename_i hnone
        rw [hnone] at h
        cases h
  | closeLine number | leave number | argumentTexts number summaries =>
      simp only [Snippet.step] at h
      split at h
      · exact .inl ⟨h, nofun⟩
      · exact .inl ⟨h, nofun⟩
  | valueText number =>
      left
      simp only [Snippet.step, Snippet.late] at h ⊢
      split at h
      · exact ⟨h, nofun⟩
      · exact ⟨h, nofun⟩
  | _ => exact .inl ⟨h, nofun⟩

/-- A move keeps a snippet orderly. -/
theorem IsOrderly.step (h : p.IsOrderly options) (m : Move σ) :
  (p.step env m).IsOrderly options
  := by
  constructor
  · exact h.recorder.advance (h.advance m)
  · exact h.tracked.step h.recorder.tracking m
  · intro hending
    obtain ⟨hbefore, hlate⟩ | ⟨e, rfl, hbegun⟩ := ending_step m hending
    · obtain ⟨hfinished, hunended⟩ := h.ending hbefore
      exact hunended.advance hfinished (h.advance m) hlate
    · exact (Collector.advance_beginFinish h.recorder e).2 hbegun

/-- Moves keep a snippet orderly. -/
theorem IsOrderly.run (h : p.IsOrderly options) (moves : List (Move σ)) :
  (p.run env moves).IsOrderly options
  := by
  induction moves generalizing p with
  | nil => apply h
  | cons m moves ih =>
      apply ih
      apply h.step

/-- After moves, each note of the end comes right behind a sample exactly when that was so before and
each error does that is written late. -/
theorem IsOrderly.isSampled_run_iff (h : p.IsOrderly options)
    (hs : Probe.IsSampled options p.collector.written) (moves : List (Move σ)) :
  Probe.IsSampled options (p.run env moves).collector.written
    ↔ ∀ before m, before ++ [m] <+: moves →
      ((p.run env before).late m).IsSampled options (p.run env before).collector.written
  := by
  apply (Probe.foldl_iff (P := fun p : Snippet σ τ => Probe.IsSampled options p.collector.written)
    (R := fun p m => (p.late m).IsSampled options p.collector.written) _ hs h moves).2
  exact fun p m h => ⟨h.step m, h.recorder.isSampled_advance_iff (h.advance m)⟩

/-- A snippet is orderly when it starts. -/
theorem isOrderly_start (env : Instruments σ τ) (options : TrackingOptions)
    (mapping : Option (List (Int × Option Int))) (lines : List String) (script : String)
    (surroundings : σ) :
  (start env options mapping lines script surroundings).IsOrderly options
  := by
  constructor
  · apply Recorder.IsOrderly.sample
    apply Recorder.isOrderly_start
  · constructor
    · rintro _ _ ⟨⟩
    · rintro _ ⟨⟩
    · rintro _ ⟨⟩
    · rintro _ ⟨⟩
  · rintro ⟨⟩

end Snippet

end SnippetProfiler.Indented
