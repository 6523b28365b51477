import SnippetProfiler.Braced.Session
import SnippetProfiler.Proofs.Indented.Snippet

/-!
# JavaScript snippets that run

A snippet calls the hooks of its collector one after the other.  It can resume only lines that
it has suspended, and leave only calls that it has entered, with what the hooks have handed out
for them; but it can do so in any order, as calls that wait do, and end as often as it likes.

As in Python, a hook that asks for a text is over when the text is known, and the snippet may call
any hooks meanwhile.

Whatever a snippet does, its recorder stays orderly.  So the notes of all snippets are in order,
in both languages; and they end right behind a sample of the memory unless the text of what has
ended a program has written more.
-/

namespace SnippetProfiler

namespace Braced

open Probe (Instruments Late Recorder)
open Probe.Recorder (Acts Advance Goes)

/-- A snippet that runs, with its collector and all that the hooks have handed out: the lines
that were suspended, the entries for calls, and what waits for a text. -/
structure Snippet (σ τ : Type) where
  collector : Collector σ τ
  outers : List (Option (OpenLine τ)) := []
  entries : List (Option (Entry τ)) := []
  /-- The variables that have got values, unless the texts of these are known. -/
  assigned : List (Option (Binding τ)) := []
  /-- The calls that were left, unless the texts of their arguments are known. -/
  leaving : List (Option (Departure τ)) := []
  /-- What has ended the program, as long as it has no text. -/
  ending : Option Thrown := none

/-- What a snippet does next.  Lines, calls and texts are known by the numbers in which they were
suspended, entered and asked for.  Between hooks the surroundings may change.  A snippet that fails
ends with what is thrown, and then exits with the code one. -/
inductive Move (σ : Type) where
  | pass (surroundings : σ)
  | beginLine (line : Int)
  | assign (name : String) (value : Value) (line : Option Int)
  | valueText (number : Nat)
  | suspendLine
  | enter (name : String)
  | resumeLine (number : Nat)
  | leave (number : Nat)
  | argumentTexts (number : Nat) (arguments : List Value)
  | finish (thrown : Option Thrown)
  | fail (thrown : Option Thrown)
  | exit (code : Value)
  | crashText

/-- Whether a move forces a sample of the memory. -/
def Move.forces {σ : Type} : Move σ → Bool
  | .finish _ | .fail _ | .exit _ => true
  | _ => false

namespace Snippet

variable {σ τ : Type} [Quantity τ]

/-- A snippet whose program ends, by what is thrown or by itself. -/
def finish (env : Instruments σ τ) (p : Snippet σ τ) (thrown : Option Thrown) : Snippet σ τ :=
  let (begun, collector) := p.collector.beginFinish env thrown
  { p with collector, ending := begun.or p.ending }

/-- A snippet after a move. -/
def step (env : Instruments σ τ) (p : Snippet σ τ) : Move σ → Snippet σ τ
  | .pass surroundings =>
    { p with collector := p.collector.withRecorder { p.collector.toRecorder with surroundings } }
  | .beginLine line => { p with collector := p.collector.beginLine env line }
  | .assign name value line =>
    let (begun, collector) := p.collector.beginAssign env name value line
    { p with collector, assigned := p.assigned ++ [begun] }
  | .valueText number =>
    match p.assigned[number]? with
    | some (some a) =>
      { p with collector := p.collector.endAssign a, assigned := p.assigned.set number none }
    | _ => p
  | .suspendLine =>
    let (outer, collector) := p.collector.suspendLine
    { p with collector, outers := p.outers ++ [outer] }
  | .enter name =>
    let (entry, collector) := p.collector.enter env name
    { p with collector, entries := p.entries ++ [entry] }
  | .resumeLine number =>
    match p.outers[number]? with
    | some outer => { p with collector := p.collector.resumeLine env outer }
    | none => p
  | .leave number =>
    match p.entries[number]? with
    | some entry =>
      let (begun, collector) := p.collector.beginLeave env entry
      { p with collector, leaving := p.leaving ++ [begun] }
    | none => p
  | .argumentTexts number arguments =>
    match p.leaving[number]? with
    | some (some d) =>
      { p with
        collector := p.collector.endLeave env d arguments
        leaving := p.leaving.set number none }
    | _ => p
  | .finish thrown => p.finish env thrown
  | .fail thrown => p.finish env (some (Session.failCause thrown))
  | .exit code => p.finish env (Session.exitCause code)
  | .crashText =>
    match p.ending with
    | some t => { p with collector := p.collector.endFinish t, ending := none }
    | none => p

/-- A snippet after moves. -/
def run (env : Instruments σ τ) (p : Snippet σ τ) (moves : List (Move σ)) : Snippet σ τ :=
  moves.foldl (step env) p

/-- A snippet that starts.  The calls of its collector are numbered from `next` on. -/
def start (env : Instruments σ τ) (options : TrackingOptions) (lines : List String)
    (script : String) (offset : Int) (next : Nat) (surroundings : σ) : Snippet σ τ :=
  { collector :=
      (Collector.start env options lines script offset next surroundings).sample env true }

/-- What a move writes late. -/
def late (p : Snippet σ τ) : Move σ → Late τ
  | .valueText number =>
    match p.assigned[number]? with
    | some (some a) => .event .variableState a.time
    | _ => .nothing
  | .argumentTexts number _ =>
    match p.leaving[number]? with
    | some (some d) => .event .functionCall d.time
    | _ => .nothing
  | .crashText => if p.ending.isSome then .crash else .nothing
  | _ => .nothing

end Snippet

variable {σ τ : Type} {env : Instruments σ τ} {options : TrackingOptions}

/-! ### Hooks -/

namespace Collector

variable {c : Collector σ τ}

/-- A collector of an orderly recorder refuses nothing. -/
theorem andThen_of_isOrderly (h : c.toRecorder.IsOrderly options)
    (f : Collector σ τ → Collector σ τ) :
  c.andThen f = f c
  := by
  rw [Collector.andThen, h.refused]
  rfl

theorem tracked_of_enter {name : String} {e : Entry τ} (h : (c.enter env name).1 = some e) :
  c.options.functions = true
  := by
  rw [Collector.enter] at h
  split at h
  · assumption
  · cases h

variable [Quantity τ]

theorem tracked_of_beginAssign {name : String} {value : Value} {line : Option Int}
    {a : Binding τ} (h : (c.beginAssign env name value line).1 = some a) :
  c.options.assignments = true
  := by
  rw [Collector.beginAssign] at h
  split at h
  · assumption
  · cases h

/-- A call waits for the texts of its arguments only if it has an entry. -/
theorem entry_of_beginLeave {entry : Option (Entry τ)} {d : Departure τ}
    (h : (c.beginLeave env entry).1 = some d) :
  entry = some d.entry
  := by
  cases entry with
  | none => cases h
  | some e =>
      cases h
      rfl

/-- The line that is open is done, if lines are tracked. -/
theorem goes_closeLine (hopen : ∀ l, c.openLine = some l → c.options.executionFlow = true) :
  Goes env c.toRecorder (c.closeLine env).toRecorder
  := by
  rw [Collector.closeLine]
  split
  · exact .refl
  · rename_i l hl
    apply (Goes.refl.now.since l.started).emit
    · rfl
    · exact hopen l hl
    · rintro ⟨⟩

theorem openLine_closeLine (env : Instruments σ τ) (c : Collector σ τ) :
  (c.closeLine env).openLine = none
  := by
  cases hopen : c.openLine with
  | none => simp only [Collector.closeLine, hopen]
  | some l => simp only [Collector.closeLine, hopen]

/-- A call is reported late, and then the memory is sampled. -/
theorem advance_endLeave (h : c.toRecorder.IsOrderly options) (hfunctions : c.options.functions = true)
    (d : Departure τ) (arguments : List Value) :
  Advance env c.toRecorder false (.event .functionCall d.time)
      (c.endLeave env d arguments).toRecorder
    ∧ (c.endLeave env d arguments).openLine = c.openLine
  := by
  let r := (c.toRecorder.since env d.entry.started).2
  let call : FunctionCall τ := ⟨d.time, d.entry.name, some d.entry.caller,
    arguments.map Value.summary, (c.toRecorder.since env d.entry.started).1⟩
  have hevent : Acts env c.toRecorder (.event .functionCall d.time) (r.emit (.functionCall call)) :=
    .event (e := .functionCall call) hfunctions nofun
  let left := c.withRecorder (r.emit (.functionCall call))
  have hleft : left.toRecorder.IsOrderly options := h.acts hevent
  have hend : c.endLeave env d arguments = left.sample env :=
    andThen_of_isOrderly hleft fun c => c.sample env
  rw [hend]
  exact ⟨.samples hevent, rfl⟩

/-- The first end of a program closes the line that is open, samples the memory, and writes
everything once more unless something is thrown. -/
theorem advance_beginFinish (h : c.toRecorder.IsOrderly options)
    (hopen : ∀ l, c.openLine = some l → c.options.executionFlow = true) (thrown : Option Thrown) :
  Advance env c.toRecorder true .nothing (c.beginFinish env thrown).2.toRecorder
    ∧ (∀ l, (c.beginFinish env thrown).2.openLine = some l → c.openLine = some l)
    ∧ ((c.beginFinish env thrown).1.isSome = true →
      (c.beginFinish env thrown).2.finished = true
        ∧ (c.beginFinish env thrown).2.toRecorder.IsUnended)
  := by
  rw [Collector.beginFinish]
  split
  · exact ⟨Goes.refl.advance, fun l hl => hl, nofun⟩
  · rename_i hf
    have hunfinished : c.finished = false := by simpa using hf
    let closed := ({ c with finished := true } : Collector σ τ).closeLine env
    have hgoes : Goes env { c.toRecorder with finished := true } closed.toRecorder :=
      goes_closeLine (c := { c with finished := true }) hopen
    have hgoesOn := andThen_of_isOrderly (h.finish.goes hgoes : closed.toRecorder.IsOrderly options)
    have hnone : closed.openLine = none := openLine_closeLine ..
    cases thrown with
    | none =>
        show Advance env _ true .nothing (closed.andThen _).toRecorder
          ∧ (∀ l, (closed.andThen _).openLine = some l → _) ∧ (_ → _)
        rw [hgoesOn]
        refine ⟨.completes rfl hunfinished hgoes, ?_, nofun⟩
        intro l hl
        cases hnone.symm.trans hl
    | some t =>
        show Advance env _ true .nothing (closed.andThen _).toRecorder
          ∧ (∀ l, (closed.andThen _).openLine = some l → _)
          ∧ (_ → (closed.andThen _).finished = true ∧ (closed.andThen _).toRecorder.IsUnended)
        rw [hgoesOn]
        refine ⟨.samples (.finishes hunfinished hgoes), ?_, ?_⟩
        · intro l hl
          cases hnone.symm.trans hl
        · intro _
          constructor
          · exact (Recorder.finished_sample _ true).trans hgoes.finished
          · apply Recorder.IsUnended.sample
            exact Recorder.IsUnended.goes (r := { c.toRecorder with finished := true })
              (h.unended hunfinished) hgoes

end Collector

/-! ### Moves -/

namespace Snippet

variable [Quantity τ]

/-- A snippet that has got lines and entries only for what is tracked. -/
structure HasTracked (options : TrackingOptions) (p : Snippet σ τ) : Prop where
  openLine : ∀ l, p.collector.openLine = some l → options.executionFlow = true
  outers : ∀ l, some l ∈ p.outers → options.executionFlow = true
  entries : ∀ e, some e ∈ p.entries → options.functions = true
  assigned : ∀ a, some a ∈ p.assigned → options.assignments = true
  leaving : ∀ d, some d ∈ p.leaving → options.functions = true

/-- A snippet whose recorder is orderly, which has got only what is tracked, and in which what has
ended the program waits for its text only if the program has ended without a note of it. -/
structure IsOrderly (options : TrackingOptions) (p : Snippet σ τ) : Prop where
  recorder : p.collector.toRecorder.IsOrderly options
  tracked : p.HasTracked options
  ending : p.ending.isSome = true →
    p.collector.finished = true ∧ p.collector.toRecorder.IsUnended

variable {p : Snippet σ τ}

/-- The first end of the program of an orderly snippet. -/
theorem IsOrderly.finish (h : p.IsOrderly options) (env : Instruments σ τ) (thrown : Option Thrown) :
  Advance env p.collector.toRecorder true .nothing (p.finish env thrown).collector.toRecorder
    ∧ (∀ l, (p.finish env thrown).collector.openLine = some l → options.executionFlow = true)
    ∧ ((p.collector.beginFinish env thrown).1.isSome = true →
      (p.finish env thrown).collector.finished = true
        ∧ (p.finish env thrown).collector.toRecorder.IsUnended)
  := by
  have hopen : ∀ l, p.collector.openLine = some l → p.collector.options.executionFlow = true := by
    rw [h.recorder.tracking]
    exact h.tracked.openLine
  obtain ⟨hadvance, hkept, hwaits⟩ := Collector.advance_beginFinish h.recorder hopen thrown
  exact ⟨hadvance, fun l hl => h.tracked.openLine l (hkept l hl), hwaits⟩

/-- What a move does with the recorder of a snippet, and that it opens no line unless lines are
tracked. -/
theorem IsOrderly.advance_openLine (h : p.IsOrderly options) (m : Move σ) :
  Advance env p.collector.toRecorder m.forces (p.late m) (p.step env m).collector.toRecorder
    ∧ ∀ l, (p.step env m).collector.openLine = some l → options.executionFlow = true
  := by
  have hrefl : Goes env p.collector.toRecorder p.collector.toRecorder := .refl
  have htracking := h.recorder.tracking
  have hopen := h.tracked.openLine
  have hclosed : Goes env p.collector.toRecorder (p.collector.closeLine env).toRecorder := by
    apply Collector.goes_closeLine
    rw [htracking]
    exact hopen
  have hgoesOn := Collector.andThen_of_isOrderly (h.recorder.goes hclosed)
  cases m with
  | pass surroundings => exact ⟨(hrefl.pass surroundings).advance, hopen⟩
  | beginLine line =>
      simp only [Snippet.step, Collector.beginLine, hgoesOn]
      split
      · rename_i hflow
        rw [htracking] at hflow
        exact ⟨hclosed.reading.advance, fun _ _ => hflow⟩
      · exact ⟨hrefl.advance, hopen⟩
  | assign name value line =>
      simp only [Snippet.step, Collector.beginAssign]
      split
      · exact ⟨hrefl.now.advance, hopen⟩
      · exact ⟨hrefl.advance, hopen⟩
  | valueText number =>
      simp only [Snippet.step, Snippet.late]
      split
      · rename_i a ha
        have hassignments := h.tracked.assigned a (List.mem_of_getElem? ha)
        rw [← htracking] at hassignments
        let state : VariableState τ := ⟨a.time, a.name, a.value.typeName, a.value.summary, a.line⟩
        exact ⟨.acts (.event (e := .variableState state) hassignments nofun), hopen⟩
      · exact ⟨hrefl.advance, hopen⟩
  | suspendLine => exact ⟨hrefl.advance, nofun⟩
  | enter name =>
      simp only [Snippet.step, Collector.enter]
      split
      · exact ⟨hrefl.reading.advance, hopen⟩
      · exact ⟨hrefl.advance, hopen⟩
  | resumeLine number =>
      simp only [Snippet.step, Collector.resumeLine, hgoesOn]
      split
      · rename_i outer houter
        refine ⟨hclosed.advance, ?_⟩
        rintro l rfl
        exact h.tracked.outers l (List.mem_of_getElem? houter)
      · exact ⟨hrefl.advance, hopen⟩
  | leave number =>
      simp only [Snippet.step]
      split
      · rename_i entry _
        cases entry with
        | none => exact ⟨hrefl.advance, hopen⟩
        | some e => exact ⟨hrefl.now.advance, hopen⟩
      · exact ⟨hrefl.advance, hopen⟩
  | argumentTexts number arguments =>
      simp only [Snippet.step, Snippet.late]
      split
      · rename_i d hd
        have hfunctions := h.tracked.leaving d (List.mem_of_getElem? hd)
        rw [← htracking] at hfunctions
        obtain ⟨hadvance, hline⟩ :=
          Collector.advance_endLeave h.recorder hfunctions d arguments
        refine ⟨hadvance, ?_⟩
        rw [hline]
        exact hopen
      · exact ⟨hrefl.advance, hopen⟩
  | finish thrown =>
      obtain ⟨hadvance, hline, -⟩ := h.finish env thrown
      exact ⟨hadvance, hline⟩
  | fail thrown =>
      obtain ⟨hadvance, hline, -⟩ := h.finish env (some (Session.failCause thrown))
      exact ⟨hadvance, hline⟩
  | exit code =>
      obtain ⟨hadvance, hline, -⟩ := h.finish env (Session.exitCause code)
      exact ⟨hadvance, hline⟩
  | crashText =>
      simp only [Snippet.step, Snippet.late]
      cases ht : p.ending with
      | none => exact ⟨hrefl.advance, hopen⟩
      | some t =>
          obtain ⟨hfinished, hunended⟩ := h.ending (by rw [ht]; rfl)
          exact ⟨.acts (.crash hfinished hunended _), hopen⟩

theorem IsOrderly.advance (h : p.IsOrderly options) (m : Move σ) :
  Advance env p.collector.toRecorder m.forces (p.late m) (p.step env m).collector.toRecorder
  := h.advance_openLine m |>.1

/-- A snippet gets something only if that is tracked. -/
theorem IsOrderly.hasTracked_step (h : p.IsOrderly options) (m : Move σ) :
  (p.step env m).HasTracked options
  := by
  have hline : ∀ l, (p.step env m).collector.openLine = some l → options.executionFlow = true :=
    (h.advance_openLine m).2
  have htracking := h.recorder.tracking
  obtain ⟨hopen, houters, hentries, hassigned, hleaving⟩ := h.tracked
  cases m with
  | assign name value line =>
      refine ⟨hline, houters, hentries, Probe.forall_concat hassigned fun a ha => ?_, hleaving⟩
      rw [← htracking]
      exact Collector.tracked_of_beginAssign ha
  | suspendLine =>
      exact ⟨hline, Probe.forall_concat houters hopen, hentries, hassigned, hleaving⟩
  | enter name =>
      refine ⟨hline, houters, Probe.forall_concat hentries fun e he => ?_, hassigned, hleaving⟩
      rw [← htracking]
      exact Collector.tracked_of_enter he
  | leave number =>
      revert hline
      simp only [Snippet.step]
      split
      · rename_i entry hentry
        intro hline
        refine ⟨hline, houters, hentries, hassigned, Probe.forall_concat hleaving fun d hd => ?_⟩
        rw [Collector.entry_of_beginLeave hd] at hentry
        exact hentries d.entry (List.mem_of_getElem? hentry)
      · exact fun hline => ⟨hline, houters, hentries, hassigned, hleaving⟩
  | valueText number =>
      revert hline
      simp only [Snippet.step]
      split
      · exact fun hline => ⟨hline, houters, hentries,
          fun a ha => hassigned a (Probe.mem_of_mem_set_none ha), hleaving⟩
      · exact fun hline => ⟨hline, houters, hentries, hassigned, hleaving⟩
  | argumentTexts number arguments =>
      revert hline
      simp only [Snippet.step]
      split
      · exact fun hline => ⟨hline, houters, hentries, hassigned,
          fun d hd => hleaving d (Probe.mem_of_mem_set_none hd)⟩
      · exact fun hline => ⟨hline, houters, hentries, hassigned, hleaving⟩
  | resumeLine number =>
      revert hline
      simp only [Snippet.step]
      split
      · exact fun hline => ⟨hline, houters, hentries, hassigned, hleaving⟩
      · exact fun hline => ⟨hline, houters, hentries, hassigned, hleaving⟩
  | crashText =>
      revert hline
      simp only [Snippet.step]
      split
      · exact fun hline => ⟨hline, houters, hentries, hassigned, hleaving⟩
      · exact fun hline => ⟨hline, houters, hentries, hassigned, hleaving⟩
  | _ => exact ⟨hline, houters, hentries, hassigned, hleaving⟩

/-- What has ended the program waits for its text behind a move if it has waited before, unless the
program ends with the move. -/
theorem ending_step (m : Move σ) (h : (p.step env m).ending.isSome = true) :
  (p.ending.isSome = true ∧ p.late m ≠ .crash)
    ∨ ∃ thrown, p.step env m = p.finish env thrown
      ∧ (p.collector.beginFinish env thrown).1.isSome = true
  := by
  have hfinish (thrown : Option Thrown) (h : (p.finish env thrown).ending.isSome = true) :
      p.ending.isSome = true ∨ (p.collector.beginFinish env thrown).1.isSome = true := by
    simp only [Snippet.finish, Option.isSome_or, Bool.or_eq_true] at h
    exact h.symm
  cases m with
  | finish thrown =>
      obtain h | h := hfinish thrown h
      · exact .inl ⟨h, nofun⟩
      · exact .inr ⟨_, rfl, h⟩
  | fail thrown =>
      obtain h | h := hfinish _ h
      · exact .inl ⟨h, nofun⟩
      · exact .inr ⟨_, rfl, h⟩
  | exit code =>
      obtain h | h := hfinish _ h
      · exact .inl ⟨h, nofun⟩
      · exact .inr ⟨_, rfl, h⟩
  | crashText =>
      simp only [Snippet.step] at h
      split at h
      · cases h
      · rename_i hnone
        rw [hnone] at h
        cases h
  | resumeLine number | leave number =>
      simp only [Snippet.step] at h
      split at h
      · exact .inl ⟨h, nofun⟩
      · exact .inl ⟨h, nofun⟩
  | valueText number | argumentTexts number arguments =>
      left
      simp only [Snippet.step, Snippet.late] at h ⊢
      split at h
      · exact ⟨h, nofun⟩
      · exact ⟨h, nofun⟩
  | _ => exact .inl ⟨h, nofun⟩

/-- A move keeps a snippet orderly. -/
theorem IsOrderly.step (h : p.IsOrderly options) (m : Move σ) :
  (p.step env m).IsOrderly options
  := by
  constructor
  · exact h.recorder.advance (h.advance m)
  · exact h.hasTracked_step m
  · intro hending
    obtain ⟨hbefore, hlate⟩ | ⟨thrown, heq, hbegun⟩ := ending_step m hending
    · obtain ⟨hfinished, hunended⟩ := h.ending hbefore
      exact hunended.advance hfinished (h.advance m) hlate
    · rw [heq]
      exact (h.finish env thrown).2.2 hbegun

/-- Moves keep a snippet orderly. -/
theorem IsOrderly.run (h : p.IsOrderly options) (moves : List (Move σ)) :
  (p.run env moves).IsOrderly options
  := by
  induction moves generalizing p with
  | nil => apply h
  | cons m moves ih =>
      apply ih
      apply h.step

/-- After moves, each note of the end comes right behind a sample exactly when that was so before and
each error does that is written late. -/
theorem IsOrderly.isSampled_run_iff (h : p.IsOrderly options)
    (hs : Probe.IsSampled options p.collector.written) (moves : List (Move σ)) :
  Probe.IsSampled options (p.run env moves).collector.written
    ↔ ∀ before m, before ++ [m] <+: moves →
      ((p.run env before).late m).IsSampled options (p.run env before).collector.written
  := by
  apply (Probe.foldl_iff (P := fun p : Snippet σ τ => Probe.IsSampled options p.collector.written)
    (R := fun p m => (p.late m).IsSampled options p.collector.written) _ hs h moves).2
  exact fun p m h => ⟨h.step m, h.recorder.isSampled_advance_iff (h.advance m)⟩

/-- A snippet is orderly when it starts. -/
theorem isOrderly_start (env : Instruments σ τ) (options : TrackingOptions) (lines : List String)
    (script : String) (offset : Int) (next : Nat) (surroundings : σ) :
  (start env options lines script offset next surroundings).IsOrderly options
  := by
  constructor
  · apply Recorder.IsOrderly.sample
    apply Recorder.isOrderly_start
  · constructor
    · rintro _ ⟨⟩
    · rintro _ ⟨⟩
    · rintro _ ⟨⟩
    · rintro _ ⟨⟩
    · rintro _ ⟨⟩
  · rintro ⟨⟩

end Snippet

end Braced

/-! ### Snippets of both languages -/

open Probe (InOrder IsSampled isSampled_nil)

/-- Whatever a snippet does after its start, and whatever the clock and the meter show, its notes
are in order; and each note of the end comes right behind a sample of the memory, if that is
tracked, exactly when each error does that is written late. -/
theorem snippet_isSampled_iff {σ τ : Type} [Quantity τ] (env : Probe.Instruments σ τ)
    (options : TrackingOptions) :
  (∀ mapping lines script surroundings (moves : List (Indented.Move σ)),
    let p := (Indented.Snippet.start env options mapping lines script surroundings).run env
    InOrder options (p moves).collector.written
      ∧ (IsSampled options (p moves).collector.written
        ↔ ∀ before m, before ++ [m] <+: moves →
          ((p before).late m).IsSampled options (p before).collector.written)) ∧
  (∀ lines script offset next surroundings (moves : List (Braced.Move σ)),
    let p := (Braced.Snippet.start env options lines script offset next surroundings).run env
    InOrder options (p moves).collector.written
      ∧ (IsSampled options (p moves).collector.written
        ↔ ∀ before m, before ++ [m] <+: moves →
          ((p before).late m).IsSampled options (p before).collector.written))
  := by
  constructor
  · intro mapping lines script surroundings moves p
    have hstart := Indented.Snippet.isOrderly_start env options mapping lines script surroundings
    exact ⟨(hstart.run moves).recorder.notes, hstart.isSampled_run_iff
      ((Probe.Recorder.isOrderly_start ..).isSampled_sample_iff _ |>.mpr (isSampled_nil _)) moves⟩
  · intro lines script offset next surroundings moves p
    have hstart := Braced.Snippet.isOrderly_start env options lines script offset next surroundings
    exact ⟨(hstart.run moves).recorder.notes, hstart.isSampled_run_iff
      ((Probe.Recorder.isOrderly_start ..).isSampled_sample_iff _ |>.mpr (isSampled_nil _)) moves⟩

/-- An exception whose text gives a variable a value, in Python. -/
def Indented.telling : List (Indented.Move Unit) :=
  [.finish (some { type := "Failure" }), .assign "told" (.bool true) (some 3), .valueText 0, .crashText]

/-- What is thrown, whose text gives a variable a value, in JavaScript. -/
def Braced.telling : List (Braced.Move Unit) :=
  [.fail (some (.value .null)), .assign "told" (.bool true) (some 3), .valueText 0, .crashText]

/-- A note of the end does not always come right behind a sample of the memory, in neither language:
the text of what ends a program may write more. -/
theorem snippet_not_always_isSampled :
  (¬ ∀ (options : TrackingOptions) (moves : List (Indented.Move Unit)),
    IsSampled options
      ((Indented.Snippet.start Probe.still options none [] "" ()).run Probe.still
        moves).collector.written) ∧
  (¬ ∀ (options : TrackingOptions) (moves : List (Braced.Move Unit)),
    IsSampled options
      ((Braced.Snippet.start Probe.still options [] "" 0 0 ()).run Probe.still
        moves).collector.written)
  := by
  constructor
  · intro h
    obtain ⟨s, hs⟩ := h {} Indented.telling rfl [_, _, _] (.error _) [] rfl rfl
    cases hs
  · intro h
    obtain ⟨s, hs⟩ := h {} Braced.telling rfl [_, _, _] (.error _) [] rfl rfl
    cases hs

end SnippetProfiler
