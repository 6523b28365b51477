import Mathlib.Algebra.Order.BigOperators.Group.List
import SnippetProfiler.Proofs.Braced.Deeds
import SnippetProfiler.Proofs.Braced.Snippet
import SnippetProfiler.Proofs.Probe.Clock

/-!
# Lines of JavaScript snippets include their calls

A line that makes calls is put aside while they run, and lasts until the next line begins or the call
in which it stands is left.  What a snippet reports of nested calls is therefore a tree as well: a
call is reported behind what its body reports, and a line behind the calls that it has made.

As long as the clock never goes back, a line lasts at least as long as all the calls together that it
has made directly.  For the calls of a line are entered and left one after the other, after the
reading of the clock with which the line begins and before the one with which it is done.

When a call is left, the line of its caller is open again, but the call is not over: the texts of its
arguments are still asked for.  A text that makes calls makes the call last longer, and these calls
are in it.  A text that begins a line ends that of the caller: the line is then over before the call
is.
-/

namespace SnippetProfiler.Braced

open Probe (Instruments Recorder Scripted eventsOf isReport reportsIn scripted)

/-! ### What is reported -/

/-- A call that is reported, with its arguments, the calls that it has made before its first line, its
lines, each with the calls that it has made, and the calls that the texts of its arguments have
made. -/
inductive CallTree (τ : Type) where
  | node (event : FunctionCall τ) (arguments : List Value) (early : List (CallTree τ))
    (lines : List (LineExecution τ × List (CallTree τ))) (shown : List (CallTree τ))

/-- The event of a call. -/
def CallTree.event {τ : Type} : CallTree τ → FunctionCall τ
  | .node event _ _ _ _ => event

mutual

/-- The deed that is reported as a call. -/
def CallTree.deed {τ : Type} : CallTree τ → Deed
  | .node event arguments early lines shown =>
    .call event.name arguments (deedsOfCalls early ++ deedsOfLines lines) (deedsOfCalls shown)

/-- The deeds that are reported as calls. -/
def deedsOfCalls {τ : Type} : List (CallTree τ) → List Deed
  | [] => []
  | t :: ts => t.deed :: deedsOfCalls ts

/-- The deeds that are reported as lines and their calls. -/
def deedsOfLines {τ : Type} : List (LineExecution τ × List (CallTree τ)) → List Deed
  | [] => []
  | (line, calls) :: rest => .line line.line :: (deedsOfCalls calls ++ deedsOfLines rest)

end

/-- Whether a deed is a call. -/
def Deed.isCall : Deed → Bool
  | .line _ => false
  | .call .. => true

mutual

/-- Whether the texts that are made during a deed begin no lines, except in the calls that they
make. -/
def Deed.isCalm : Deed → Bool
  | .line _ => true
  | .call _ _ body shown => areCalm body && (shown.all Deed.isCall && areCalm shown)

/-- Whether the texts that are made during deeds begin no lines, except in the calls that they
make. -/
def areCalm : List Deed → Bool
  | [] => true
  | d :: ds => d.isCalm && areCalm ds

end

mutual

/-- A call with those that the texts of its arguments have made, and with those of their texts. -/
def CallTree.all {τ : Type} : CallTree τ → List (CallTree τ)
  | .node event arguments early lines shown =>
    .node event arguments early lines shown :: allOf shown

/-- Calls with those that the texts of their arguments have made. -/
def allOf {τ : Type} : List (CallTree τ) → List (CallTree τ)
  | [] => []
  | t :: ts => t.all ++ allOf ts

end

mutual

/-- The reports of a call: those of its body, those of its texts, and its event. -/
def CallTree.reports {τ : Type} : CallTree τ → Trace τ
  | .node event _ early lines shown =>
    reportsOfCalls early ++ reportsOfLines lines ++ (reportsOfCalls shown ++ [.functionCall event])

/-- The reports of calls. -/
def reportsOfCalls {τ : Type} : List (CallTree τ) → Trace τ
  | [] => []
  | t :: ts => t.reports ++ reportsOfCalls ts

/-- The reports of lines: for each line those of its calls, and its event. -/
def reportsOfLines {τ : Type} : List (LineExecution τ × List (CallTree τ)) → Trace τ
  | [] => []
  | (line, calls) :: rest => reportsOfCalls calls ++ .executionFlow line :: reportsOfLines rest

end

mutual

/-- The lines in a call, also those of the calls that it makes, with the calls that each line has
made directly. -/
def CallTree.lines {τ : Type} : CallTree τ → List (LineExecution τ × List (CallTree τ))
  | .node _ _ early lines shown => linesOfCalls early ++ linesOfLines lines ++ linesOfCalls shown

/-- The lines in calls. -/
def linesOfCalls {τ : Type} : List (CallTree τ) → List (LineExecution τ × List (CallTree τ))
  | [] => []
  | t :: ts => t.lines ++ linesOfCalls ts

/-- Lines, and the lines in their calls. -/
def linesOfLines {τ : Type} :
    List (LineExecution τ × List (CallTree τ)) → List (LineExecution τ × List (CallTree τ))
  | [] => []
  | (line, calls) :: rest => linesOfCalls calls ++ (line, calls) :: linesOfLines rest

end

/-- The body of a call, or of the snippet: the calls before the first line, and the lines. -/
structure Body (τ : Type) where
  early : List (CallTree τ) := []
  lines : List (LineExecution τ × List (CallTree τ)) := []

namespace Body

variable {τ : Type}

/-- The deeds that are reported as a body. -/
def deeds (b : Body τ) : List Deed := deedsOfCalls b.early ++ deedsOfLines b.lines

/-- The reports of a body. -/
def reports (b : Body τ) : Trace τ := reportsOfCalls b.early ++ reportsOfLines b.lines

/-- The lines in a body, at any depth. -/
def allLines (b : Body τ) : List (LineExecution τ × List (CallTree τ)) :=
  linesOfCalls b.early ++ linesOfLines b.lines

end Body

/-- What stands in the lists of all members stands in the list of all. -/
theorem isInfix_append_of_mem {α β : Type} {x : α} {xs ys : List α} {part us vs : List β}
    (h : x ∈ xs ++ ys) (hu : x ∈ xs → part <:+: us) (hv : x ∈ ys → part <:+: vs) :
  part <:+: us ++ vs
  := by
  rcases List.mem_append.mp h with h | h
  · exact (hu h).trans (List.prefix_append us vs).isInfix
  · exact (hv h).trans (List.suffix_append us vs).isInfix

mutual

/-- In the reports of a call, the event of each line comes right behind the reports of its calls. -/
theorem isInfix_reports {τ : Type} {l : LineExecution τ × List (CallTree τ)} :
  (t : CallTree τ) → l ∈ t.lines → reportsOfCalls l.2 ++ [.executionFlow l.1] <:+: t.reports
  | .node event arguments early lines shown, h => by
      apply isInfix_append_of_mem h
      · exact fun h => isInfix_append_of_mem h (isInfix_reportsOfCalls early)
          (isInfix_reportsOfLines lines)
      · exact fun h => (isInfix_reportsOfCalls shown h).trans (List.prefix_append _ _).isInfix

theorem isInfix_reportsOfCalls {τ : Type} {l : LineExecution τ × List (CallTree τ)} :
  (ts : List (CallTree τ)) → l ∈ linesOfCalls ts →
    reportsOfCalls l.2 ++ [.executionFlow l.1] <:+: reportsOfCalls ts
  | t :: ts, h => isInfix_append_of_mem h (isInfix_reports t) (isInfix_reportsOfCalls ts)

theorem isInfix_reportsOfLines {τ : Type} {l : LineExecution τ × List (CallTree τ)} :
  (ls : List (LineExecution τ × List (CallTree τ))) → l ∈ linesOfLines ls →
    reportsOfCalls l.2 ++ [.executionFlow l.1] <:+: reportsOfLines ls
  | (line, calls) :: rest, h => by
      have hlines : reportsOfLines ((line, calls) :: rest)
          = (reportsOfCalls calls ++ [.executionFlow line]) ++ reportsOfLines rest :=
        List.append_cons ..
      rw [linesOfLines, List.append_cons] at h
      rw [hlines]
      apply isInfix_append_of_mem h
      · intro h
        rcases List.mem_append.mp h with h | h
        · exact (isInfix_reportsOfCalls calls h).trans (List.prefix_append _ _).isInfix
        · cases List.mem_singleton.mp h
          exact List.infix_rfl
      · exact isInfix_reportsOfLines rest

end

mutual

/-- Each line has one event. -/
theorem steps_reports {τ : Type} :
  (t : CallTree τ) → Trace.steps t.reports = t.lines.map Prod.fst
  | .node event arguments early lines shown => by
      have happend (t u : Trace τ) : Trace.steps (t ++ u) = Trace.steps t ++ Trace.steps u :=
        List.filterMap_append ..
      have hevent : Trace.steps [TraceEvent.functionCall event] = [] := rfl
      rw [CallTree.reports, CallTree.lines, List.map_append, List.map_append,
        ← steps_reportsOfCalls early, ← steps_reportsOfLines lines, ← steps_reportsOfCalls shown,
        happend, happend, happend, hevent, List.append_nil]

theorem steps_reportsOfCalls {τ : Type} :
  (ts : List (CallTree τ)) → Trace.steps (reportsOfCalls ts) = (linesOfCalls ts).map Prod.fst
  | [] => rfl
  | t :: ts => by
      rw [linesOfCalls, List.map_append, ← steps_reports t, ← steps_reportsOfCalls ts]
      exact List.filterMap_append ..

theorem steps_reportsOfLines {τ : Type} :
  (ls : List (LineExecution τ × List (CallTree τ))) →
    Trace.steps (reportsOfLines ls) = (linesOfLines ls).map Prod.fst
  | [] => rfl
  | (line, calls) :: rest => by
      rw [linesOfLines, List.map_append, List.map_cons, ← steps_reportsOfCalls calls,
        ← steps_reportsOfLines rest]
      exact List.filterMap_append ..

end

mutual

/-- The events of a call, and of those that its texts have made, are among its reports. -/
theorem mem_reports {τ : Type} {u : CallTree τ} :
  (t : CallTree τ) → u ∈ t.all → .functionCall u.event ∈ t.reports
  | .node event arguments early lines shown, h => by
      rw [CallTree.reports, List.mem_append]
      right
      rw [List.mem_append]
      rcases List.mem_cons.mp h with rfl | h
      · right
        exact List.mem_singleton_self _
      · left
        exact mem_reportsOfCalls shown h

theorem mem_reportsOfCalls {τ : Type} {u : CallTree τ} :
  (ts : List (CallTree τ)) → u ∈ allOf ts → .functionCall u.event ∈ reportsOfCalls ts
  | t :: ts, h => by
      rw [reportsOfCalls, List.mem_append]
      rcases List.mem_append.mp h with h | h
      · exact .inl (mem_reports t h)
      · exact .inr (mem_reportsOfCalls ts h)

end

/-- What is among calls or those of their texts is one of them or one of its texts. -/
theorem exists_mem_of_mem_allOf {τ : Type} {u : CallTree τ} {ts : List (CallTree τ)}
    (h : u ∈ allOf ts) :
  ∃ t ∈ ts, u ∈ t.all
  := by
  induction ts with
  | nil => cases h
  | cons t ts ih =>
      rcases List.mem_append.mp h with h | h
      · exact ⟨t, List.mem_cons_self, h⟩
      · obtain ⟨s, hs, hu⟩ := ih h
        exact ⟨s, List.mem_cons_of_mem _ hs, hu⟩

/-- A call has no negative duration, and lasts at least as long as each one that the texts of its
arguments have made. -/
structure CallTree.Lasts (t : CallTree ℚ) : Prop where
  nonneg : 0 ≤ t.event.duration
  shown : ∀ u ∈ t.all, u.event.duration ≤ t.event.duration

/-- The calls that a line has made last, and the line lasts at least as long as all of them
together. -/
structure IsInclusive (l : LineExecution ℚ × List (CallTree ℚ)) : Prop where
  calls : ∀ t ∈ l.2, t.Lasts
  sum_le : (l.2.map fun t => t.event.duration).sum ≤ l.1.duration

/-- Lines have a property when the first one, the lines of its calls, and those behind it have it. -/
theorem forall_linesOfLines {τ : Type} {p : LineExecution τ × List (CallTree τ) → Prop}
    {line : LineExecution τ} {calls : List (CallTree τ)}
    {rest : List (LineExecution τ × List (CallTree τ))}
    (hothers : ∀ other ∈ linesOfCalls calls ++ linesOfLines rest, p other)
    (hline : p (line, calls)) :
  ∀ other ∈ linesOfLines ((line, calls) :: rest), p other
  := by
  obtain ⟨hcalls, hrest⟩ := List.forall_mem_append.mp hothers
  exact List.forall_mem_append.mpr ⟨hcalls, List.forall_mem_cons.mpr ⟨hline, hrest⟩⟩

namespace Collector

variable {σ : Type} {env : Instruments σ ℚ} {c d : Collector σ ℚ} {l : OpenLine ℚ}

/-! ### The start and the end -/

/-- A collector starts with an exact setting, without an open line, and without a report. -/
theorem start_spec (env : Instruments σ ℚ) {options : TrackingOptions}
    (hfunctions : options.functions = true) (hflow : options.executionFlow = true)
    (lines : List String) (script : String) (offset : Int) (next : Nat) (surroundings : σ) :
  let c := (Collector.start env options lines script offset next surroundings).sample env true
  c.setting.IsExact ∧ c.openLine = none ∧ reportsIn c.written = []
  := by
  let c := Collector.start env options lines script offset next surroundings
  have hexact : c.setting.IsExact := by
    constructor
    · exact hfunctions
    · exact hflow
    · exact Int.cast_one
    · rfl
    · rfl
    · rfl
  have hsample := (Recorder.GoesTo.refl env c.toRecorder).sample hexact.blocked true
  rw [← hsample.setting] at hexact
  exact ⟨hexact, rfl, hsample.written⟩

/-- A line is done in the same way when the end was recorded. -/
theorem closeLine_finished (c : Collector σ ℚ) :
  ({ c with finished := true } : Collector σ ℚ).closeLine env
    = { c.closeLine env with finished := true }
  := by
  cases hopen : c.openLine with
  | none => simp only [Collector.closeLine, hopen]
  | some l =>
      simp only [Collector.closeLine, hopen]
      exact congrArg (fun r => { c.withRecorder r with openLine := none })
        (Recorder.emit_finished ((c.toRecorder.now env).2.since env l.started).2 _)

theorem finished_closeLine (c : Collector σ ℚ) :
  (c.closeLine env).finished = c.finished
  := by
  rw [Collector.closeLine]
  split
  · rfl
  · apply Recorder.finished_emit

/-- At the end, the line that is open is done, and nothing more is reported. -/
theorem reportsIn_finish (hexact : (c.closeLine env).setting.IsExact) (thrown : Option Thrown) :
  reportsIn (c.finish env thrown).written = reportsIn (c.closeLine env).written
  := by
  have hunfinished : c.finished = false := (finished_closeLine c).symm.trans hexact.unfinished
  let d : Collector σ ℚ := { c.closeLine env with finished := true }
  have hlive : d.view.IsLive := ⟨hexact.blocked, hexact.refused⟩
  have hrefl := Recorder.GoesTo.refl env d.toRecorder
  rw [Collector.finish, beginFinish, hunfinished, if_neg Bool.false_ne_true, closeLine_finished]
  cases thrown with
  | none =>
      show reportsIn (d.andThen _).written = _
      rw [andThen_eq hlive]
      exact (hrefl.conclude hexact.blocked).written.trans (List.append_nil _)
  | some t =>
      have hsample := hrefl.sample hexact.blocked true
      have hsampled : (d.sample env true).view.IsLive := by
        rw [view_sample env hlive]
        exact hlive
      have hwrite := hsample.write_other hsampled.blocked
        (rfl : reportsIn [.error ((d.sample env true).crash t)] = [])
      show reportsIn (atOnce (some t, d.andThen fun c => c.sample env true) endFinish).written = _
      rw [andThen_eq hlive, atOnce_eq hsampled]
      exact hwrite.written.trans (List.append_nil _)

/-! ### Hooks -/

theorem isLive_of_isExact (he : c.setting.IsExact) :
  c.view.IsLive
  := ⟨he.blocked, he.refused⟩

theorem closeLine_of_none (h : c.openLine = none) :
  c.closeLine env = c
  := by
  simp only [Collector.closeLine, h]

variable (hforward : env.RunsForward)

include hforward

/-- The line that is open is done: it has lasted up to all that is past. -/
theorem closeLine_spec (he : c.setting.IsExact) (hopen : c.openLine = some l) :
  ∃ line, c.GoesTo env [.executionFlow line] (c.closeLine env).toRecorder
    ∧ (c.closeLine env).openLine = none
    ∧ line.line = l.line
    ∧ ∀ time, env.IsPast time c.surroundings → time ≤ l.started + line.duration
  := by
  have hnow := (Recorder.GoesTo.refl env c.toRecorder).now
  obtain ⟨hduration, -⟩ := (c.toRecorder.now env).2.since_spec hforward he.scale l.started
  obtain ⟨line, hline, hmeasured, hclose⟩ : ∃ line : LineExecution ℚ,
      line.line = l.line
      ∧ line.duration = ((c.toRecorder.now env).2.since env l.started).1
      ∧ c.closeLine env
        = { c.withRecorder (((c.toRecorder.now env).2.since env l.started).2.emit
              (.executionFlow line)) with openLine := none } := by
    simp only [Collector.closeLine, hopen]
    exact ⟨_, rfl, rfl, rfl⟩
  rw [hclose]
  refine ⟨line, ?_, rfl, hline, ?_⟩
  · exact (hnow.since l.started).emit he.blocked rfl
  · intro time htime
    rw [hmeasured]
    exact hduration time (htime.later hnow.later)

/-- A line begins, once the one that was open is done. -/
theorem beginLine_spec (he : c.setting.IsExact) (hd : d = c.closeLine env)
    (hsetting : d.setting = c.setting) (number : Int) :
  ∃ l, d.GoesTo env [] (c.beginLine env number).toRecorder
    ∧ (c.beginLine env number).openLine = some l
    ∧ l.line = number
    ∧ env.IsPast l.started (c.beginLine env number).surroundings
  := by
  have hlive : d.view.IsLive := by
    apply isLive_of_isExact
    rw [hsetting]
    exact he
  have hbegin : c.beginLine env number
      = { d.withRecorder (d.reading env).2 with openLine := some ⟨number, (d.reading env).1⟩ } := by
    have hflow : c.options.executionFlow = true := he.flow
    rw [Collector.beginLine, if_pos hflow, ← hd, andThen_eq hlive]
  rw [hbegin]
  refine ⟨⟨number, (d.reading env).1⟩, ?_, rfl, rfl, ?_⟩
  · exact (Recorder.GoesTo.refl env d.toRecorder).reading
  · apply hforward

/-- A call is entered after all that is past. -/
theorem enter_spec (he : c.setting.IsExact) (name : String) :
  ∃ e, (c.suspendLine.2.enter env name).1 = some e
    ∧ c.GoesTo env [] (c.suspendLine.2.enter env name).2.toRecorder
    ∧ (c.suspendLine.2.enter env name).2.openLine = none
    ∧ e.name = name
    ∧ (∀ time, env.IsPast time c.surroundings → time ≤ e.started)
    ∧ env.IsPast e.started (c.suspendLine.2.enter env name).2.surroundings
  := by
  have hfunctions : c.suspendLine.2.options.functions = true := he.functions
  rw [Collector.enter, if_pos hfunctions]
  refine ⟨_, rfl, ?_, rfl, rfl, ?_, ?_⟩
  · exact (Recorder.GoesTo.refl env c.toRecorder).reading
  · intro time htime
    exact htime.le_clock
  · apply hforward

omit hforward in
/-- A call begins to be left. -/
theorem beginLeave_spec (env : Instruments σ ℚ) (c : Collector σ ℚ) (e : Entry ℚ) :
  ∃ d, (c.beginLeave env (some e)).1 = some d ∧ d.entry = e
    ∧ c.GoesTo env [] (c.beginLeave env (some e)).2.toRecorder
    ∧ (c.beginLeave env (some e)).2.openLine = c.openLine
  := ⟨_, rfl, rfl, (Recorder.GoesTo.refl env c.toRecorder).now, rfl⟩

/-- A call is over: it has lasted up to all that was past, and is past itself. -/
theorem endLeave_spec (he : c.setting.IsExact) (left : Departure ℚ) (arguments : List Value) :
  ∃ call, c.GoesTo env [.functionCall call] (c.endLeave env left arguments).toRecorder
    ∧ (c.endLeave env left arguments).openLine = c.openLine
    ∧ call.name = left.entry.name
    ∧ (∀ time, env.IsPast time c.surroundings → time ≤ left.entry.started + call.duration)
    ∧ env.IsPast (left.entry.started + call.duration) (c.endLeave env left arguments).surroundings
  := by
  have hmeasured := (Recorder.GoesTo.refl env c.toRecorder).since left.entry.started
  obtain ⟨hduration, hpast⟩ := c.toRecorder.since_spec hforward he.scale left.entry.started
  let r := (c.toRecorder.since env left.entry.started).2
  obtain ⟨call, hcall, hname, hleave⟩ : ∃ call : FunctionCall ℚ,
      call.duration = (c.toRecorder.since env left.entry.started).1
      ∧ call.name = left.entry.name
      ∧ c.endLeave env left arguments
        = (c.withRecorder (r.emit (.functionCall call))).andThen (fun c => c.sample env) :=
    ⟨_, rfl, rfl, rfl⟩
  have hemit := (Recorder.GoesTo.refl env r).emit (e := .functionCall call) he.blocked rfl
  have hexact : (r.emit (.functionCall call)).setting.IsExact := by
    rw [hemit.setting, hmeasured.setting]
    exact he
  have hsample := hemit.sample hexact.blocked false
  have hlive : (c.withRecorder (r.emit (.functionCall call))).view.IsLive :=
    isLive_of_isExact hexact
  rw [hleave, andThen_eq hlive]
  refine ⟨call, hmeasured.trans hsample, rfl, hname, ?_, ?_⟩
  · intro time htime
    rw [hcall]
    exact hduration time htime
  · rw [hcall]
    exact hpast.later hsample.later

end Collector

/-! ### Runs -/

section

variable {σ : Type} (env : Instruments σ ℚ)

/-- A body tells the deeds that lead from a collector without an open line to another one. -/
structure Tells (c : Collector σ ℚ) (deeds : List Deed) (b : Body ℚ) (d : Collector σ ℚ) : Prop where
  deeds : b.deeds = deeds
  goes : c.GoesTo env b.reports d.toRecorder
  closed : d.openLine = none
  inclusive : ∀ line ∈ b.allLines, IsInclusive line

/-- A call tells the deed that leads from a collector to another one with the same open line.  The
call begins after all that was past, and is past itself in the end. -/
structure TellsCall (c : Collector σ ℚ) (deed : Deed) (t : CallTree ℚ) (d : Collector σ ℚ) :
    Prop where
  deed : t.deed = deed
  goes : c.GoesTo env t.reports d.toRecorder
  openLine : d.openLine = c.openLine
  inclusive : ∀ line ∈ t.lines, IsInclusive line
  lasts : t.Lasts
  past : ∀ time, env.IsPast time c.surroundings →
    env.IsPast (time + t.event.duration) d.surroundings

/-- Calls tell the deeds of texts, which lead from a collector to another one with the same open
line.  Each call begins after all that was past, and is past itself in the end. -/
structure TellsCalls (c : Collector σ ℚ) (deeds : List Deed) (ts : List (CallTree ℚ))
    (d : Collector σ ℚ) : Prop where
  deeds : deedsOfCalls ts = deeds
  goes : c.GoesTo env (reportsOfCalls ts) d.toRecorder
  openLine : d.openLine = c.openLine
  inclusive : ∀ line ∈ linesOfCalls ts, IsInclusive line
  past : ∀ time, env.IsPast time c.surroundings →
    ∀ u ∈ allOf ts, env.IsPast (time + u.event.duration) d.surroundings

/-- A line with its calls, and the lines behind it, tell the deeds that lead from a collector with
that open line to one without.  The line is done no sooner than all that was past, and its calls
after that. -/
structure TellsLine (c : Collector σ ℚ) (l : OpenLine ℚ) (deeds : List Deed)
    (line : LineExecution ℚ) (calls : List (CallTree ℚ))
    (rest : List (LineExecution ℚ × List (CallTree ℚ))) (d : Collector σ ℚ) : Prop where
  number : line.line = l.line
  deeds : deedsOfCalls calls ++ deedsOfLines rest = deeds
  goes : c.GoesTo env (reportsOfCalls calls ++ .executionFlow line :: reportsOfLines rest)
    d.toRecorder
  closed : d.openLine = none
  inclusive : ∀ other ∈ linesOfCalls calls ++ linesOfLines rest, IsInclusive other
  callsLast : ∀ t ∈ calls, t.Lasts
  lasts : ∀ time, env.IsPast time c.surroundings →
    time + (calls.map fun t => t.event.duration).sum ≤ l.started + line.duration

/-- A line that has begun lasts as long as its calls. -/
theorem TellsLine.isInclusive {env : Instruments σ ℚ} {c d : Collector σ ℚ} {l : OpenLine ℚ}
    {deeds : List Deed} {line : LineExecution ℚ} {calls : List (CallTree ℚ)}
    {rest : List (LineExecution ℚ × List (CallTree ℚ))}
    (h : TellsLine env c l deeds line calls rest d) (hl : env.IsPast l.started c.surroundings) :
  IsInclusive (line, calls)
  := by
  constructor
  · exact h.callsLast
  · exact le_of_add_le_add_left (h.lasts l.started hl)

end

namespace Collector

variable {σ : Type} {env : Instruments σ ℚ} {c d : Collector σ ℚ} {l : OpenLine ℚ}

/-- A call that is left comes to its end behind the texts of its arguments. -/
theorem perform_call_eq {name : String} {arguments : List Value} {body shown : List Deed}
    {e : Entry ℚ} {left : Departure ℚ} {resumed leaving : Collector σ ℚ}
    (hentry : (c.suspendLine.2.enter env name).1 = some e)
    (hresume : ((c.suspendLine.2.enter env name).2.performAll env body).resumeLine env c.openLine
      = resumed)
    (hresumed : resumed.view.IsLive) (hleave : resumed.beginLeave env (some e) = (some left, leaving))
    (hleaving : leaving.view.IsLive) :
  c.perform env (.call name arguments body shown)
    = (leaving.performAll env shown).endLeave env left arguments
  := by
  have hcall : c.perform env (.call name arguments body shown)
      = (((c.suspendLine.2.enter env name).2.performAll env body).resumeLine env c.openLine).andThen
          fun d => atOnce (d.beginLeave env (c.suspendLine.2.enter env name).1) fun d left =>
            (d.performAll env shown).endLeave env left arguments := rfl
  rw [hcall, hresume, hentry, andThen_eq hresumed, hleave, atOnce_eq hleaving]

variable (hforward : env.RunsForward)

include hforward

/-- A call tells its deed when a body tells the deeds of the call, and calls tell those of the
texts of its arguments. -/
theorem exists_tellsCall_of_tells (he : c.setting.IsExact) (name : String) (arguments : List Value)
    {body shown : List Deed}
    (hbody : ∀ c : Collector σ ℚ, c.setting.IsExact → c.openLine = none →
      ∃ b, Tells env c body b ((c.performAll env body).closeLine env))
    (hshown : ∀ c : Collector σ ℚ, c.setting.IsExact →
      ∃ ts, TellsCalls env c shown ts (c.performAll env shown)) :
  ∃ t, TellsCall env c (.call name arguments body shown) t
    (c.perform env (.call name arguments body shown))
  := by
  obtain ⟨e, hentry, hgo, hnone, hname, hafter, hpast⟩ := enter_spec hforward he name
  let entered := (c.suspendLine.2.enter env name).2
  have hexact : entered.setting.IsExact := by
    rw [hgo.setting]
    exact he
  obtain ⟨b, hb⟩ := hbody entered hexact hnone
  -- the last line of the body is done before the call is left
  let closed := (entered.performAll env body).closeLine env
  let resumed : Collector σ ℚ := { closed with openLine := c.openLine }
  have hclosed : closed.setting.IsExact := by
    rw [hb.goes.setting]
    exact hexact
  have hresume : (entered.performAll env body).resumeLine env c.openLine = resumed :=
    andThen_eq (isLive_of_isExact hclosed) _
  -- the line of the caller is open while the texts are made
  obtain ⟨left, hleft, hleftEntry, hleaves, hleftOpen⟩ := beginLeave_spec env resumed e
  let leaving := (resumed.beginLeave env (some e)).2
  have hleaving : leaving.setting.IsExact := by
    rw [hleaves.setting]
    exact hclosed
  obtain ⟨ts, hts⟩ := hshown leaving hleaving
  let told := leaving.performAll env shown
  have htold : told.setting.IsExact := by
    rw [hts.goes.setting]
    exact hleaving
  have hperform : c.perform env (.call name arguments body shown)
      = told.endLeave env left arguments :=
    perform_call_eq hentry hresume (isLive_of_isExact hclosed) (Prod.ext hleft rfl)
      (isLive_of_isExact hleaving)
  obtain ⟨event, hends, hopen, hevent, hlasts, hover⟩ := endLeave_spec hforward htold left arguments
  rw [hleftEntry] at hevent hlasts hover
  have hstarted : env.IsPast e.started leaving.surroundings :=
    (hpast.later hb.goes.later).later hleaves.later
  use .node event arguments b.early b.lines ts
  rw [hperform]
  constructor
  · rw [CallTree.deed, hevent, hname, hts.deeds]
    exact congrArg (Deed.call name arguments · shown) hb.deeds
  · exact (hgo.trans hb.goes).trans (hleaves.trans (hts.goes.trans hends))
  · rw [hopen, hts.openLine, hleftOpen]
  · exact List.forall_mem_append.mpr ⟨hb.inclusive, hts.inclusive⟩
  · constructor
    · apply nonneg_of_le_add_right
      exact hlasts e.started (hstarted.later hts.goes.later)
    · -- the calls of the texts were over before the call is
      intro u hu
      rcases List.mem_cons.mp hu with rfl | hu
      · exact le_refl _
      · apply le_of_add_le_add_left
        exact hlasts _ (hts.past e.started hstarted u hu)
  · intro time htime
    apply hover.mono
    exact add_le_add_left (hafter time htime) _

omit hforward

mutual

/-- A call tells what is done with it. -/
theorem exists_tellsCall (hforward : env.RunsForward) {c : Collector σ ℚ} (he : c.setting.IsExact) :
  (d : Deed) → d.isCall = true → d.isCalm = true → ∃ t, TellsCall env c d t (c.perform env d)
  | .call name arguments body shown, _, hcalm => by
      rw [Deed.isCalm, Bool.and_eq_true, Bool.and_eq_true] at hcalm
      apply exists_tellsCall_of_tells hforward he
      · exact fun c he hopen => exists_tells hforward he hopen body hcalm.1
      · exact fun c he => exists_tellsCalls hforward he shown hcalm.2.1 hcalm.2.2

/-- Calls tell what is done with them. -/
theorem exists_tellsCalls (hforward : env.RunsForward) {c : Collector σ ℚ} (he : c.setting.IsExact) :
  (ds : List Deed) → ds.all Deed.isCall = true → areCalm ds = true →
    ∃ ts, TellsCalls env c ds ts (c.performAll env ds)
  | [], _, _ => by
      refine ⟨[], rfl, .refl env _, rfl, ?_, ?_⟩
      · rintro line ⟨⟩
      · rintro time htime t ⟨⟩
  | d :: ds, hcalls, hcalm => by
      rw [List.all_cons, Bool.and_eq_true] at hcalls
      rw [areCalm, Bool.and_eq_true] at hcalm
      obtain ⟨t, ht⟩ := exists_tellsCall hforward he d hcalls.1 hcalm.1
      have hexact : (c.perform env d).setting.IsExact := by
        rw [ht.goes.setting]
        exact he
      obtain ⟨ts, hts⟩ := exists_tellsCalls hforward hexact ds hcalls.2 hcalm.2
      refine ⟨t :: ts, ?_, ht.goes.trans hts.goes, hts.openLine.trans ht.openLine, ?_, ?_⟩
      · rw [← ht.deed, ← hts.deeds]
        rfl
      · exact List.forall_mem_append.mpr ⟨ht.inclusive, hts.inclusive⟩
      · intro time htime u hu
        rcases List.mem_append.mp hu with hu | hu
        · have hpast := (ht.past time htime).later hts.goes.later
          apply hpast.mono
          exact add_le_add_right (ht.lasts.shown u hu) time
        · -- what was past before the first call is past behind it
          exact hts.past time (htime.later ht.goes.later) u hu

/-- From a collector without an open line on, a body tells what is done. -/
theorem exists_tells (hforward : env.RunsForward) {c : Collector σ ℚ} (he : c.setting.IsExact)
    (hopen : c.openLine = none) :
  (ds : List Deed) → areCalm ds = true →
    ∃ b, Tells env c ds b ((c.performAll env ds).closeLine env)
  | [], _ => by
      have hclose : (c.performAll env []).closeLine env = c := closeLine_of_none hopen
      rw [hclose]
      refine ⟨{}, rfl, .refl env _, hopen, ?_⟩
      rintro line ⟨⟩
  | .line number :: ds, hcalm => by
      obtain ⟨l, hbegin, hl, hnumber, hpast⟩ := beginLine_spec hforward he
        (closeLine_of_none hopen).symm rfl number
      have hexact : (c.beginLine env number).setting.IsExact := by
        rw [hbegin.setting]
        exact he
      obtain ⟨line, calls, rest, h⟩ := exists_tellsLine hforward hexact hl ds hcalm
      refine ⟨⟨[], (line, calls) :: rest⟩, ?_, hbegin.trans h.goes, h.closed, ?_⟩
      · rw [← hnumber, ← h.number, ← h.deeds]
        rfl
      · exact forall_linesOfLines h.inclusive (h.isInclusive hpast)
  | .call name arguments body shown :: ds, hcalm => by
      rw [areCalm, Bool.and_eq_true] at hcalm
      obtain ⟨t, ht⟩ := exists_tellsCall hforward he (.call name arguments body shown) rfl hcalm.1
      have hexact : (c.perform env (.call name arguments body shown)).setting.IsExact := by
        rw [ht.goes.setting]
        exact he
      obtain ⟨b, hb⟩ := exists_tells hforward hexact (ht.openLine.trans hopen) ds hcalm.2
      have hreports : (⟨t :: b.early, b.lines⟩ : Body ℚ).reports = t.reports ++ b.reports :=
        List.append_assoc ..
      have hlines : (⟨t :: b.early, b.lines⟩ : Body ℚ).allLines = t.lines ++ b.allLines :=
        List.append_assoc ..
      refine ⟨⟨t :: b.early, b.lines⟩, ?_, ?_, hb.closed, ?_⟩
      · rw [← ht.deed, ← hb.deeds]
        rfl
      · rw [hreports]
        exact ht.goes.trans hb.goes
      · rw [hlines]
        exact List.forall_mem_append.mpr ⟨ht.inclusive, hb.inclusive⟩

/-- From a collector with an open line on, a line and the lines behind it tell what is done. -/
theorem exists_tellsLine (hforward : env.RunsForward) {c : Collector σ ℚ} {l : OpenLine ℚ}
    (he : c.setting.IsExact) (hopen : c.openLine = some l) :
  (ds : List Deed) → areCalm ds = true → ∃ line calls rest,
    TellsLine env c l ds line calls rest ((c.performAll env ds).closeLine env)
  | [], _ => by
      obtain ⟨line, hclose, hnone, hnumber, hlasts⟩ := closeLine_spec hforward he hopen
      refine ⟨line, [], [], hnumber, rfl, hclose, hnone, ?_, ?_, ?_⟩
      · rintro other ⟨⟩
      · rintro t ⟨⟩
      · intro time htime
        rw [List.map_nil, List.sum_nil, add_zero]
        exact hlasts time htime
  | .line number :: ds, hcalm => by
      obtain ⟨line, hclose, hnone, hnumber, hlasts⟩ := closeLine_spec hforward he hopen
      obtain ⟨next, hbegin, hnext, hnextNumber, hpast⟩ := beginLine_spec hforward he rfl
        hclose.setting number
      have hexact : (c.beginLine env number).setting.IsExact := by
        rw [hbegin.setting, hclose.setting]
        exact he
      obtain ⟨nextLine, calls, rest, h⟩ := exists_tellsLine hforward hexact hnext ds hcalm
      refine ⟨line, [], (nextLine, calls) :: rest, hnumber, ?_, ?_, h.closed, ?_, ?_, ?_⟩
      · rw [← hnextNumber, ← h.number, ← h.deeds]
        rfl
      · exact (hclose.trans hbegin).trans h.goes
      · exact forall_linesOfLines h.inclusive (h.isInclusive hpast)
      · rintro t ⟨⟩
      · intro time htime
        rw [List.map_nil, List.sum_nil, add_zero]
        exact hlasts time htime
  | .call name arguments body shown :: ds, hcalm => by
      rw [areCalm, Bool.and_eq_true] at hcalm
      obtain ⟨t, ht⟩ := exists_tellsCall hforward he (.call name arguments body shown) rfl hcalm.1
      have hexact : (c.perform env (.call name arguments body shown)).setting.IsExact := by
        rw [ht.goes.setting]
        exact he
      obtain ⟨line, calls, rest, h⟩ := exists_tellsLine hforward hexact (ht.openLine.trans hopen) ds hcalm.2
      refine ⟨line, t :: calls, rest, h.number, ?_, ?_, h.closed, ?_, ?_, ?_⟩
      · rw [← ht.deed, ← h.deeds]
        rfl
      · rw [reportsOfCalls, List.append_assoc]
        exact ht.goes.trans h.goes
      · rw [linesOfCalls, List.append_assoc]
        exact List.forall_mem_append.mpr ⟨ht.inclusive, h.inclusive⟩
      · exact List.forall_mem_cons.mpr ⟨ht.lasts, h.callsLast⟩
      · -- the line lasts up to the end of its first call, and from there as long as the others
        intro time htime
        rw [List.map_cons, List.sum_cons, ← add_assoc]
        exact h.lasts _ (ht.past time htime)

end

end Collector

/-- A body tells the deeds of a snippet and all that its trace reports of lines and calls, and the
lines include the calls that they have made. -/
structure IsToldBy (trace : Trace ℚ) (deeds : List Deed) (b : Body ℚ) : Prop where
  deeds : b.deeds = deeds
  reports : trace.filter isReport = b.reports
  /-- Each line has a single event. -/
  single : trace.steps = b.allLines.map Prod.fst
  /-- It comes behind the events of the calls of the line, and of those that their texts have
  made. -/
  behind : ∀ line calls, (line, calls) ∈ b.allLines → ∀ t ∈ allOf calls,
    List.Sublist [.functionCall t.event, .executionFlow line] trace
  call_le : ∀ line calls, (line, calls) ∈ b.allLines → ∀ t ∈ allOf calls,
    t.event.duration ≤ line.duration
  sum_le : ∀ line calls, (line, calls) ∈ b.allLines →
    (calls.map fun t => t.event.duration).sum ≤ line.duration

/-- A body tells a trace when it has the same reports and its lines are inclusive. -/
theorem isToldBy_of_isInclusive {trace : Trace ℚ} {deeds : List Deed} {b : Body ℚ}
    (hdeeds : b.deeds = deeds) (hreports : trace.filter isReport = b.reports)
    (hlines : ∀ l ∈ b.allLines, IsInclusive l) :
  IsToldBy trace deeds b
  := by
  constructor
  · exact hdeeds
  · exact hreports
  · have hsteps : Trace.steps (trace.filter isReport) = trace.steps := by
      rw [Trace.steps, List.filterMap_filter]
      apply congrArg (List.filterMap · trace)
      funext e
      cases e with
      | _ => rfl
    rw [← hsteps, hreports, Body.allLines, List.map_append, ← steps_reportsOfCalls,
      ← steps_reportsOfLines]
    exact List.filterMap_append ..
  · intro line calls hline t ht
    have hpair : List.Sublist [.functionCall t.event, .executionFlow line]
        (reportsOfCalls calls ++ [.executionFlow line]) :=
      (List.singleton_sublist.mpr (mem_reportsOfCalls calls ht)).append (List.Sublist.refl _)
    have hinfix : reportsOfCalls calls ++ [.executionFlow line] <:+: trace.filter isReport := by
      rw [hreports]
      exact isInfix_append_of_mem hline (isInfix_reportsOfCalls b.early)
        (isInfix_reportsOfLines b.lines)
    exact (hpair.trans hinfix.sublist).trans List.filter_sublist
  · intro line calls hline u hu
    have hinclusive := hlines _ hline
    obtain ⟨t, ht, hut⟩ := exists_mem_of_mem_allOf hu
    have hdurations : ∀ x ∈ calls.map fun t => t.event.duration, 0 ≤ x :=
      List.forall_mem_map.mpr fun t ht => (hinclusive.calls t ht).nonneg
    calc u.event.duration
      _ ≤ t.event.duration := (hinclusive.calls t ht).shown u hut
      _ ≤ (calls.map fun t => t.event.duration).sum :=
          List.single_le_sum hdurations _ (List.mem_map_of_mem ht)
      _ ≤ line.duration := hinclusive.sum_le
  · intro line calls hline
    exact (hlines _ hline).sum_le

/-- A snippet that begins lines and makes calls, which return or throw before the next deed, reports
each line once, behind the calls that it has made, and as lasting at least as long as all these calls
together, if its clock never goes back and the texts of its arguments begin no lines, except in calls.
A session whose steps begin lines and make calls does what such a snippet does. -/
theorem lines_includeCalls (options : TrackingOptions) (lines : List String) (script : String)
    (offset : Int) (thrown : Option Thrown) :
  (∀ (instruments : Scripted) (actions : List Action), areNested actions = true →
      (((({ instruments } : Session).start options lines script offset).1.steps actions).hook
          "finished" fun c => c.finish scripted thrown).1.written
        = Collector.notesOf scripted options lines script offset 0 instruments
            (actions.flatMap Action.deeds) thrown)
    ∧ ∀ (σ : Type) (env : Instruments σ ℚ) (next : Nat) (surroundings : σ) (deeds : List Deed),
        env.RunsForward → options.functions = true → options.executionFlow = true →
        areCalm deeds = true →
        ∃ b, IsToldBy (eventsOf (Collector.notesOf env options lines script offset next surroundings
          deeds thrown)) deeds b
  := by
  constructor
  · intro instruments actions ha
    exact Session.written_of_areNested instruments options lines script offset ha thrown
  · intro σ env next surroundings deeds hforward hfunctions hflow hcalm
    obtain ⟨hexact, hopen, hnothing⟩ := Collector.start_spec env hfunctions hflow lines script offset
      next surroundings
    obtain ⟨b, hb⟩ := Collector.exists_tells hforward hexact hopen deeds hcalm
    rw [← hb.goes.setting] at hexact
    have hreports := hb.goes.written
    rw [hnothing, List.nil_append, ← Collector.reportsIn_finish hexact thrown] at hreports
    exact ⟨b, isToldBy_of_isInclusive hb.deeds hreports hb.inclusive⟩

/-- A clock that shows the number of its readings. -/
def ticking : Instruments Nat ℚ where
  clock n := (n, n + 1)
  memory n := ((0, 0), n)

theorem runsForward_ticking :
  ticking.RunsForward
  := by
  intro n t ht
  have hle : n + 1 ≤ t := by
    induction ht with
    | refl => exact le_refl _
    | tail _ hmove ih =>
        cases hmove with
        | clock => exact ih.trans (Nat.le_succ _)
        | memory => exact ih
  exact Nat.cast_le.mpr ((Nat.le_succ n).trans hle)

/-- A line makes two calls, the first of which makes a call itself, and the second one throws. -/
def descending : List Action :=
  [.beginLine 1,
    .call { name := "walk", ownName := "walk" }
      [.beginLine 5, .call { name := "step", ownName := "step" } [.beginLine 8]],
    .call { name := "check", ownName := "check", throws := some (.plain "no") } [.beginLine 9],
    .beginLine 2]

/-- A line makes two calls, and the text of an argument of the first one makes a call. -/
def inspecting : List Deed :=
  [.line 1,
    .call "walk" [.null] [.line 5, .call "step" [] [.line 8] []] [.call "toJSON" [] [.line 12] []],
    .call "check" [] [.line 9] [],
    .line 2]

/-- The lines of a snippet include their calls, and those that the texts of arguments make. -/
theorem lines_includeCalls_inspecting :
  (((({} : Session).start {} [] "" 0).1.steps descending).hook "finished"
      fun c => c.finish scripted none).1.written
    = Collector.notesOf scripted {} [] "" 0 0 {} (descending.flatMap Action.deeds) none
  ∧ ticking.RunsForward
  ∧ ∃ b, IsToldBy (eventsOf (Collector.notesOf ticking {} [] "" 0 0 0 inspecting none)) inspecting b
    ∧ b.allLines.map (fun l => (l.1.line, l.1.duration))
      = [(8, 2), (5, 9), (12, 2), (9, 2), (1, 30), (2, 2)]
  := by
  obtain ⟨hsession, hsnippet⟩ := lines_includeCalls {} [] "" 0 none
  obtain ⟨b, hb⟩ := hsnippet Nat ticking 0 0 inspecting runsForward_ticking rfl rfl rfl
  refine ⟨hsession {} descending rfl, runsForward_ticking, b, hb, ?_⟩
  have hsteps : (Trace.steps (eventsOf (Collector.notesOf ticking {} [] "" 0 0 0 inspecting none))).map
      (fun l => (l.line, l.duration))
        = [(8, 2), (5, 9), (12, 2), (9, 2), (1, 30), (2, 2)] := by decide +kernel
  rw [hb.single, List.map_map] at hsteps
  exact hsteps

/-- When the text of an argument begins a line, the line that has made the call may be reported in
front of the call, and as lasting shorter than the call. -/
theorem lines_not_always_includeCalls :
  ticking.RunsForward
  ∧ (eventsOf (Collector.notesOf ticking {} [] "" 0 0 0
      [.line 1, .call "walk" [.null] [.line 5] [.line 12], .line 2] none)).filter isReport
    = [.executionFlow ⟨5, 5, "", 2⟩, .executionFlow ⟨8, 1, "", 7⟩,
        .functionCall ⟨7, "walk", some "global", ["null"], 8⟩, .executionFlow ⟨13, 12, "", 4⟩,
        .executionFlow ⟨16, 2, "", 2⟩]
  := by
  constructor
  · exact runsForward_ticking
  · decide +kernel

end SnippetProfiler.Braced
