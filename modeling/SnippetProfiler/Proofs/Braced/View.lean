import SnippetProfiler.Braced.Session
import SnippetProfiler.Proofs.Probe.Calls

/-!
# Views of collectors

What a collector knows of lines and calls, apart from its clock, is its view: what it has reported,
the calls on its stack, the line that is open, and the number of the next call.  Each hook changes
the view of a collector whose output refuses nothing in a way that depends on nothing else.

A session shows the view of its collector.  So a hook that a session calls changes what it shows.
-/

namespace SnippetProfiler.Braced

open Probe (Account Instruments Recorder Scripted scripted callsIn linesIn)

/-! ### Views -/

/-- A call on the stack as a call with its number, its name and its caller. -/
def Entry.call {τ : Type} (e : Entry τ) : Probe.Call := ⟨e.number, e.name, e.caller⟩

/-- What a collector knows of lines and calls. -/
structure View where
  account : Account
  stack : List Probe.Call
  openLine : Option Int
  next : Nat

namespace View

/-- The view of a collector whose output refuses nothing. -/
structure IsLive (v : View) : Prop where
  blocked : v.account.blocked = false
  refused : v.account.refused = false

/-- The line that is open is reported. -/
def closeLine (v : View) : View :=
  { v with
    account := { v.account with lines := v.account.lines ++ v.openLine.toList }
    openLine := none }

/-- The line that is open is reported, and another one is open. -/
def openNext (v : View) (line : Option Int) : View := { v.closeLine with openLine := line }

/-- The call that is entered next. -/
def nextCall (v : View) (name : String) : Probe.Call :=
  ⟨v.next, name, (v.stack.getLast?.map Probe.Call.name).getD "global"⟩

/-- A call is entered, and the line that is open is put aside. -/
def enter (v : View) (name : String) : View :=
  { v with stack := v.stack ++ [v.nextCall name], openLine := none, next := v.next + 1 }

/-- What a call gets that is entered: the line that is open and an entry. -/
def Gives (v : View) (name : String) (given : Option (OpenLine Float) × Option (Entry Float)) :
    Prop :=
  given.1.map OpenLine.line = v.openLine ∧ given.2.map Entry.call = some (v.nextCall name)

/-- A call is left and reported. -/
def leave (v : View) (call : Probe.Call) : View :=
  { v with
    account := { v.account with calls := v.account.calls ++ [(call.name, some call.caller)] }
    stack := v.stack.filter fun other => other.number ≠ call.number }

/-- The line that is open is reported, and the program has ended. -/
def finish (v : View) : View :=
  { v.closeLine with account := { v.closeLine.account with finished := true } }

variable {v : View}

theorem IsLive.closeLine (h : v.IsLive) :
  v.closeLine.IsLive
  := ⟨h.blocked, h.refused⟩

theorem IsLive.openNext (h : v.IsLive) (line : Option Int) :
  (v.openNext line).IsLive
  := ⟨h.blocked, h.refused⟩

theorem IsLive.enter (h : v.IsLive) (name : String) :
  (v.enter name).IsLive
  := ⟨h.blocked, h.refused⟩

theorem IsLive.leave (h : v.IsLive) (call : Probe.Call) :
  (v.leave call).IsLive
  := ⟨h.blocked, h.refused⟩

theorem IsLive.finish (h : v.IsLive) :
  v.finish.IsLive
  := ⟨h.blocked, h.refused⟩

end View

/-! ### Hooks -/

namespace Collector

variable {σ τ : Type} {c : Collector σ τ}

/-- The view of a collector. -/
def view (c : Collector σ τ) : View where
  account := c.toRecorder.account
  stack := c.stack.map Entry.call
  openLine := c.openLine.map OpenLine.line
  next := c.next

theorem andThen_eq (h : c.view.IsLive) (f : Collector σ τ → Collector σ τ) :
  c.andThen f = f c
  := by
  have hrefused : c.refused = false := h.refused
  rw [Collector.andThen, hrefused]
  rfl

/-- A collector has the view of another one when their accounts are the same. -/
theorem view_withRecorder {r : Recorder σ τ} (h : r.account = c.toRecorder.account) :
  (c.withRecorder r).view = c.view
  := by
  rw [view, view, ← h]
  rfl

/-- A collector whose stack has lost a call. -/
def without (c : Collector σ τ) (number : Nat) : Collector σ τ :=
  { c with stack := c.stack.filter fun other => other.number ≠ number }

theorem view_without (r : Recorder σ τ) (number : Nat) :
  ((c.without number).withRecorder r).view
    = { c.view with
        account := r.account
        stack := c.view.stack.filter fun other => other.number ≠ number }
  := by
  simp only [view, without, withRecorder, List.filter_map]
  rfl

variable [Quantity τ] (env : Instruments σ τ)

theorem view_closeLine (h : c.view.IsLive) :
  (c.closeLine env).view = c.view.closeLine
  := by
  cases hopen : c.openLine with
  | none =>
      simp only [Collector.closeLine, hopen, view, View.closeLine, Option.map_none,
        Option.toList_none, List.append_nil]
  | some l =>
      obtain ⟨r, step, hview, hr, hline⟩ : ∃ (r : Recorder σ τ) (step : LineExecution τ),
          (c.closeLine env).view
            = { c.view with account := (r.emit (.executionFlow step)).account, openLine := none }
          ∧ r.account = c.toRecorder.account ∧ step.line = l.line := by
        simp only [Collector.closeLine, hopen]
        exact ⟨_, _, rfl, rfl, rfl⟩
      have hblocked : r.blocked = false := (congrArg Account.blocked hr).trans h.blocked
      rw [hview, Recorder.account_executionFlow hblocked, hr, hline]
      simp only [View.closeLine, view, hopen, Option.map_some, Option.toList_some]

theorem view_beginLine (h : c.view.IsLive) (hflow : c.options.executionFlow = true) (line : Int) :
  (c.beginLine env line).view = c.view.openNext (some line)
  := by
  have hclose := view_closeLine env h
  have hlive : (c.closeLine env).view.IsLive := by
    rw [hclose]
    exact h.closeLine
  rw [Collector.beginLine, if_pos hflow, andThen_eq hlive, View.openNext, ← hclose]
  rfl

theorem view_resumeLine (h : c.view.IsLive) (outer : Option (OpenLine τ)) :
  (c.resumeLine env outer).view = c.view.openNext (outer.map OpenLine.line)
  := by
  have hclose := view_closeLine env h
  have hlive : (c.closeLine env).view.IsLive := by
    rw [hclose]
    exact h.closeLine
  rw [Collector.resumeLine, andThen_eq hlive, View.openNext, ← hclose]
  rfl

omit [Quantity τ] in
/-- The second part of a hook follows the first one if a collector refuses nothing. -/
theorem atOnce_eq {α : Type} (h : c.view.IsLive) (a : α) (rest : Collector σ τ → α → Collector σ τ) :
  atOnce (some a, c) rest = rest c a
  := andThen_eq h fun c => rest c a

/-- A variable that gets a value changes no view. -/
theorem view_assigned (h : c.view.IsLive) (name : String) (value : Value) (line : Option Int) :
  (atOnce (c.beginAssign env name value line) endAssign).view = c.view
  := by
  rw [beginAssign]
  split
  · let timed := c.withRecorder (c.toRecorder.now env).2
    have htimed : timed.view = c.view := view_withRecorder rfl
    have hlive : timed.view.IsLive := by
      rw [htimed]
      exact h
    show (atOnce (some _, timed) endAssign).view = c.view
    rw [atOnce_eq hlive, endAssign, view_withRecorder]
    · exact htimed
    · apply Recorder.account_emit_other
      · exact hlive.blocked
      · rfl
      · rfl
  · rfl

theorem view_assign (h : c.view.IsLive) (entries : List (String × Value × Option Int)) :
  (c.assign env entries).view = c.view
  := by
  induction entries generalizing c with
  | nil => rfl
  | cons entry entries ih =>
      obtain ⟨name, value, line⟩ := entry
      have hfirst := view_assigned env h name value line
      have hlive : (atOnce (c.beginAssign env name value line) endAssign).view.IsLive := by
        rw [hfirst]
        exact h
      rw [Collector.assign, andThen_eq hlive, ih hlive, hfirst]

theorem view_sample (h : c.view.IsLive) (forced : Bool) :
  (c.sample env forced).view = c.view
  := by
  apply view_withRecorder
  apply Recorder.account_sample env h.blocked

omit [Quantity τ] in
/-- A call is entered when calls are tracked. -/
theorem view_enter (hfunctions : c.options.functions = true) (name : String) :
  (c.suspendLine.2.enter env name).1.map Entry.call = some (c.view.nextCall name)
    ∧ (c.suspendLine.2.enter env name).2.view = c.view.enter name
  := by
  have htop : ((c.stack.map Entry.call).getLast?.map Probe.Call.name).getD "global"
      = (c.stack.getLast?.map Entry.name).getD outermost := by
    rw [List.getLast?_map, Option.map_map]
    rfl
  have htracked : c.suspendLine.2.options.functions = true := hfunctions
  rw [Collector.enter, if_pos htracked]
  constructor
  · rw [View.nextCall, view, htop]
    rfl
  · rw [View.enter, View.nextCall, view, view, htop, List.map_append]
    rfl

/-- The call that is left goes from the stack. -/
theorem view_beginLeave (e : Entry τ) :
  ∃ d, (c.beginLeave env (some e)).1 = some d ∧ d.entry = e
    ∧ (c.beginLeave env (some e)).2.view
      = { c.view with stack := c.view.stack.filter fun other => other.number ≠ e.number }
  := by
  refine ⟨_, rfl, rfl, ?_⟩
  exact view_without ((c.without e.number).toRecorder.now env).2 e.number

/-- The call is reported. -/
theorem view_endLeave (h : c.view.IsLive) (d : Departure τ) (arguments : List Value) :
  (c.endLeave env d arguments).view
    = { c.view with account := { c.view.account with
        calls := c.view.account.calls ++ [(d.entry.name, some d.entry.caller)] } }
  := by
  obtain ⟨r, call, hleave, hr, hname, hcaller⟩ : ∃ (r : Recorder σ τ) (call : FunctionCall τ),
      c.endLeave env d arguments
        = (c.withRecorder (r.emit (.functionCall call))).andThen (fun c => c.sample env)
      ∧ r.account = c.toRecorder.account ∧ call.name = d.entry.name
      ∧ call.caller = some d.entry.caller :=
    ⟨_, _, rfl, rfl, rfl, rfl⟩
  have hblocked : r.blocked = false := (congrArg Account.blocked hr).trans h.blocked
  have hview : (c.withRecorder (r.emit (.functionCall call))).view
      = { c.view with account := { c.view.account with
          calls := c.view.account.calls ++ [(d.entry.name, some d.entry.caller)] } } := by
    have haccount := Recorder.account_functionCall hblocked call
    rw [hr, hname, hcaller] at haccount
    exact congrArg (fun account => { c.view with account }) haccount
  have hlive : (c.withRecorder (r.emit (.functionCall call))).view.IsLive := by
    rw [hview]
    exact ⟨h.blocked, h.refused⟩
  rw [hleave, andThen_eq hlive, view_sample env hlive, hview]

theorem view_leave (h : c.view.IsLive) (e : Entry τ) (arguments : List Value) :
  (c.leave env (some e) arguments).view = c.view.leave e.call
  := by
  obtain ⟨d, hd, rfl, hview⟩ := view_beginLeave env e (c := c)
  have hlive : (c.beginLeave env (some d.entry)).2.view.IsLive := by
    rw [hview]
    exact ⟨h.blocked, h.refused⟩
  have hbegun : c.beginLeave env (some d.entry) = (some d, (c.beginLeave env (some d.entry)).2) :=
    Prod.ext hd rfl
  rw [Collector.leave, hbegun, atOnce_eq hlive, view_endLeave env hlive, hview]
  rfl

theorem view_finish (h : c.view.IsLive) (hunfinished : c.finished = false) (thrown : Option Thrown) :
  (c.finish env thrown).view = c.view.finish
  := by
  let closed := ({ c with finished := true } : Collector σ τ).closeLine env
  have hclosed : closed.view = c.view.finish :=
    view_closeLine env (c := { c with finished := true }) ⟨h.blocked, h.refused⟩
  have hlive : closed.view.IsLive := by
    rw [hclosed]
    exact h.finish
  have hgoesOn := andThen_eq hlive
  rw [Collector.finish, beginFinish, hunfinished]
  cases thrown with
  | none =>
      show (closed.andThen _).view = c.view.finish
      rw [hgoesOn, view_withRecorder, hclosed]
      exact Recorder.account_conclude env hlive.blocked
  | some t =>
      show (atOnce (some t, closed.andThen fun c => c.sample env true) endFinish).view = c.view.finish
      have hsample := view_sample env hlive true
      rw [hgoesOn, atOnce_eq, endFinish, view_withRecorder, hsample, hclosed]
      · apply Recorder.account_write
        · rw [← hlive.blocked]
          exact congrArg (fun v => v.account.blocked) hsample
        · rfl
      · rw [hsample]
        exact hlive

end Collector

/-! ### Sessions -/

namespace Session

/-- The collector that the hooks of a session get. -/
def current? (s : Session) : Option (Collector Scripted Float) :=
  s.collector.map fun c => c.withRecorder { c.toRecorder with
    surroundings := s.instruments, written := s.written, blocked := s.blocked, refused := false }

/-- A session whose output refuses nothing shows the view of its collector. -/
structure Shows (s : Session) (v : View) : Prop where
  unblocked : s.blocked = false
  view : s.current?.map Collector.view = some v

/-- The calls that wait, with those that have gone on but not ended. -/
def pending (s : Session) : List Waiting := s.failed ++ s.resumed ++ s.waiting

variable {s : Session} {v w : View}

theorem Shows.isLive (h : s.Shows v) :
  v.IsLive
  := by
  obtain ⟨c, hc, rfl⟩ := Option.map_eq_some_iff.mp h.view
  obtain ⟨d, -, rfl⟩ := Option.map_eq_some_iff.mp hc
  exact ⟨h.unblocked, rfl⟩

/-- A session shows the same view when all changes of which its collector knows nothing. -/
theorem Shows.pass {t : Session} (h : s.Shows v) (hcollector : t.collector = s.collector)
    (hwritten : t.written = s.written) (hblocked : t.blocked = s.blocked) :
  t.Shows v
  := by
  constructor
  · rw [hblocked, h.unblocked]
  · rw [← h.view]
    simp only [current?, hcollector, hwritten, hblocked, Option.map_map]
    rfl

/-- What a use of the collector does and gives. -/
theorem use_eq {α : Type} {c : Collector Scripted Float} (h : s.current? = some c)
    (property : String) (f : Collector Scripted Float → α × Collector Scripted Float) :
  s.use property f
    = ({ s with
          instruments := (f c).2.surroundings, written := (f c).2.written, collector := some (f c).2 },
        if (f c).2.refused then .error (.thrown s.refusal) else .ok (f c).1)
  := by
  obtain ⟨d, hd, rfl⟩ := Option.map_eq_some_iff.mp h
  rw [Session.use, hd]

/-- A use of the collector that changes its view changes what the session shows, and gives what the
collector gives. -/
theorem Shows.use {α : Type} (h : s.Shows v) (property : String)
    {f : Collector Scripted Float → α × Collector Scripted Float} {P : α → Prop}
    (hf : ∀ c, c.view = v → (f c).2.view = w ∧ P (f c).1) (hw : w.IsLive) :
  (s.use property f).1.Shows w ∧ ∃ a, (s.use property f).2 = .ok a ∧ P a
  := by
  obtain ⟨c, hc, hview⟩ := Option.map_eq_some_iff.mp h.view
  obtain ⟨hshown, hgiven⟩ := hf c hview
  have hblocked : (f c).2.blocked = false := by
    rw [← hw.blocked, ← hshown]
    rfl
  have hrefused : (f c).2.refused = false := by
    rw [← hw.refused, ← hshown]
    rfl
  rw [use_eq hc]
  constructor
  · constructor
    · exact h.unblocked
    · have haccount : ({ (f c).2.toRecorder with blocked := s.blocked, refused := false }
          : Recorder Scripted Float).account = (f c).2.toRecorder.account := by
        rw [Recorder.account, Recorder.account, h.unblocked, hblocked, hrefused]
      have hkeep := Collector.view_withRecorder haccount
      rw [hshown] at hkeep
      exact congrArg some hkeep
  · use (f c).1
    constructor
    · rw [hrefused]
      rfl
    · exact hgiven

/-- A use of the collector keeps the calls that wait. -/
theorem pending_use {α : Type} (s : Session) (property : String)
    (f : Collector Scripted Float → α × Collector Scripted Float) :
  (s.use property f).1.pending = s.pending
  := by
  rw [Session.use]
  cases s.collector with
  | none => rfl
  | some c => rfl

/-- A hook that changes the view of its collector changes what the session shows, and gives nothing. -/
theorem Shows.hook (h : s.Shows v) (property : String)
    {f : Collector Scripted Float → Collector Scripted Float}
    (hf : ∀ c, c.view = v → (f c).view = w) (hw : w.IsLive) :
  (s.hook property f).1.Shows w ∧ (s.hook property f).2 = .ok .nothing
  := by
  obtain ⟨hshows, given, hgiven, rfl⟩ := h.use property (P := fun given => given = .nothing)
    (f := fun c => (Reply.nothing, f c)) (fun c hc => ⟨hf c hc, rfl⟩) hw
  exact ⟨hshows, hgiven⟩

/-- A line hook opens its line. -/
theorem Shows.beginLine (h : s.Shows v) (hflow : v.account.options.executionFlow = true)
    (line : Int) :
  (s.hook "options" fun c => c.beginLine scripted line).1.Shows (v.openNext (some line))
    ∧ (s.hook "options" fun c => c.beginLine scripted line).2 = .ok .nothing
  := by
  apply h.hook
  · rintro c rfl
    apply Collector.view_beginLine scripted h.isLive hflow
  · apply h.isLive.openNext

theorem Shows.assign (h : s.Shows v) (entries : List (String × Value × Option Int)) :
  (s.hook "options" fun c => c.assign scripted entries).1.Shows v
    ∧ (s.hook "options" fun c => c.assign scripted entries).2 = .ok .nothing
  := by
  apply h.hook
  · rintro c rfl
    apply Collector.view_assign scripted h.isLive
  · exact h.isLive

/-- A call that is entered puts the line that is open aside. -/
theorem Shows.enter (h : s.Shows v) (hfunctions : v.account.options.functions = true) (c : Call) :
  (s.enter c).1.Shows (v.enter c.name)
    ∧ ∃ given, (s.enter c).2 = .ok given ∧ v.Gives c.name given
  := by
  have henter : s.enter c = s.use "openLine" fun d =>
      ((d.openLine, (d.suspendLine.2.enter scripted c.name).1),
        (d.suspendLine.2.enter scripted c.name).2) := rfl
  rw [henter]
  apply h.use
  · rintro d rfl
    obtain ⟨hcall, hview⟩ := Collector.view_enter scripted hfunctions c.name
    exact ⟨hview, rfl, hcall⟩
  · apply h.isLive.enter

/-- The end of the synchronous part of a call that waits opens the line of the caller again. -/
theorem Shows.resumeLine (h : s.Shows v) (outer : Option (OpenLine Float)) :
  (s.hook "openLine" fun c => c.resumeLine scripted outer).1.Shows
      (v.openNext (outer.map OpenLine.line))
    ∧ (s.hook "openLine" fun c => c.resumeLine scripted outer).2 = .ok .nothing
  := by
  apply h.hook
  · rintro c rfl
    apply Collector.view_resumeLine scripted h.isLive
  · apply h.isLive.openNext

theorem Shows.settle (h : s.Shows v) (e : Entry Float) (arguments : List Value) :
  (s.hook "stack" fun c => c.leave scripted (some e) arguments).1.Shows (v.leave e.call)
  := by
  apply And.left
  apply h.hook
  · rintro c rfl
    apply Collector.view_leave scripted h.isLive
  · apply h.isLive.leave

/-- The end of a call opens the line of the caller again, and reports the call. -/
theorem Shows.leave (h : s.Shows v) (c : Call) (outer : Option (OpenLine Float)) (e : Entry Float) :
  (s.leave c outer (some e)).1.Shows ((v.openNext (outer.map OpenLine.line)).leave e.call)
    ∧ (s.leave c outer (some e)).2 = .ok .nothing
  := by
  apply h.hook
  · rintro d rfl
    have hresume := Collector.view_resumeLine scripted h.isLive outer
    have hlive : (d.resumeLine scripted outer).view.IsLive := by
      rw [hresume]
      apply h.isLive.openNext
    rw [Collector.andThen_eq hlive, Collector.view_leave scripted hlive, hresume]
  · apply (h.isLive.openNext _).leave

theorem Shows.finish (h : s.Shows v) (hunfinished : v.account.finished = false)
    (thrown : Option Thrown) :
  (s.hook "finished" fun c => c.finish scripted thrown).1.Shows v.finish
  := by
  apply And.left
  apply h.hook
  · rintro c rfl
    apply Collector.view_finish scripted h.isLive hunfinished
  · exact h.isLive.finish

/-- The view of a collector that has just started. -/
def initialView (options : TrackingOptions) : View where
  account := ⟨options, false, false, false, [], []⟩
  stack := []
  openLine := none
  next := 0

theorem shows_start (instruments : Scripted) (options : TrackingOptions) (lines : List String)
    (script : String) (offset : Int) :
  (({ instruments } : Session).start options lines script offset).1.Shows (initialView options)
  := by
  have hfresh : (initialView options).IsLive := ⟨rfl, rfl⟩
  apply And.left
  apply Shows.hook
  · exact ⟨rfl, rfl⟩
  · intro c hc
    have hview : c.view = initialView options := hc
    rw [← hview] at hfresh
    rw [Collector.view_sample scripted hfresh, hview]
  · exact hfresh

end Session

end SnippetProfiler.Braced
