import SnippetProfiler.Proofs.Braced.View

/-!
# Lines and calls of JavaScript snippets

The line that is open moves between the collector and the wrappers of calls.  A call that is entered
puts it aside, and it is open again when the synchronous part of the call is over: when a call
returns or throws, and also when a call that waits gives its promise.  A call that waits is left
later, when its promise settles; this may happen in any order, and while other calls run.

No line gets lost on these ways.  The lines that have begun are those that are reported, the one that
is open, and those that calls in their synchronous part have put aside.  Nor does a call: each one
that was entered is on the stack or reported, with the caller that was on top of the stack when it
was entered.
-/

namespace SnippetProfiler.Braced

open Probe (CallEvent Calls Scripted callsIn eventsOf linesIn scripted)

/-! ### Activities -/

/-- A call in its synchronous part: the line of its caller that was put aside, and its entry. -/
structure Frame where
  outer : Option (OpenLine Float)
  entry : Option (Entry Float)

/-- The line that a call has put aside. -/
def Frame.line? (f : Frame) : Option Int := f.outer.map OpenLine.line

theorem filterMap_line?_cons (f : Frame) (frames : List Frame) :
  (f :: frames).filterMap Frame.line? = f.line?.toList ++ frames.filterMap Frame.line?
  := by
  cases hline : f.line? with
  | none => exact List.filterMap_cons_none hline
  | some l => exact List.filterMap_cons_some hline

/-- A session with its calls: those in their synchronous part, the innermost first, and the entries of
those that wait. -/
structure Activity where
  session : Session
  frames : List Frame := []
  waiting : List (Option (Entry Float)) := []

/-- What has happened: the lines that have begun, and the calls. -/
structure History where
  lines : List Int := []
  calls : Calls := {}

namespace History

/-- A line has begun. -/
def line (h : History) (line : Int) : History := { h with lines := h.lines ++ [line] }

/-- A call was entered. -/
def enter (h : History) (name : String) : History :=
  { h with calls := h.calls.step (.enter name) }

/-- A call was left, if it had an entry. -/
def leave (h : History) : Option (Entry Float) → History
  | some e => { h with calls := h.calls.step (.leave e.number) }
  | none => h

end History

/-- The activities that are reached, with what has happened, by a session that tracks lines and
calls: hook by hook, until the program ends.  Between hooks all may change of which hooks know
nothing. -/
inductive Reached : Activity → History → Prop
  | start {options : TrackingOptions} (hfunctions : options.functions = true)
      (hflow : options.executionFlow = true) (instruments : Scripted) (lines : List String)
      (script : String) (offset : Int) :
      Reached ⟨(({ instruments } : Session).start options lines script offset).1, [], []⟩ {}
  | pass {s t : Session} {frames : List Frame} {waiting : List (Option (Entry Float))} {h : History}
      (hr : Reached ⟨s, frames, waiting⟩ h) (hcollector : t.collector = s.collector)
      (hwritten : t.written = s.written) (hblocked : t.blocked = s.blocked) :
      Reached ⟨t, frames, waiting⟩ h
  | beginLine {s : Session} {frames : List Frame} {waiting : List (Option (Entry Float))}
      {h : History} (hr : Reached ⟨s, frames, waiting⟩ h) (line : Int) :
      Reached ⟨(s.hook "options" fun c => c.beginLine scripted line).1, frames, waiting⟩
        (h.line line)
  | assign {s : Session} {frames : List Frame} {waiting : List (Option (Entry Float))} {h : History}
      (hr : Reached ⟨s, frames, waiting⟩ h) (entries : List (String × Value × Option Int)) :
      Reached ⟨(s.hook "options" fun c => c.assign scripted entries).1, frames, waiting⟩ h
  | enter {s : Session} {frames : List Frame} {waiting : List (Option (Entry Float))} {h : History}
      (hr : Reached ⟨s, frames, waiting⟩ h) {c : Call} {outer : Option (OpenLine Float)}
      {entry : Option (Entry Float)} (hc : (s.enter c).2 = .ok (outer, entry)) :
      Reached ⟨(s.enter c).1, ⟨outer, entry⟩ :: frames, waiting⟩ (h.enter c.name)
  /-- A call returns or throws, or a call that waits throws at once. -/
  | leave {s : Session} {f : Frame} {frames : List Frame} {waiting : List (Option (Entry Float))}
      {h : History} (hr : Reached ⟨s, f :: frames, waiting⟩ h) (c : Call) :
      Reached ⟨(s.leave c f.outer f.entry).1, frames, waiting⟩ (h.leave f.entry)
  /-- A call gives its promise. -/
  | wait {s : Session} {f : Frame} {frames : List Frame} {waiting : List (Option (Entry Float))}
      {h : History} (hr : Reached ⟨s, f :: frames, waiting⟩ h) :
      Reached ⟨(s.hook "openLine" fun c => c.resumeLine scripted f.outer).1, frames,
        f.entry :: waiting⟩ h
  /-- The promise of a call settles. -/
  | settle {s : Session} {frames : List Frame} {waiting others : List (Option (Entry Float))}
      {entry : Option (Entry Float)} {h : History} (hr : Reached ⟨s, frames, waiting⟩ h)
      (hentry : waiting.Perm (entry :: others)) (arguments : List Value) :
      Reached ⟨(s.hook "stack" fun c => c.leave scripted entry arguments).1, frames, others⟩
        (h.leave entry)

/-! ### Balance -/

/-- A view, the calls in their synchronous part and the calls that wait account for what has
happened. -/
structure Balanced (v : View) (frames : List Frame) (waiting : List (Option (Entry Float)))
    (h : History) : Prop where
  functions : v.account.options.functions = true
  flow : v.account.options.executionFlow = true
  unfinished : v.account.finished = false
  numbered : h.calls.IsNumbered
  lines : h.lines.Perm (v.account.lines ++ (v.openLine.toList ++ frames.filterMap Frame.line?))
  stack : v.stack = h.calls.opened
  next : v.next = h.calls.entered
  calls : v.account.calls = h.calls.left.map fun call => (call.name, some call.caller)
  entries : ((frames.map Frame.entry ++ waiting).map (Option.map Entry.call)).Perm (v.stack.map some)

namespace Balanced

variable {v : View} {f : Frame} {frames : List Frame} {waiting others : List (Option (Entry Float))}
  {h : History}

/-- A line that begins takes the place of the one that was open, which is reported. -/
theorem beginLine (hb : Balanced v frames waiting h) (line : Int) :
  Balanced (v.openNext (some line)) frames waiting (h.line line)
  := by
  have hlines : (h.lines ++ [line]).Perm
      ((v.account.lines ++ v.openLine.toList) ++ ([line] ++ frames.filterMap Frame.line?)) := by
    have hmoved := (hb.lines.append_right [line]).trans List.perm_append_comm
    apply hmoved.trans
    rw [← List.append_assoc v.account.lines]
    apply List.perm_append_comm_assoc
  exact { hb with lines := hlines }

/-- A call that is entered moves the line that is open into its frame. -/
theorem enter (hb : Balanced v frames waiting h) {name : String}
    (hf : v.Gives name (f.outer, f.entry)) :
  Balanced (v.enter name) (f :: frames) waiting (h.enter name)
  := by
  obtain ⟨houter, hentry⟩ := hf
  have hlines : h.lines.Perm (v.account.lines ++ ([] ++ (f :: frames).filterMap Frame.line?)) := by
    rw [List.nil_append, filterMap_line?_cons, Frame.line?, houter]
    exact hb.lines
  have hstack : v.stack ++ [v.nextCall name] = (h.calls.step (.enter name)).opened := by
    rw [View.nextCall, hb.stack, hb.next]
    rfl
  have hentries : ((f.entry :: (frames.map Frame.entry ++ waiting)).map (Option.map Entry.call)).Perm
      ((v.stack ++ [v.nextCall name]).map some) := by
    rw [List.map_cons, hentry]
    apply (hb.entries.cons _).trans
    rw [List.map_append]
    exact (List.perm_append_singleton _ _).symm
  exact { hb with
    numbered := hb.numbered.step (.enter name)
    lines := hlines
    stack := hstack
    next := congrArg (· + 1) hb.next
    entries := hentries }

/-- At the end of its synchronous part, a call gives the line in its frame back, and waits. -/
theorem resumeLine (hb : Balanced v (f :: frames) waiting h) :
  Balanced (v.openNext f.line?) frames (f.entry :: waiting) h
  := by
  have hlines : h.lines.Perm
      ((v.account.lines ++ v.openLine.toList) ++ (f.line?.toList ++ frames.filterMap Frame.line?)) := by
    rw [List.append_assoc, ← filterMap_line?_cons]
    exact hb.lines
  have hentries : ((frames.map Frame.entry ++ f.entry :: waiting).map (Option.map Entry.call)).Perm
      (v.stack.map some) := by
    apply List.Perm.trans _ hb.entries
    apply List.Perm.map
    apply List.perm_middle
  exact { hb with lines := hlines, entries := hentries }

theorem perm (hb : Balanced v frames waiting h) (hp : waiting.Perm others) :
  Balanced v frames others h
  := by
  have hentries : ((frames.map Frame.entry ++ others).map (Option.map Entry.call)).Perm
      (v.stack.map some) := by
    apply List.Perm.trans _ hb.entries
    apply List.Perm.map
    apply hp.symm.append_left
  exact { hb with entries := hentries }

/-- A call that waits has an entry, and leaves the stack when it is left. -/
theorem leave {entry : Option (Entry Float)} (hb : Balanced v frames (entry :: waiting) h) :
  ∃ e, entry = some e ∧ Balanced (v.leave e.call) frames waiting (h.leave entry)
  := by
  have hmoved : (entry.map Entry.call
      :: (frames.map Frame.entry ++ waiting).map (Option.map Entry.call)).Perm (v.stack.map some) := by
    apply List.Perm.trans _ hb.entries
    rw [← List.map_cons]
    apply List.Perm.map
    apply List.perm_middle.symm
  obtain ⟨call, hcall, hentry⟩ := List.mem_map.mp (hmoved.subset List.mem_cons_self)
  obtain ⟨e, rfl, rfl⟩ := Option.map_eq_some_iff.mp hentry.symm
  use e, rfl
  rw [hb.stack] at hcall
  obtain ⟨front, back, hopened, hleft, -⟩ := hb.numbered.leave hcall
  have hopenedLeft : (h.calls.step (.leave e.number)).opened = front ++ back :=
    congrArg Calls.opened hleft
  have hstack : v.stack.filter (fun other => other.number ≠ e.call.number)
      = (h.calls.step (.leave e.number)).opened := by
    rw [hb.stack]
    rfl
  have hcalls : v.account.calls ++ [(e.call.name, some e.call.caller)]
      = (h.calls.step (.leave e.number)).left.map fun call => (call.name, some call.caller) := by
    have hleft : (h.calls.step (.leave e.number)).left = h.calls.left ++ [e.call] :=
      congrArg Calls.left hleft
    rw [hleft, List.map_append, hb.calls]
    rfl
  have hentries : ((frames.map Frame.entry ++ waiting).map (Option.map Entry.call)).Perm
      ((v.stack.filter fun other => other.number ≠ e.call.number).map some) := by
    rw [hstack, hopenedLeft]
    rw [hb.stack, hopened] at hmoved
    exact (hmoved.trans (List.perm_middle.map some)).cons_inv
  exact { hb with
    numbered := hb.numbered.step (.leave e.number)
    stack := hstack
    calls := hcalls
    entries := hentries }

end Balanced

/-- What an activity shows is balanced. -/
theorem Reached.balanced {a : Activity} {h : History} (hr : Reached a h) :
  ∃ v, a.session.Shows v ∧ Balanced v a.frames a.waiting h
  := by
  induction hr with
  | start hfunctions hflow instruments lines script offset =>
      refine ⟨_, Session.shows_start instruments _ lines script offset, ?_⟩
      exact ⟨hfunctions, hflow, rfl, Calls.isNumbered_empty, List.Perm.refl _, rfl, rfl, rfl,
        List.Perm.refl _⟩
  | pass hr hcollector hwritten hblocked ih =>
      obtain ⟨v, hs, hb⟩ := ih
      exact ⟨v, hs.pass hcollector hwritten hblocked, hb⟩
  | beginLine hr line ih =>
      obtain ⟨v, hs, hb⟩ := ih
      exact ⟨_, (hs.beginLine hb.flow line).1, hb.beginLine line⟩
  | assign hr entries ih =>
      obtain ⟨v, hs, hb⟩ := ih
      exact ⟨v, (hs.assign entries).1, hb⟩
  | @enter s frames waiting h hr c outer entry hc ih =>
      obtain ⟨v, hs, hb⟩ := ih
      obtain ⟨hshows, given, hgiven, hgives⟩ := hs.enter hb.functions c
      rw [hc] at hgiven
      cases hgiven
      exact ⟨_, hshows, hb.enter hgives⟩
  | leave hr c ih =>
      -- a call that returns is one that waits for no time
      obtain ⟨v, hs, hb⟩ := ih
      obtain ⟨e, he, hleft⟩ := hb.resumeLine.leave
      refine ⟨_, ?_, hleft⟩
      rw [he]
      exact (hs.leave c _ e).1
  | wait hr ih =>
      obtain ⟨v, hs, hb⟩ := ih
      exact ⟨_, (hs.resumeLine _).1, hb.resumeLine⟩
  | settle hr hentry arguments ih =>
      obtain ⟨v, hs, hb⟩ := ih
      obtain ⟨e, rfl, hleft⟩ := (hb.perm hentry).leave
      exact ⟨_, hs.settle e arguments, hleft⟩

end SnippetProfiler.Braced
