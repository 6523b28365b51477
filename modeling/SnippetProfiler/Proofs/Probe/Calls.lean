import Mathlib.Data.List.Basic
import SnippetProfiler.Proofs.Probe.Recorder

/-!
# Calls in any order

Calls that wait need not be left in the reverse of the order in which they were entered.  What is
known of the calls of a program is therefore no stack but a list: the calls that are open stand in
the order in which they were entered, and a call that is left goes from wherever it stands.

A recorder reports a call when it is left, and a line when it is done.  Its account is what it has
reported of them, which samples of the memory do not change.
-/

namespace SnippetProfiler.Probe

/-! ### Calls -/

/-- What happens to calls, which are known by the numbers in which they were entered.  A call that is
told of is known by the number in which it was left. -/
inductive CallEvent where
  | enter (name : String)
  | leave (number : Nat)
  | tell (number : Nat)
  deriving DecidableEq, Repr

/-- A call with its number, its name and its caller. -/
structure Call where
  number : Nat
  name : String
  caller : String
  deriving DecidableEq, Repr

/-- The calls of a program: the number of those that were entered, those that are open, in the order
in which they were entered, and those that were left, in the order in which they were left.  A call
that was left stays untold until it is told of. -/
structure Calls where
  entered : Nat := 0
  opened : List Call := []
  left : List Call := []
  untold : List (Option Call) := []
  told : List Call := []
  deriving DecidableEq, Repr

namespace Calls

/-- The caller of a call that is entered next: the call that is open and was entered last. -/
def top (c : Calls) : String := (c.opened.getLast?.map Call.name).getD "global"

/-- The calls after an event. -/
def step (c : Calls) : CallEvent → Calls
  | .enter name =>
    { c with entered := c.entered + 1, opened := c.opened ++ [⟨c.entered, name, c.top⟩] }
  | .leave number =>
    let gone := c.opened.filter fun call => call.number = number
    { c with
      opened := c.opened.filter fun call => call.number ≠ number
      left := c.left ++ gone
      untold := c.untold ++ gone.map some }
  | .tell number =>
    match c.untold[number]? with
    | some (some call) => { c with untold := c.untold.set number none, told := c.told ++ [call] }
    | _ => c

/-- The calls after events. -/
def after (events : List CallEvent) : Calls := events.foldl step {}

/-- The calls that are open have increasing numbers. -/
structure IsNumbered (c : Calls) : Prop where
  below : ∀ call ∈ c.opened, call.number < c.entered
  increasing : c.opened.Pairwise fun call other => call.number < other.number

variable {c : Calls}

theorem isNumbered_empty :
  IsNumbered {}
  := by
  constructor
  · rintro call ⟨⟩
  · apply List.Pairwise.nil

/-- An event keeps the numbers of the calls that are open increasing. -/
theorem IsNumbered.step (h : c.IsNumbered) (event : CallEvent) :
  (c.step event).IsNumbered
  := by
  cases event with
  | enter name =>
      constructor
      · intro call hcall
        rcases List.mem_append.mp hcall with hcall | hcall
        · apply Nat.lt_succ_of_lt (h.below call hcall)
        · rw [List.mem_singleton.mp hcall]
          apply Nat.lt_succ_self
      · apply List.pairwise_append.mpr
        refine ⟨h.increasing, List.pairwise_singleton .., ?_⟩
        intro call hcall other hother
        rw [List.mem_singleton.mp hother]
        apply h.below call hcall
  | leave number =>
      constructor
      · intro call hcall
        apply h.below call (List.mem_of_mem_filter hcall)
      · apply h.increasing.filter
  | tell number =>
      rw [Calls.step]
      split
      · exact ⟨h.below, h.increasing⟩
      · exact h

/-- A call that is open stands between calls with smaller numbers and calls with larger ones, and
leaving it leaves these. -/
theorem IsNumbered.leave (h : c.IsNumbered) {call : Call} (hcall : call ∈ c.opened) :
  ∃ front back, c.opened = front ++ call :: back
    ∧ c.step (.leave call.number)
      = { c with
          opened := front ++ back
          left := c.left ++ [call]
          untold := c.untold ++ [some call] }
    ∧ ∀ other ∈ c.opened, call.number < other.number ↔ other ∈ back
  := by
  obtain ⟨front, back, hopened⟩ := List.append_of_mem hcall
  have hincreasing := h.increasing
  rw [hopened, List.pairwise_append, List.pairwise_cons] at hincreasing
  obtain ⟨-, ⟨hback, -⟩, hfront⟩ := hincreasing
  have hfront : ∀ other ∈ front, other.number < call.number :=
    fun other hother => hfront other hother call List.mem_cons_self
  use front, back, hopened
  constructor
  · have hothers : c.opened.filter (fun other => other.number ≠ call.number) = front ++ back := by
      rw [hopened, List.filter_append, List.filter_cons_of_neg (by simp), List.filter_eq_self.mpr,
        List.filter_eq_self.mpr]
      · intro other hother
        simpa using (hback other hother).ne'
      · intro other hother
        simpa using (hfront other hother).ne
    have hcalls : c.opened.filter (fun other => other.number = call.number) = [call] := by
      rw [hopened, List.filter_append, List.filter_cons_of_pos (by simp),
        List.filter_eq_nil_iff.mpr, List.filter_eq_nil_iff.mpr]
      · rfl
      · intro other hother
        simpa using (hback other hother).ne'
      · intro other hother
        simpa using (hfront other hother).ne
    rw [Calls.step, hothers, hcalls]
    rfl
  · intro other hother
    rw [hopened, List.mem_append, List.mem_cons] at hother
    constructor
    · intro hlt
      obtain hother | rfl | hother := hother
      · have := hfront other hother
        omega
      · omega
      · exact hother
    · apply hback

theorem after_concat (events : List CallEvent) (event : CallEvent) :
  after (events ++ [event]) = (after events).step event
  := List.foldl_concat ..

theorem isNumbered_after (events : List CallEvent) :
  (after events).IsNumbered
  := by
  induction events using List.reverseRecOn with
  | nil => exact isNumbered_empty
  | append_singleton events event ih =>
      rw [after_concat]
      apply ih.step

end Calls

/-! ### Accounts -/

/-- The lines of the executions that a trace reports. -/
def linesIn {τ : Type} (t : Trace τ) : List Int :=
  t.filterMap fun
    | .executionFlow l => some l.line
    | _ => none

/-- The names and the callers of the calls that a trace reports. -/
def callsIn {τ : Type} (t : Trace τ) : List (String × Option String) :=
  t.filterMap fun
    | .functionCall c => some (c.name, c.caller)
    | _ => none

/-- What a recorder may report, and what it has reported of lines and calls. -/
structure Account where
  options : TrackingOptions
  blocked : Bool
  refused : Bool
  finished : Bool
  lines : List Int
  calls : List (String × Option String)

namespace Recorder

variable {σ τ : Type} {r : Recorder σ τ}

/-- The account of a recorder. -/
def account (r : Recorder σ τ) : Account where
  options := r.options
  blocked := r.blocked
  refused := r.refused
  finished := r.finished
  lines := linesIn (eventsOf r.written)
  calls := callsIn (eventsOf r.written)

/-- An event that is recorded is reported. -/
theorem account_emit (h : r.blocked = false) (e : TraceEvent τ) :
  (r.emit e).account
    = { r.account with
        lines := r.account.lines ++ linesIn [e]
        calls := r.account.calls ++ callsIn [e] }
  := by
  have hlines : linesIn (eventsOf (r.written ++ [.event e]))
      = linesIn (eventsOf r.written) ++ linesIn [e] := by
    rw [eventsOf_append]
    apply List.filterMap_append
  have hcalls : callsIn (eventsOf (r.written ++ [.event e]))
      = callsIn (eventsOf r.written) ++ callsIn [e] := by
    rw [eventsOf_append]
    apply List.filterMap_append
  simp only [Recorder.emit, Recorder.write, h, Bool.false_eq_true, if_false, account, hlines,
    hcalls]

theorem account_executionFlow (h : r.blocked = false) (step : LineExecution τ) :
  (r.emit (.executionFlow step)).account
    = { r.account with lines := r.account.lines ++ [step.line] }
  := by
  rw [account_emit h]
  exact congrArg (Account.mk _ _ _ _ _) (List.append_nil _)

theorem account_functionCall (h : r.blocked = false) (call : FunctionCall τ) :
  (r.emit (.functionCall call)).account
    = { r.account with calls := r.account.calls ++ [(call.name, call.caller)] }
  := by
  rw [account_emit h]
  exact congrArg (Account.mk _ _ _ _ · _) (List.append_nil _)

/-- Events that are neither lines nor calls change no account. -/
theorem account_emit_other (h : r.blocked = false) {e : TraceEvent τ} (hlines : linesIn [e] = [])
    (hcalls : callsIn [e] = []) :
  (r.emit e).account = r.account
  := by
  rw [account_emit h, hlines, hcalls, List.append_nil, List.append_nil]

/-- A note that is no event changes no account. -/
theorem account_write (h : r.blocked = false) {n : Note τ} (hn : n.event? = none) :
  (r.write n).account = r.account
  := by
  simp only [Recorder.write, h, Bool.false_eq_true, if_false, account, eventsOf_concat_other _ hn]

variable [Quantity τ] (env : Instruments σ τ)

/-- A sample of the memory changes no account. -/
theorem account_sample (h : r.blocked = false) (forced : Bool) :
  (r.sample env forced).account = r.account
  := by
  simp only [Recorder.sample]
  split
  · split
    · rfl
    · apply account_emit_other
      · exact h
      · rfl
      · rfl
  · rfl

/-- Writing everything once more changes no account. -/
theorem account_conclude (h : r.blocked = false) :
  (r.conclude env).account = r.account
  := by
  have hsample := account_sample env h true
  have hblocked : (r.sample env true).blocked = false := by
    rw [← h]
    exact congrArg Account.blocked hsample
  rw [Recorder.conclude, andThen]
  split
  · exact hsample
  · rw [← hsample, Recorder.complete, account_write]
    · rfl
    · exact hblocked
    · rfl

end Recorder

end SnippetProfiler.Probe
