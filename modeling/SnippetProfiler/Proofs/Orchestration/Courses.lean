import Mathlib.Data.List.Basic
import SnippetProfiler.Proofs.Orchestration.Claims
import SnippetProfiler.Proofs.Orchestration.Schedule

/-!
# Runs one after another

A handler that ends with an outcome has only so many steps ahead, each of them adds at most one item
to the channel, and the pump takes two steps for an item.  So the steps that a run takes when it
settles are enough for all of these, and as some party can always go on while no gate is closed, the
run has ended then, with a report of the outcome.

A course is what becomes of requests that are run one after another: each run is started when the
one before it has ended with a report and has released its id.  At the end of a course no more ids
are in flight than at its beginning, and every report is still there.
-/

namespace SnippetProfiler

namespace Run

variable {isOpen : String → Bool} {outcome : Outcome} {s t : Run}

/-! ### Steps that are left -/

/-- The steps that a handler has ahead, that in which the run ends included. -/
def left (s : Run) : Nat :=
  match s.phase with
  | .performing p => p.acts.length + 2
  | .draining _ => 1
  | .claimed | .ready _ | .ended _ => 0

/-- No less than the steps that a pump has ahead if nothing is added to the channel. -/
def pending (s : Run) : Nat := 2 * s.relay.channel.length + s.relay.pump.hand.length

/-- A step of the handler is one of those left, and gives the pump no more than two. -/
theorem left_of_handlerStep (h : s.handlerStep? isOpen = some t) :
  t.left + 1 ≤ s.left ∧ t.pending + 2 * t.left ≤ s.pending + 2 * s.left
  := by
  obtain ⟨e, acts, ending, hp, rfl⟩ | ⟨act, acts, ending, -, hp, rfl⟩ | ⟨o, hp, rfl⟩ |
    ⟨problem, hp, rfl⟩ | ⟨o, hp, -, rfl⟩ := handlerStep?_cases h
  · simp only [left, pending, hp, List.length_append, List.length_cons, List.length_nil]
    omega
  · simp only [left, pending, hp, List.length_cons]
    omega
  · simp only [left, pending, hp, List.length_append, List.length_cons, List.length_nil]
    omega
  · simp only [left, pending, hp, finish, Relay.endStream, List.length_nil]
    omega
  · simp only [left, pending, hp, finish, Relay.endStream]
    omega

/-- A step of the pump is one of those ahead of it, and none of the handler's. -/
theorem pending_of_pumpStep (h : s.pumpStep? = some t) :
  t.pending + 1 ≤ s.pending ∧ t.left = s.left
  := by
  obtain ⟨-, ⟨e, rest, hpump, hchannel, rfl⟩ | ⟨rest, hpump, hchannel, rfl⟩ | ⟨e, hpump, rfl⟩⟩ :=
    pumpStep?_cases h
  · constructor
    · simp only [pending, hpump, hchannel, Pump.hand, List.length_cons, List.length_nil]
      omega
    · rfl
  · constructor
    · simp only [pending, hpump, hchannel, Pump.hand, List.length_cons, List.length_nil]
      omega
    · rfl
  · constructor
    · generalize s.caller.sink = sink
      cases sink with
      | none => simp [pending, hpump, Relay.deliver, Pump.hand]
      | some accepts => simp [pending, hpump, Relay.deliver, Pump.hand]
    · rfl

/-! ### Runs that are driven to an outcome -/

/-- A run that ends with an outcome once its handler has gone on: it waits at no closed gate, and one
end mark is behind the pump, in the channel, or to come. -/
structure IsDriven (isOpen : String → Bool) (outcome : Outcome) (s : Run) : Prop where
  bound : s.IsBound outcome
  gates : ∀ acts ending, s.phase = .performing ⟨acts, ending⟩ → ∀ gate, Act.await gate ∈ acts →
    isOpen gate = true
  kept : ∃ events : List (TraceEvent Float),
    s.relay.pump.mark ++ s.relay.channel ++ coming s.phase = events.map some ++ [none]

theorem IsDriven.handlerStep (h : IsDriven isOpen outcome s) (ht : s.handlerStep? isOpen = some t) :
  IsDriven isOpen outcome t
  := by
  have hbound := h.bound
  obtain ⟨events, hkept⟩ := h.kept
  obtain ⟨e, acts, ending, hp, rfl⟩ | ⟨act, acts, ending, hact, hp, rfl⟩ | ⟨o, hp, rfl⟩ |
    ⟨problem, hp, rfl⟩ | ⟨o, hp, hpump, rfl⟩ := handlerStep?_cases ht
  · rw [IsBound, hp] at hbound
    rw [hp] at hkept
    constructor
    · exact hbound
    · rintro _ _ ⟨⟩ gate hgate
      exact h.gates _ _ hp gate (List.mem_cons_of_mem _ hgate)
    · use events
      simpa [coming, emitted, Act.event?] using hkept
  · rw [IsBound, hp] at hbound
    rw [hp] at hkept
    constructor
    · exact hbound
    · rintro _ _ ⟨⟩ gate hgate
      exact h.gates _ _ hp gate (List.mem_cons_of_mem _ hgate)
    · use events
      simpa [coming, emitted, hact] using hkept
  · rw [IsBound, hp] at hbound
    rw [hp] at hkept
    constructor
    · cases hbound
      rfl
    · rintro _ _ ⟨⟩
    · use events
      simpa [coming, emitted] using hkept
  · rw [IsBound, hp] at hbound
    cases hbound
  · rw [IsBound, hp] at hbound
    rw [hp] at hkept
    constructor
    · cases hbound
      exact ⟨rfl, hpump⟩
    · rintro _ _ ⟨⟩
    · exact ⟨events, hkept⟩

theorem IsDriven.pumpStep (h : IsDriven isOpen outcome s) (ht : s.pumpStep? = some t) :
  IsDriven isOpen outcome t
  := by
  obtain ⟨events, hkept⟩ := h.kept
  obtain ⟨hrunning, ⟨e, rest, hpump, hchannel, rfl⟩ | ⟨rest, hpump, hchannel, rfl⟩ |
    ⟨e, hpump, rfl⟩⟩ := pumpStep?_cases ht
  · refine ⟨h.bound.relay hrunning _, h.gates, ?_⟩
    rw [hpump, hchannel] at hkept
    -- the event that the pump takes is the first one
    cases events with
    | nil => simp [Pump.mark] at hkept
    | cons e' events =>
        use events
        simp only [Pump.mark, List.nil_append, List.cons_append, List.map_cons,
          List.cons.injEq] at hkept
        exact hkept.2
  · refine ⟨h.bound.relay hrunning _, h.gates, events, ?_⟩
    simpa [Pump.mark, hpump, hchannel] using hkept
  · refine ⟨h.bound.relay hrunning _, h.gates, events, ?_⟩
    cases hsink : s.caller.sink with
    | none => simpa [Pump.mark, hpump, Relay.deliver] using hkept
    | some accepts => simpa [Pump.mark, hpump, Relay.deliver] using hkept

/-- As long as a driven run has not ended, its handler or its pump can go on. -/
theorem IsDriven.goesOn (h : IsDriven isOpen outcome s) (hrunning : s.hasEnded = false) :
  (∃ t, s.handlerStep? isOpen = some t) ∨ ∃ t, s.pumpStep? = some t
  := by
  have hfed : s.IsFed := h.kept
  apply hfed.goesOn h.bound h.gates hrunning

/-! ### Turns -/

/-- A turn of the pump is complete when it may take as many steps as are ahead of it. -/
theorem IsDriven.pumpTurn (h : IsDriven isOpen outcome s) {n : Nat} (hn : s.pending ≤ n) :
  IsDriven isOpen outcome (pumpTurn n s) ∧ (pumpTurn n s).left = s.left ∧
    (pumpTurn n s).pending ≤ s.pending ∧ (pumpTurn n s).pumpStep? = none
  := by
  induction n generalizing s with
  | zero =>
      refine ⟨h, rfl, Nat.le_refl _, ?_⟩
      rw [Run.pumpTurn, Option.eq_none_iff_forall_ne_some]
      intro t ht
      have := (pending_of_pumpStep ht).1
      omega
  | succ n ih =>
      rw [Run.pumpTurn]
      cases ht : s.pumpStep? with
      | none => exact ⟨h, rfl, Nat.le_refl _, ht⟩
      | some t =>
          obtain ⟨hpending, hleft⟩ := pending_of_pumpStep ht
          obtain ⟨hturn, hleft', hpending', hdone⟩ := ih (h.pumpStep ht) (by omega)
          refine ⟨hturn, hleft'.trans hleft, ?_, hdone⟩
          simp only
          omega

/-- A turn of the handler takes a step if there is one. -/
theorem IsDriven.handlerTurn (h : IsDriven isOpen outcome s) (n : Nat) :
  IsDriven isOpen outcome (handlerTurn isOpen n s) ∧
    (handlerTurn isOpen n s).pending + 2 * (handlerTurn isOpen n s).left
      ≤ s.pending + 2 * s.left ∧
    (handlerTurn isOpen n s).left ≤ s.left ∧
    (0 < n → (s.handlerStep? isOpen).isSome → (handlerTurn isOpen n s).left < s.left)
  := by
  induction n generalizing s with
  | zero => exact ⟨h, Nat.le_refl _, Nat.le_refl _, fun hn => absurd hn (Nat.lt_irrefl 0)⟩
  | succ n ih =>
      rw [Run.handlerTurn]
      cases ht : s.handlerStep? isOpen with
      | none => exact ⟨h, Nat.le_refl _, Nat.le_refl _, fun _ hsome => by cases hsome⟩
      | some t =>
          obtain ⟨hleft, hload⟩ := left_of_handlerStep ht
          simp only
          split
          · exact ⟨h.handlerStep ht, hload, by omega, fun _ _ => by omega⟩
          · obtain ⟨hturn, hload', hleft', -⟩ := ih (h.handlerStep ht)
            exact ⟨hturn, by omega, by omega, fun _ _ => by omega⟩

/-- A turn of both: the pump waits behind it, so that the run has ended unless the handler can go
on. -/
theorem IsDriven.turn (h : IsDriven isOpen outcome s) {steps : Nat} (hpos : 0 < steps)
    (hsteps : s.pending + 2 * s.left ≤ steps) {t : Run}
    (ht : t = Run.pumpTurn steps (Run.handlerTurn isOpen steps s)) :
  IsDriven isOpen outcome t ∧ t.pending + 2 * t.left ≤ steps ∧ t.left ≤ s.left ∧
    ((s.handlerStep? isOpen).isSome → t.left < s.left) ∧
    (t.handlerStep? isOpen = none → t.hasEnded = true)
  := by
  obtain ⟨hhandler, hload, hleft, hlt⟩ := h.handlerTurn steps
  obtain ⟨hpump, hleft', hpending, hdone⟩ := hhandler.pumpTurn (n := steps) (by omega)
  rw [← ht] at hpump hleft' hpending hdone
  refine ⟨hpump, by omega, by omega, ?_, ?_⟩
  · intro hsome
    rw [hleft']
    exact hlt hpos hsome
  · intro hnone
    cases hended : t.hasEnded with
    | true => rfl
    | false =>
        rcases hpump.goesOn hended with ⟨u, hu⟩ | ⟨u, hu⟩
        · rw [hnone] at hu
          cases hu
        · rw [hdone] at hu
          cases hu

/-- As many turns as the handler has steps ahead are enough when it can go on. -/
theorem IsDriven.turns_of_isSome (h : IsDriven isOpen outcome s) {steps n : Nat} (hpos : 0 < steps)
    (hsteps : s.pending + 2 * s.left ≤ steps) (hn : s.left ≤ n)
    (hsome : (s.handlerStep? isOpen).isSome) :
  IsDriven isOpen outcome (turns isOpen steps n s) ∧ (turns isOpen steps n s).hasEnded = true
  := by
  induction n generalizing s with
  | zero =>
      obtain ⟨t, ht⟩ := Option.isSome_iff_exists.mp hsome
      have := (left_of_handlerStep ht).1
      omega
  | succ n ih =>
      obtain ⟨hturn, hload, -, hlt, hended⟩ := h.turn hpos hsteps rfl
      have hless := hlt hsome
      rw [turns]
      cases hnext : (Run.pumpTurn steps (Run.handlerTurn isOpen steps s)).handlerStep? isOpen with
      | none => exact ⟨hturn, hended hnext⟩
      | some u =>
          apply ih hturn hload (by omega)
          rw [hnext]
          rfl

/-- A driven run has ended when it has settled. -/
theorem IsDriven.settle (h : IsDriven isOpen outcome s) :
  IsDriven isOpen outcome (s.settle isOpen) ∧ (s.settle isOpen).hasEnded = true
  := by
  have hhand : s.relay.pump.hand.length ≤ 1 := by
    cases s.relay.pump with
    | waiting => exact Nat.zero_le 1
    | delivering e => exact Nat.le_refl 1
    | stopped => exact Nat.zero_le 1
  have hload : s.pending + 2 * s.left ≤ s.workload ∧ s.left + 1 ≤ s.workload := by
    rw [workload, left, pending]
    cases s.phase with
    | performing p =>
        simp only
        omega
    | _ =>
        simp only
        omega
  obtain ⟨n, hn⟩ : ∃ n, s.workload = n + 1 := ⟨s.workload - 1, by omega⟩
  -- in the first turn the handler may have to wait for the pump
  obtain ⟨hturn, hload', hleft, -, hended⟩ := h.turn (by omega) hload.1 rfl
  rw [Run.settle, hn, turns, ← hn]
  cases hnext : (Run.pumpTurn s.workload (Run.handlerTurn isOpen s.workload s)).handlerStep? isOpen
    with
  | none => exact ⟨hturn, hended hnext⟩
  | some u =>
      apply hturn.turns_of_isSome (by omega) hload' (by omega)
      rw [hnext]
      rfl

/-- A run whose snippet has a hint has a report of each outcome. -/
theorem exists_report (s : Run) {hint : GrowthHint}
    (hhint : s.handler.hint s.request.code = .ok hint) (outcome : Outcome) :
  ∃ report, s.report outcome = .ok report ∧ report.outcome = outcome
  := by
  rw [report]
  cases outcome with
  | success success =>
      rw [metrics?, hhint]
      exact ⟨_, rfl, rfl⟩
  | failure failure => exact ⟨_, rfl, rfl⟩

/-- A driven run that has settled has a report of its outcome, if its snippet has a hint. -/
theorem IsDriven.result?_settle (h : IsDriven isOpen outcome s) {hint : GrowthHint}
    (hhint : (s.settle isOpen).handler.hint (s.settle isOpen).request.code = .ok hint) :
  ∃ report, (s.settle isOpen).result? = some (.ok report) ∧ report.outcome = outcome
  := by
  obtain ⟨hdriven, hended⟩ := h.settle
  have hbound := hdriven.bound
  cases hp : (s.settle isOpen).phase with
  | ended result =>
      rw [IsBound, hp] at hbound
      obtain ⟨report, hreport, houtcome⟩ := exists_report _ hhint outcome
      use report
      constructor
      · rw [result?, hp, hbound.1, hreport]
      · exact houtcome
  | _ =>
      rw [hasEnded, result?, hp] at hended
      cases hended

/-- A run with an empty channel, whose handler begins to do what ends with an outcome. -/
theorem isDriven_perform {program : String} (hp : s.phase = .ready program)
    (hchannel : s.relay.channel = []) (hpump : s.relay.pump = .waiting) {p : Performance}
    (hending : p.ending = .ok outcome)
    (hgates : ∀ gate, Act.await gate ∈ p.acts → isOpen gate = true) :
  IsDriven isOpen outcome (s.perform p)
  := by
  simp only [perform, hp]
  constructor
  · exact hending
  · rintro _ _ ⟨⟩
    exact hgates
  · use emitted p.acts
    simp only [hchannel, hpump, Pump.mark, List.nil_append, coming]

end Run

open Relation (ReflTransGen)

namespace Orchestrator

variable {o p q : Orchestrator}

/-! ### Orchestrators whose runs go on -/

/-- An orchestrator whose runs have gone on: it knows the same languages, takes requests as before,
and no more ids are in flight. -/
structure Keeps (o p : Orchestrator) : Prop where
  handlers : p.registry.handlers = o.registry.handlers
  closed : p.registry.closed = o.registry.closed
  ids : p.registry.ids.Sublist o.registry.ids
  length : p.runs.length = o.runs.length

theorem Keeps.refl (o : Orchestrator) :
  Keeps o o
  := ⟨rfl, rfl, List.Sublist.refl _, rfl⟩

theorem Keeps.trans (h : Keeps o p) (h' : Keeps p q) :
  Keeps o q
  := ⟨h'.handlers.trans h.handlers, h'.closed.trans h.closed, h'.ids.trans h.ids,
    h'.length.trans h.length⟩

theorem keeps_replace {number : Nat} {r : Run} (hr : o.runs[number]? = some r) (new : Run) :
  Keeps o (o.replace number new)
  := by
  have hids := ids_replace_sublist (q := new) hr
  rw [replace_eq hr] at hids ⊢
  constructor
  · simp only
    split
    · rfl
    · rfl
  · simp only
    split
    · rfl
    · rfl
  · exact hids
  · apply List.length_set

theorem keeps_change (o : Orchestrator) (number : Nat) (f : Run → Run) :
  Keeps o (o.change number f)
  := by
  rw [change]
  split
  · rename_i r hr
    apply keeps_replace hr
  · apply Keeps.refl

/-- A change of a run changes no other one. -/
theorem getElem?_change (o : Orchestrator) (number other : Nat) (f : Run → Run) :
  (o.change number f).runs[other]?
    = if other = number then o.runs[other]?.map f else o.runs[other]?
  := by
  rw [change]
  by_cases heq : other = number
  · subst heq
    rw [if_pos rfl]
    split
    · rename_i r hr
      rw [replace_eq hr, hr]
      apply List.getElem?_set_self (List.getElem?_eq_some_iff.mp hr).1
    · rename_i hnone
      rw [hnone]
      rfl
  · rw [if_neg heq]
    split
    · rename_i r hr
      rw [replace_eq hr]
      apply List.getElem?_set_ne (Ne.symm heq)
    · rfl

section Settle

variable (isOpen : String → Bool)

/-- Runs with different numbers that settle one after another. -/
theorem settle_each (numbers : List Nat) (hnodup : numbers.Nodup) (o : Orchestrator) :
  Keeps o (numbers.foldl (fun o number => o.change number (Run.settle isOpen)) o) ∧
    ∀ number, (numbers.foldl (fun o number => o.change number (Run.settle isOpen)) o).runs[number]?
      = if number ∈ numbers then o.runs[number]?.map (Run.settle isOpen) else o.runs[number]?
  := by
  induction numbers generalizing o with
  | nil => exact ⟨Keeps.refl o, fun number => rfl⟩
  | cons first rest ih =>
      obtain ⟨hfirst, hrest⟩ := List.nodup_cons.mp hnodup
      obtain ⟨hkeeps, hruns⟩ := ih hrest (o.change first (Run.settle isOpen))
      use (keeps_change o first _).trans hkeeps
      intro number
      rw [List.foldl_cons, hruns, getElem?_change]
      by_cases heq : number = first
      · subst heq
        rw [if_neg hfirst, if_pos rfl, if_pos List.mem_cons_self]
      · simp only [heq, if_false, List.mem_cons, false_or]

theorem keeps_settle (o : Orchestrator) :
  Keeps o (o.settle isOpen)
  := (settle_each isOpen (List.range o.runs.length) List.nodup_range o).1

/-- All runs settle. -/
theorem getElem?_settle (o : Orchestrator) (number : Nat) :
  (o.settle isOpen).runs[number]? = o.runs[number]?.map (Run.settle isOpen)
  := by
  rw [settle, (settle_each isOpen _ List.nodup_range o).2]
  split
  · rfl
  · rename_i hout
    rw [List.mem_range, Nat.not_lt] at hout
    rw [List.getElem?_eq_none hout]
    rfl

end Settle

/-! ### Requests that are accepted -/

/-- The run of a request when it has claimed its id. -/
def newRun (o : Orchestrator) (handler : Handler) (request : RunRequest) (caller : Caller) : Run :=
  { request, handler, caller, relay := { capacity := o.capacity } }

/-- A request in a known language is accepted when its id is free and the registry is open. -/
theorem execute_of_free {handler : Handler} {request : RunRequest} (caller : Caller)
    (hlanguage : o.registry.resolve request.language = .ok handler)
    (hopen : o.registry.closed = false) (hfree : o.registry.isRunning request.id = false) :
  ∃ p, o.execute request caller = .ok (p, o.runs.length) ∧
    p.runs = o.runs ++ [o.newRun handler request caller] ∧
    p.registry.handlers = o.registry.handlers ∧ p.registry.closed = o.registry.closed ∧
    p.registry.ids = o.registry.ids ++ [request.id]
  := by
  have hclaim : o.registry.claim request.id
      = .ok { o.registry with inFlight := o.registry.inFlight ++ [(request.id, none)] } := by
    simp [Registry.claim, hopen, hfree]
  obtain ⟨-, hattach⟩ := Registry.claim_attach hclaim o.runs.length
  rw [execute, hlanguage]
  simp only [hclaim, hattach]
  refine ⟨_, rfl, rfl, rfl, rfl, ?_⟩
  simp [Registry.ids]

/-! ### Complete runs -/

/-- Between two moments one run was started; it is for the request, it has ended with the report, and
it has released its id. -/
structure Completes (o : Orchestrator) (request : RunRequest) (report : RunReport)
    (p : Orchestrator) : Prop where
  schedule : ReflTransGen Step o p
  length : p.runs.length = o.runs.length + 1
  run : ∃ r : Run, p.runs[o.runs.length]? = some r ∧ r.request = request ∧
    r.result? = some (.ok report)
  released : p.registry.isRunning request.id = false
  ids : p.registry.ids.Sublist o.registry.ids

/-- The id of a request that was free is free again when its run has ended. -/
theorem isRunning_of_hasEnded (hsound : o.IsSound) (hschedule : ReflTransGen Step o p)
    (hlength : p.runs.length = o.runs.length + 1) {r : Run}
    (hr : p.runs[o.runs.length]? = some r) (hended : r.hasEnded = true)
    (hfree : o.registry.isRunning r.request.id = false) :
  p.registry.isRunning r.request.id = false
  := by
  rw [← Bool.not_eq_true, (hsound.schedule hschedule).isRunning_iff]
  rintro ⟨number, s, hs, hs', hid⟩
  have hlt := (List.getElem?_eq_some_iff.mp hs).1
  rcases Nat.lt_or_ge number o.runs.length with hold | hnew
  · -- a run from before has had the id all the time
    obtain ⟨u, hu⟩ : ∃ u, o.runs[number]? = some u := ⟨_, List.getElem?_eq_getElem hold⟩
    obtain ⟨v, hv, hlater⟩ := continues_schedule hschedule number u hu
    cases hs.symm.trans hv
    have hrunning : u.hasEnded = false := by
      rw [← Bool.not_eq_true]
      intro hu'
      rw [hlater.hasEnded hu'] at hs'
      cases hs'
    rw [(hsound.isRunning_iff _).mpr ⟨number, u, hu, hrunning, hlater.request ▸ hid⟩] at hfree
    cases hfree
  · have heq : number = o.runs.length := by omega
    subst heq
    cases hr.symm.trans hs
    rw [hended] at hs'
    cases hs'

/-- A run that was started with a free id, and has ended with a report, is complete. -/
theorem completes_of_result (hsound : o.IsSound) (hschedule : ReflTransGen Step o p)
    (hlength : p.runs.length = o.runs.length + 1) {r : Run} {report : RunReport}
    (hr : p.runs[o.runs.length]? = some r) (hreport : r.result? = some (.ok report))
    (hfree : o.registry.isRunning r.request.id = false)
    (hids : p.registry.ids.Sublist (o.registry.ids ++ [r.request.id])) :
  Completes o r.request report p
  := by
  have hreleased := isRunning_of_hasEnded hsound hschedule hlength hr
    (by rw [Run.hasEnded, hreport]; rfl) hfree
  refine ⟨hschedule, hlength, ⟨r, hr, rfl, hreport⟩, hreleased, ?_⟩
  -- the id of the run is the only new one, and it is released
  obtain ⟨before, new, heq, hbefore, hnew⟩ := List.sublist_append_iff.mp hids
  cases hnew with
  | cons _ hnil => rwa [heq, List.sublist_nil.mp hnil, List.append_nil]
  | cons_cons _ hnil =>
      rw [Registry.isRunning, heq] at hreleased
      simp at hreleased

/-- The requests of the runs are those from before, and then that of the run that was started. -/
theorem Completes.requests {request : RunRequest} {report : RunReport}
    (h : Completes o request report p) :
  p.runs.map Run.request = o.runs.map Run.request ++ [request]
  := by
  obtain ⟨r, hr, hrequest, -⟩ := h.run
  apply List.ext_getElem?
  intro number
  rw [List.getElem?_map]
  rcases Nat.lt_trichotomy number o.runs.length with hlt | heq | hgt
  · obtain ⟨s, hs⟩ : ∃ s, o.runs[number]? = some s := ⟨_, List.getElem?_eq_getElem hlt⟩
    obtain ⟨t, ht, hlater⟩ := continues_schedule h.schedule number s hs
    rw [List.getElem?_append_left (by simpa using hlt), List.getElem?_map, hs, ht]
    simp only [Option.map_some, hlater.request]
  · subst heq
    rw [hr, List.getElem?_append_right (by simp)]
    simp [hrequest]
  · rw [List.getElem?_eq_none (by rw [h.length]; omega),
      List.getElem?_eq_none (by simp; omega)]
    rfl

/-! ### Courses -/

/-- What becomes of requests that are run one after another, each when the one before it is
complete. -/
inductive Course : Orchestrator → List (RunRequest × RunReport) → Orchestrator → Prop where
  | done (o : Orchestrator) : Course o [] o
  | run {o p q : Orchestrator} {request : RunRequest} {report : RunReport}
      {rest : List (RunRequest × RunReport)} (h : Completes o request report p)
      (hrest : Course p rest q) : Course o ((request, report) :: rest) q

variable {course : List (RunRequest × RunReport)}

theorem Course.schedule (h : Course o course p) :
  ReflTransGen Step o p
  := by
  induction h with
  | done => apply ReflTransGen.refl
  | run hrun _ ih => apply hrun.schedule.trans ih

/-- The runs that were started are those of the course, in order. -/
theorem Course.requests (h : Course o course p) :
  p.runs.map Run.request = o.runs.map Run.request ++ course.map Prod.fst
  := by
  induction h with
  | done => simp
  | run hrun _ ih => rw [ih, hrun.requests, List.append_assoc, List.singleton_append, List.map_cons]

theorem Course.ids (h : Course o course p) :
  p.registry.ids.Sublist o.registry.ids
  := by
  induction h with
  | done => apply List.Sublist.refl
  | run hrun _ ih => apply ih.trans hrun.ids

/-- The reports of a course are still there at its end. -/
theorem Course.result (h : Course o course p) {k : Nat} {request : RunRequest} {report : RunReport}
    (hk : course[k]? = some (request, report)) :
  ∃ r : Run, p.runs[o.runs.length + k]? = some r ∧ r.request = request ∧
    r.result? = some (.ok report)
  := by
  induction h generalizing k with
  | done => cases hk
  | @run o p q _ _ rest hrun hrest ih =>
      cases k with
      | zero =>
          cases hk
          obtain ⟨r, hr, hrequest, hresult⟩ := hrun.run
          obtain ⟨s, hs, hlater⟩ := continues_schedule hrest.schedule _ r hr
          exact ⟨s, hs, hlater.request.trans hrequest, hlater.result _ hresult⟩
      | succ k =>
          obtain ⟨r, hr, hr'⟩ := ih hk
          refine ⟨r, ?_, hr'⟩
          rw [← hr, hrun.length]
          congr 1
          omega

end Orchestrator

end SnippetProfiler
