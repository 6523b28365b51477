import SnippetProfiler.Orchestration.Orchestrator
import SnippetProfiler.Proofs.Orchestration.Steps

/-!
# Steps of an orchestrator

An orchestrator takes requests at any time, while the runs that it has started take steps, break
off, or come to their ends.  A schedule is any order of these; the one in which an orchestrator
settles is such an order.

A step adds a run, or takes one run to a later moment: it stays for the same request, and once it
has a result it keeps it.
-/

namespace SnippetProfiler

open Relation (ReflTransGen)

/-! ### Runs that go on -/

namespace Run

/-- A run at a later moment: it is for the same request and by the same handler, and it has kept its
result. -/
structure Later (s t : Run) : Prop where
  request : t.request = s.request
  handler : t.handler = s.handler
  result : ∀ result, s.result? = some result → t.result? = some result

variable {s t u : Run}

theorem Later.refl (s : Run) :
  Later s s
  := ⟨rfl, rfl, fun _ h => h⟩

theorem Later.trans (h : Later s t) (h' : Later t u) :
  Later s u
  := by
  constructor
  · exact h'.request.trans h.request
  · exact h'.handler.trans h.handler
  · exact fun result hs => h'.result result (h.result result hs)

theorem Later.hasEnded (h : Later s t) (hs : s.hasEnded = true) :
  t.hasEnded = true
  := by
  obtain ⟨result, hresult⟩ := Option.isSome_iff_exists.mp hs
  rw [Run.hasEnded, h.result result hresult]
  rfl

theorem result?_eq_none (h : s.hasEnded = false) :
  s.result? = none
  := by
  rw [hasEnded] at h
  simpa using h

/-- A run that has not ended has no result to keep. -/
theorem later_of_running (h : s.hasEnded = false) (hrequest : t.request = s.request)
    (hhandler : t.handler = s.handler) :
  Later s t
  := by
  refine ⟨hrequest, hhandler, ?_⟩
  intro result hresult
  rw [result?_eq_none h] at hresult
  cases hresult

theorem Step.later (h : Step s t) :
  Later s t
  := by
  have hsame : t.request = s.request ∧ t.handler = s.handler := by
    cases h with
    | handler isOpen h =>
        obtain ⟨e, acts, ending, -, rfl⟩ | ⟨act, acts, ending, -, -, rfl⟩ | ⟨outcome, -, rfl⟩ |
          ⟨problem, -, rfl⟩ | ⟨outcome, -, -, rfl⟩ := handlerStep?_cases h
        all_goals exact ⟨rfl, rfl⟩
    | pump h =>
        obtain ⟨-, ⟨e, rest, -, -, rfl⟩ | ⟨rest, -, -, rfl⟩ | ⟨e, -, rfl⟩⟩ := pumpStep?_cases h
        all_goals exact ⟨rfl, rfl⟩
    | consumer item h =>
        obtain ⟨-, rfl⟩ := consume?_eq_some h
        exact ⟨rfl, rfl⟩
  refine ⟨hsame.1, hsame.2, ?_⟩
  intro result hresult
  apply h.result?_eq hresult

theorem later_start (s : Run) :
  Later s s.start
  := by
  cases hp : s.phase with
  | claimed =>
      have hrunning : s.hasEnded = false := by
        rw [hasEnded, result?, hp]
        rfl
      have hsame : s.start.request = s.request ∧ s.start.handler = s.handler := by
        simp only [start, hp]
        split
        · exact ⟨rfl, rfl⟩
        · exact ⟨rfl, rfl⟩
        · exact ⟨rfl, rfl⟩
        · split
          · split
            · exact ⟨rfl, rfl⟩
            · exact ⟨rfl, rfl⟩
          · exact ⟨rfl, rfl⟩
      exact later_of_running hrunning hsame.1 hsame.2
  | ready program =>
      simp only [start, hp]
      apply Later.refl
  | performing p =>
      simp only [start, hp]
      apply Later.refl
  | draining outcome =>
      simp only [start, hp]
      apply Later.refl
  | ended result =>
      simp only [start, hp]
      apply Later.refl

theorem later_perform (s : Run) (p : Performance) :
  Later s (s.perform p)
  := by
  rw [perform]
  split
  · rename_i program hp
    have hrunning : s.hasEnded = false := by
      rw [hasEnded, result?, hp]
      rfl
    exact later_of_running hrunning rfl rfl
  · apply Later.refl

theorem later_cancel (h : s.cancel? = some t) :
  Later s t
  := by
  rw [cancel?] at h
  split at h
  · cases h
  · cases h
  · rename_i hended
    cases h
    have hrunning : s.hasEnded = false := by
      rw [hasEnded, result?]
      split
      · rename_i result hp
        cases hended result hp
      · rfl
    exact later_of_running hrunning rfl rfl

end Run

namespace Orchestrator

/-! ### Steps -/

/-- The orchestrator after a request for a run, with the answer; a request that is refused changes
nothing. -/
def submit (o : Orchestrator) (request : RunRequest) (caller : Caller) :
    Orchestrator × Except StartError Nat :=
  match o.execute request caller with
  | .ok (o, number) => (o, .ok number)
  | .error e => (o, .error e)

/-- A step of an orchestrator.  A run may break off with a problem wherever it stands, also while
its snippet is being instrumented or its report is being made: it is cancelled, or something
fails. -/
inductive Step (o p : Orchestrator) : Prop where
  | submit (request : RunRequest) (caller : Caller) (h : p = (o.submit request caller).1)
  | move (isOpen : String → Bool) (m : Move) (h : o.move? isOpen m = some p)
  | breakOff (number : Nat) (r : Run) (problem : Problem) (hr : o.runs[number]? = some r)
      (hrunning : r.hasEnded = false) (h : p = o.replace number (r.finish (.error problem)))
  | shutDown (h : p = { o with registry := o.registry.shutDown })

variable {o p : Orchestrator}

/-- A move takes one run to a later moment. -/
theorem move?_cases {isOpen : String → Bool} {m : Move} (h : o.move? isOpen m = some p) :
  ∃ number r q, o.runs[number]? = some r ∧ Run.Later r q ∧ p = o.replace number q
  := by
  cases m with
  | start number =>
      obtain ⟨r, hr, rfl⟩ := Option.map_eq_some_iff.mp h
      exact ⟨number, r, _, hr, r.later_start, rfl⟩
  | perform number performance =>
      obtain ⟨r, hr, rfl⟩ := Option.map_eq_some_iff.mp h
      exact ⟨number, r, _, hr, r.later_perform performance, rfl⟩
  | handler number =>
      obtain ⟨q, hq, rfl⟩ := Option.map_eq_some_iff.mp h
      obtain ⟨r, hr, hstep⟩ := Option.bind_eq_some_iff.mp hq
      exact ⟨number, r, q, hr, (Run.Step.handler isOpen hstep).later, rfl⟩
  | pump number =>
      obtain ⟨q, hq, rfl⟩ := Option.map_eq_some_iff.mp h
      obtain ⟨r, hr, hstep⟩ := Option.bind_eq_some_iff.mp hq
      exact ⟨number, r, q, hr, (Run.Step.pump hstep).later, rfl⟩
  | consume number =>
      obtain ⟨⟨item, q⟩, hq, rfl⟩ := Option.map_eq_some_iff.mp h
      obtain ⟨r, hr, hstep⟩ := Option.bind_eq_some_iff.mp hq
      exact ⟨number, r, q, hr, (Run.Step.consumer item hstep).later, rfl⟩
  | cancel number =>
      obtain ⟨q, hq, rfl⟩ := Option.map_eq_some_iff.mp h
      obtain ⟨r, hr, hcancel⟩ := Option.bind_eq_some_iff.mp hq
      exact ⟨number, r, q, hr, Run.later_cancel hcancel, rfl⟩

/-- What a step can be: a request, a step of one run, or the end of the registry. -/
theorem Step.cases (h : Step o p) :
  (∃ request caller, p = (o.submit request caller).1) ∨
  (∃ number r q, o.runs[number]? = some r ∧ Run.Later r q ∧ p = o.replace number q) ∨
  p = { o with registry := o.registry.shutDown }
  := by
  cases h with
  | submit request caller h => exact .inl ⟨request, caller, h⟩
  | move isOpen m h => exact .inr (.inl (move?_cases h))
  | breakOff number r problem hr hrunning h =>
      have hlater : Run.Later r (r.finish (.error problem)) := Run.later_of_running hrunning rfl rfl
      exact .inr (.inl ⟨number, r, _, hr, hlater, h⟩)
  | shutDown h => exact .inr (.inr h)

end Orchestrator

/-! ### Requests -/

namespace Registry

variable {η τ : Type} {r : Registry η τ}

theorem isRunning_iff (id : String) :
  r.isRunning id = true ↔ ∃ task, (id, task) ∈ r.inFlight
  := by
  simp [isRunning, ids]

/-- The task of an id that is not in flight comes last. -/
theorem attachTask_concat {id : String} (task : τ) {entries : List (String × Option τ)}
    (h : ∀ entry ∈ entries, entry.1 ≠ id) :
  attachTask id task (entries ++ [(id, none)]) = entries ++ [(id, some task)]
  := by
  induction entries with
  | nil => simp [attachTask]
  | cons entry rest ih =>
      rw [List.cons_append, attachTask, if_neg (h entry List.mem_cons_self),
        ih fun e he => h e (List.mem_cons_of_mem _ he)]
      rfl

/-- A claim with its task is the last entry. -/
theorem claim_attach {s : Registry η τ} {id : String} (h : r.claim id = .ok s) (task : τ) :
  r.isRunning id = false ∧
    s.attach id task = { r with inFlight := r.inFlight ++ [(id, some task)] }
  := by
  rw [claim] at h
  split at h
  · cases h
  · split at h
    · cases h
    · rename_i hfree
      cases h
      rw [Bool.not_eq_true] at hfree
      use hfree
      rw [attach, attachTask_concat]
      rintro ⟨other, task'⟩ hentry rfl
      rw [(isRunning_iff _).mpr ⟨task', hentry⟩] at hfree
      cases hfree

end Registry

namespace Orchestrator

variable {o p : Orchestrator}

/-- A request is accepted by adding a run, which holds the id. -/
theorem execute_eq_ok {request : RunRequest} {caller : Caller} {number : Nat}
    (h : o.execute request caller = .ok (p, number)) :
  o.registry.isRunning request.id = false ∧ number = o.runs.length ∧
    p.registry =
      { o.registry with inFlight := o.registry.inFlight ++ [(request.id, some number)] } ∧
    ∃ r : Run, p.runs = o.runs ++ [r] ∧ r.request = request ∧ r.hasEnded = false
  := by
  rw [execute] at h
  split at h
  · cases h
  · split at h
    · cases h
    · rename_i registry hclaim
      obtain ⟨hfree, hattach⟩ := Registry.claim_attach hclaim o.runs.length
      cases h
      exact ⟨hfree, rfl, hattach, _, rfl, rfl, rfl⟩

/-- When a request is accepted, the runs are those from before and a new one. -/
theorem runs_execute {request : RunRequest} {caller : Caller} {number : Nat}
    (h : o.execute request caller = .ok (p, number)) {n : Nat} {r : Run}
    (hr : p.runs[n]? = some r) :
  o.runs[n]? = some r ∨ (n = number ∧ r.request = request ∧ r.hasEnded = false)
  := by
  obtain ⟨-, rfl, -, run, hruns, hrequest, hrunning⟩ := execute_eq_ok h
  rw [hruns, List.getElem?_append] at hr
  split at hr
  · exact .inl hr
  · rename_i hge
    rw [List.getElem?_singleton] at hr
    split at hr
    · cases hr
      exact .inr ⟨by omega, hrequest, hrunning⟩
    · cases hr

/-- What a request changes: it adds a run, which holds the id, or nothing. -/
theorem submit_cases (o : Orchestrator) (request : RunRequest) (caller : Caller) :
  (∃ number, o.execute request caller = .ok ((o.submit request caller).1, number)) ∨
    (o.submit request caller).1 = o
  := by
  rw [submit]
  split
  · rename_i number heq
    exact .inl ⟨number, heq⟩
  · exact .inr rfl

theorem replace_eq {number : Nat} {r : Run} (hr : o.runs[number]? = some r) (q : Run) :
  o.replace number q =
    { o with
      runs := o.runs.set number q
      registry :=
        if q.hasEnded && !r.hasEnded then o.registry.release r.request.id else o.registry }
  := by
  rw [replace, hr]

/-! ### Runs are kept -/

/-- The runs of an orchestrator at a later moment: each one has gone on. -/
def Continues (o p : Orchestrator) : Prop :=
  ∀ (number : Nat) (r : Run), o.runs[number]? = some r →
    ∃ q, p.runs[number]? = some q ∧ Run.Later r q

theorem Continues.refl (o : Orchestrator) :
  Continues o o
  := fun _ r hr => ⟨r, hr, Run.Later.refl r⟩

theorem Continues.trans {q : Orchestrator} (h : Continues o p) (h' : Continues p q) :
  Continues o q
  := by
  intro number r hr
  obtain ⟨s, hs, hlater⟩ := h number r hr
  obtain ⟨t, ht, hlater'⟩ := h' number s hs
  exact ⟨t, ht, hlater.trans hlater'⟩

theorem continues_replace {number : Nat} {r q : Run} (hr : o.runs[number]? = some r)
    (hlater : Run.Later r q) :
  Continues o (o.replace number q)
  := by
  intro other s hs
  rw [replace_eq hr]
  by_cases heq : number = other
  · subst heq
    cases hr.symm.trans hs
    refine ⟨q, ?_, hlater⟩
    rw [List.getElem?_set_self (List.getElem?_eq_some_iff.mp hr).1]
  · refine ⟨s, ?_, Run.Later.refl s⟩
    rw [List.getElem?_set_ne heq, hs]

theorem Step.continues (h : Step o p) :
  Continues o p
  := by
  obtain ⟨request, caller, rfl⟩ | ⟨number, r, q, hr, hlater, rfl⟩ | rfl := h.cases
  · rcases o.submit_cases request caller with ⟨number, hexecute⟩ | hsame
    · obtain ⟨-, -, -, run, hruns, -⟩ := execute_eq_ok hexecute
      intro other s hs
      refine ⟨s, ?_, Run.Later.refl s⟩
      rw [hruns, List.getElem?_append_left (List.getElem?_eq_some_iff.mp hs).1, hs]
    · rw [hsame]
      apply Continues.refl
  · apply continues_replace hr hlater
  · apply Continues.refl

theorem continues_schedule (h : ReflTransGen Step o p) :
  Continues o p
  := by
  induction h with
  | refl => apply Continues.refl
  | tail _ hstep ih => apply ih.trans hstep.continues

/-! ### The usual schedule -/

section Schedule

variable {number : Nat} {r q q' : Run}

/-- A run that goes on twice might as well have gone on at once. -/
theorem replace_replace (hr : o.runs[number]? = some r) (hq : Run.Later r q)
    (hq' : Run.Later q q') :
  (o.replace number q).replace number q' = o.replace number q'
  := by
  have hlt := (List.getElem?_eq_some_iff.mp hr).1
  have hnext : (o.replace number q).runs[number]? = some q := by
    rw [replace_eq hr, List.getElem?_set_self hlt]
  rw [replace_eq hnext, replace_eq hr, replace_eq hr]
  simp only [List.set_set, hq.request]
  cases hended : r.hasEnded with
  | true => simp [hq.hasEnded hended]
  | false =>
      cases hended' : q.hasEnded with
      | true => simp [hq'.hasEnded hended']
      | false => simp

/-- A run that takes a step is a step of the orchestrator. -/
theorem step_of_run (hr : o.runs[number]? = some r) (h : Run.Step r q) :
  Step o (o.replace number q)
  := by
  cases h with
  | handler isOpen h =>
      apply Step.move isOpen (.handler number)
      rw [move?, hr, Option.bind_some, h]
      rfl
  | pump h =>
      apply Step.move (fun _ => true) (.pump number)
      rw [move?, hr, Option.bind_some, h]
      rfl
  | consumer item h =>
      apply Step.move (fun _ => true) (.consume number)
      rw [move?, hr, Option.bind_some, h]
      rfl

/-- A run that takes steps is a schedule of the orchestrator. -/
theorem schedule_of_run (hr : o.runs[number]? = some r) (h : ReflTransGen Run.Step r q) :
  Run.Later r q ∧ ReflTransGen Step o (o.replace number q)
  := by
  induction h with
  | refl =>
      use Run.Later.refl r
      have hsame : o.replace number r = o := by
        obtain ⟨hlt, rfl⟩ := List.getElem?_eq_some_iff.mp hr
        rw [replace_eq hr, List.set_getElem_self]
        simp
      rw [hsame]
  | @tail q q' _ hstep ih =>
      obtain ⟨hlater, hsteps⟩ := ih
      use hlater.trans hstep.later
      rw [← replace_replace hr hlater hstep.later]
      apply hsteps.tail
      apply step_of_run _ hstep
      rw [replace_eq hr, List.getElem?_set_self (List.getElem?_eq_some_iff.mp hr).1]

theorem change_settle_schedule (isOpen : String → Bool) (number : Nat) (o : Orchestrator) :
  ReflTransGen Step o (o.change number (Run.settle isOpen))
  := by
  rw [change]
  split
  · rename_i r hr
    apply (schedule_of_run hr (Run.settle_schedule isOpen r)).2
  · apply ReflTransGen.refl

/-- An orchestrator that settles follows a schedule. -/
theorem settle_schedule (isOpen : String → Bool) (o : Orchestrator) :
  ReflTransGen Step o (o.settle isOpen)
  := by
  rw [settle]
  induction List.range o.runs.length generalizing o with
  | nil => apply ReflTransGen.refl
  | cons number numbers ih =>
      apply (change_settle_schedule isOpen number o).trans
      apply ih

/-- A run that starts is a step of the orchestrator. -/
theorem change_start_schedule (number : Nat) (o : Orchestrator) :
  ReflTransGen Step o (o.change number Run.start)
  := by
  rw [change]
  split
  · rename_i r hr
    apply ReflTransGen.single
    apply Step.move (fun _ => true) (.start number)
    rw [move?, hr]
    rfl
  · apply ReflTransGen.refl

/-- A run that begins to perform is a step of the orchestrator. -/
theorem change_perform_schedule (number : Nat) (p : Performance) (o : Orchestrator) :
  ReflTransGen Step o (o.change number (Run.perform · p))
  := by
  rw [change]
  split
  · rename_i r hr
    apply ReflTransGen.single
    apply Step.move (fun _ => true) (.perform number p)
    rw [move?, hr]
    rfl
  · apply ReflTransGen.refl

end Schedule

end Orchestrator

end SnippetProfiler
