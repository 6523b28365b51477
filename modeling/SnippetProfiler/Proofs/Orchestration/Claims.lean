import SnippetProfiler.Proofs.Orchestration.Moves

/-!
# Claims of ids

A run holds its id from its start until the step in which it ends: in every history of an
orchestrator the ids in flight are those of the runs that have not ended.  Nobody else takes an id
from a run, and nobody else gets it.
-/

namespace SnippetProfiler

open Relation (ReflTransGen)

namespace Orchestrator

variable {o p : Orchestrator}

/-! ### Who holds an id -/

/-- A run that has not ended. -/
def IsUnfinished (o : Orchestrator) (number : Nat) (id : String) : Prop :=
  ∃ r, o.runs[number]? = some r ∧ r.hasEnded = false ∧ r.request.id = id

/-- A run that has ended. -/
def HasEnded (o : Orchestrator) (number : Nat) : Prop :=
  ∃ r, o.runs[number]? = some r ∧ r.hasEnded = true

/-- The ids in flight are those of the runs that have not ended, and of the runs with an id only
the last one may be among these. -/
structure IsSound (o : Orchestrator) : Prop where
  held : ∀ id task, (id, task) ∈ o.registry.inFlight ↔
    ∃ number, task = some number ∧ o.IsUnfinished number id
  nodup : o.registry.ids.Nodup
  last : ∀ (m n : Nat) (r q : Run), m < n → o.runs[m]? = some r → o.runs[n]? = some q →
    r.request.id = q.request.id → r.hasEnded = true

theorem isSound_new (handlers : List (String × Handler)) (closed : Bool) (capacity : Nat) :
  IsSound { registry := { handlers, closed }, capacity }
  := by
  constructor
  · intro id task
    constructor
    · rintro ⟨⟩
    · rintro ⟨number, -, r, hr, -⟩
      simp at hr
  · apply List.nodup_nil
  · intro m n r q _ hr
    simp at hr

theorem IsSound.isRunning_iff (h : o.IsSound) (id : String) :
  o.registry.isRunning id = true ↔ ∃ number, o.IsUnfinished number id
  := by
  rw [Registry.isRunning_iff]
  constructor
  · rintro ⟨task, hmem⟩
    obtain ⟨number, -, hnumber⟩ := (h.held id task).mp hmem
    exact ⟨number, hnumber⟩
  · rintro ⟨number, hnumber⟩
    exact ⟨some number, (h.held id _).mpr ⟨number, rfl, hnumber⟩⟩

/-- There is at most one run for an id that has not ended. -/
theorem IsSound.unique (h : o.IsSound) {m n : Nat} {id : String} (hm : o.IsUnfinished m id)
    (hn : o.IsUnfinished n id) :
  m = n
  := by
  obtain ⟨r, hr, hr', hid⟩ := hm
  obtain ⟨q, hq, hq', hid'⟩ := hn
  rcases Nat.lt_trichotomy m n with hlt | heq | hgt
  · rw [h.last m n r q hlt hr hq (hid.trans hid'.symm)] at hr'
    cases hr'
  · apply heq
  · rw [h.last n m q r hgt hq hr (hid'.trans hid.symm)] at hq'
    cases hq'

theorem IsSound.execute (h : o.IsSound) {request : RunRequest} {caller : Caller} {number : Nat}
    (hp : o.execute request caller = .ok (p, number)) :
  p.IsSound
  := by
  obtain ⟨hfree, rfl, hregistry, run, hruns, hrequest, hrunning⟩ := execute_eq_ok hp
  have hnew : p.runs[o.runs.length]? = some run := by
    rw [hruns, List.getElem?_concat_length]
  have hold : ∀ {n : Nat} {r : Run}, o.runs[n]? = some r → p.runs[n]? = some r := by
    intro n r hr
    rw [hruns, List.getElem?_append_left (List.getElem?_eq_some_iff.mp hr).1, hr]
  constructor
  · intro id task
    rw [hregistry, List.mem_append, List.mem_singleton, h.held]
    constructor
    · rintro (⟨n, rfl, r, hr, hr'⟩ | heq)
      · exact ⟨n, rfl, r, hold hr, hr'⟩
      · cases heq
        exact ⟨_, rfl, run, hnew, hrunning, by rw [hrequest]⟩
    · rintro ⟨n, rfl, r, hr, hr', hid⟩
      rcases runs_execute hp hr with hr | ⟨rfl, hrequest', -⟩
      · exact .inl ⟨n, rfl, r, hr, hr', hid⟩
      · right
        rw [← hid, hrequest']
  · rw [hregistry]
    simp only [Registry.ids, List.map_append, List.map_cons, List.map_nil]
    rw [List.nodup_append]
    refine ⟨h.nodup, by simp, ?_⟩
    intro id hid id' hid' heq
    rw [List.mem_singleton] at hid'
    subst heq hid'
    rw [Registry.isRunning, List.contains_eq_mem, decide_eq_false_iff_not] at hfree
    apply hfree hid
  · intro m n r q hlt hr hq hid
    rcases runs_execute hp hr with hr | ⟨rfl, -⟩
    · rcases runs_execute hp hq with hq | ⟨rfl, hrequest', -⟩
      · apply h.last m n r q hlt hr hq hid
      · rw [← Bool.not_eq_false]
        intro hr'
        rw [(h.isRunning_iff _).mpr ⟨m, r, hr, hr', by rw [hid, hrequest']⟩] at hfree
        cases hfree
    · have hlt' := (List.getElem?_eq_some_iff.mp hq).1
      rw [hruns, List.length_append, List.length_singleton] at hlt'
      omega

section Replace

variable {number : Nat} {r q : Run}

theorem runs_replace (hr : o.runs[number]? = some r) (hlater : Run.Later r q) {n : Nat} {s : Run}
    (hs : (o.replace number q).runs[n]? = some s) :
  ∃ t, o.runs[n]? = some t ∧ Run.Later t s
  := by
  rw [replace_eq hr] at hs
  by_cases hn : number = n
  · subst hn
    rw [List.getElem?_set_self (List.getElem?_eq_some_iff.mp hr).1] at hs
    cases hs
    exact ⟨r, hr, hlater⟩
  · rw [List.getElem?_set_ne hn] at hs
    exact ⟨s, hs, Run.Later.refl s⟩

/-- The runs that have not ended when one has gone on. -/
theorem isUnfinished_replace (hr : o.runs[number]? = some r) (hlater : Run.Later r q) (n : Nat)
    (id : String) :
  (o.replace number q).IsUnfinished n id ↔
    o.IsUnfinished n id ∧ (n = number → q.hasEnded = false)
  := by
  have hself : (o.replace number q).runs[number]? = some q := by
    rw [replace_eq hr, List.getElem?_set_self (List.getElem?_eq_some_iff.mp hr).1]
  constructor
  · rintro ⟨s, hs, hs', hid⟩
    obtain ⟨t, ht, hts⟩ := runs_replace hr hlater hs
    constructor
    · refine ⟨t, ht, ?_, hts.request ▸ hid⟩
      rw [← Bool.not_eq_true]
      intro ht'
      rw [hts.hasEnded ht'] at hs'
      cases hs'
    · rintro rfl
      rw [hself] at hs
      cases hs
      apply hs'
  · rintro ⟨⟨s, hs, hs', hid⟩, hq⟩
    by_cases hn : number = n
    · subst hn
      cases hr.symm.trans hs
      exact ⟨q, hself, hq rfl, hlater.request ▸ hid⟩
    · refine ⟨s, ?_, hs', hid⟩
      rw [replace_eq hr, List.getElem?_set_ne hn, hs]

/-- The ids in flight when a run has gone on: its own is released if it has ended just then. -/
theorem mem_inFlight_replace (hr : o.runs[number]? = some r) (entry : String × Option Nat) :
  entry ∈ (o.replace number q).registry.inFlight ↔ entry ∈ o.registry.inFlight ∧
    (q.hasEnded = true → r.hasEnded = false → entry.1 ≠ r.request.id)
  := by
  rw [replace_eq hr]
  cases hq : q.hasEnded with
  | false => simp
  | true => cases hr' : r.hasEnded with
    | false => simp [Registry.release]
    | true => simp

theorem ids_replace_sublist (hr : o.runs[number]? = some r) :
  (o.replace number q).registry.ids.Sublist o.registry.ids
  := by
  rw [replace_eq hr]
  simp only
  split
  · apply List.Sublist.map
    apply List.filter_sublist
  · apply List.Sublist.refl

/-- A run that goes on keeps its id, or gives it back when it ends. -/
theorem IsSound.replace (h : o.IsSound) (hr : o.runs[number]? = some r)
    (hlater : Run.Later r q) :
  (o.replace number q).IsSound
  := by
  constructor
  · intro id task
    rw [mem_inFlight_replace hr, h.held]
    constructor
    · rintro ⟨⟨n, rfl, hn⟩, hkept⟩
      refine ⟨n, rfl, (isUnfinished_replace hr hlater n id).mpr ⟨hn, ?_⟩⟩
      rintro rfl
      obtain ⟨s, hs, hs', hid⟩ := hn
      cases hr.symm.trans hs
      rw [← Bool.not_eq_true]
      intro hq
      apply hkept hq hs' hid.symm
    · rintro ⟨n, rfl, hn⟩
      obtain ⟨hn, hq⟩ := (isUnfinished_replace hr hlater n id).mp hn
      refine ⟨⟨n, rfl, hn⟩, ?_⟩
      intro hended hr' hid
      have heq := h.unique hn ⟨r, hr, hr', hid.symm⟩
      rw [hq heq] at hended
      cases hended
  · apply h.nodup.sublist (ids_replace_sublist hr)
  · intro m n s t hlt hs ht hid
    obtain ⟨s', hs', hlater'⟩ := runs_replace hr hlater hs
    obtain ⟨t', ht', hlater''⟩ := runs_replace hr hlater ht
    apply hlater'.hasEnded
    apply h.last m n s' t' hlt hs' ht'
    rw [← hlater'.request, hid, hlater''.request]

end Replace

theorem IsSound.step (h : o.IsSound) (hstep : Step o p) :
  p.IsSound
  := by
  obtain ⟨request, caller, rfl⟩ | ⟨number, r, q, hr, hlater, rfl⟩ | rfl := hstep.cases
  · rcases o.submit_cases request caller with ⟨number, hexecute⟩ | hsame
    · apply h.execute hexecute
    · rw [hsame]
      apply h
  · apply h.replace hr hlater
  · exact ⟨h.held, h.nodup, h.last⟩

theorem IsSound.schedule (h : o.IsSound) (hsteps : ReflTransGen Step o p) :
  p.IsSound
  := by
  induction hsteps with
  | refl => apply h
  | tail _ hstep ih => apply ih.step hstep

/-! ### Answers -/

section Answers

variable (o : Orchestrator) (request : RunRequest) (caller : Caller)

/-- A language is refused exactly when it has no handler. -/
theorem execute_eq_unsupported_iff :
  o.execute request caller = .error (.refused (.unsupportedLanguage request.language)) ↔
    o.registry.handler? request.language = none
  := by
  rw [execute, Registry.resolve]
  cases o.registry.handler? request.language with
  | none => simp
  | some handler =>
      simp only [reduceCtorEq, iff_false, Registry.claim]
      cases o.registry.closed with
      | true => simp
      | false => cases o.registry.isRunning request.id with
        | true => simp
        | false => simp

variable (hopen : o.registry.closed = false)
include hopen

/-- As long as the registry is not shut down, an id is refused exactly when it is in flight. -/
theorem execute_eq_duplicate_iff :
  o.execute request caller = .error (.refused (.duplicateExecution request.id)) ↔
    (o.registry.handler? request.language).isSome = true ∧ o.registry.isRunning request.id = true
  := by
  rw [execute, Registry.resolve]
  cases o.registry.handler? request.language with
  | none => simp
  | some handler =>
      simp only [Registry.claim, hopen]
      cases o.registry.isRunning request.id with
      | true => simp
      | false => simp

/-- As long as the registry is not shut down, a request is accepted exactly when its language has
a handler and its id is not in flight. -/
theorem execute_isOk_iff :
  (∃ answer, o.execute request caller = .ok answer) ↔
    (o.registry.handler? request.language).isSome = true ∧ o.registry.isRunning request.id = false
  := by
  rw [execute, Registry.resolve]
  cases o.registry.handler? request.language with
  | none => simp
  | some handler =>
      simp only [Registry.claim, hopen]
      cases o.registry.isRunning request.id with
      | true => simp
      | false => simp

end Answers

/-! ### Releases -/

/-- The runs that release their ids between two moments. -/
def freed (o p : Orchestrator) : List Nat :=
  o.registry.tasks.filter fun number => !p.registry.tasks.contains number

/-- A history: the runs that have released their ids, in the order in which they did so. -/
inductive History (o : Orchestrator) : List Nat → Orchestrator → Prop where
  | start : History o [] o
  | step {released : List Nat} {p q : Orchestrator} (h : History o released p) (hstep : Step p q) :
      History o (released ++ freed p q) q

theorem History.schedule {released : List Nat} (h : History o released p) :
  ReflTransGen Step o p
  := by
  induction h with
  | start => apply ReflTransGen.refl
  | step _ hstep ih => apply ih.tail hstep

theorem IsSound.mem_tasks (h : o.IsSound) (number : Nat) :
  number ∈ o.registry.tasks ↔ ∃ id, o.IsUnfinished number id
  := by
  rw [Registry.tasks, List.mem_filterMap]
  constructor
  · rintro ⟨⟨id, task⟩, hmem, htask⟩
    obtain ⟨n, rfl, hn⟩ := (h.held id task).mp hmem
    cases htask
    exact ⟨id, hn⟩
  · rintro ⟨id, hn⟩
    exact ⟨(id, some number), (h.held id _).mpr ⟨number, rfl, hn⟩, rfl⟩

/-- A run holds one id. -/
theorem IsSound.nodup_tasks (h : o.IsSound) :
  o.registry.tasks.Nodup
  := by
  rw [Registry.tasks, List.Nodup, List.pairwise_filterMap]
  apply List.Pairwise.imp_of_mem _ (List.pairwise_map.mp h.nodup)
  rintro ⟨id, task⟩ ⟨id', task'⟩ hmem hmem' hne n htask n' htask' rfl
  cases htask
  cases htask'
  obtain ⟨_, ⟨⟩, r, hr, -, hid⟩ := (h.held id _).mp hmem
  obtain ⟨_, ⟨⟩, q, hq, -, hid'⟩ := (h.held id' _).mp hmem'
  cases hr.symm.trans hq
  exact hne (hid.symm.trans hid')

theorem not_hasEnded_of_isUnfinished {number : Nat} {id : String} (h : o.IsUnfinished number id) :
  ¬ o.HasEnded number
  := by
  rintro ⟨r, hr, hr'⟩
  obtain ⟨q, hq, hq', -⟩ := h
  cases hr.symm.trans hq
  rw [hr'] at hq'
  cases hq'

theorem Continues.hasEnded (h : Continues o p) {number : Nat} (ho : o.HasEnded number) :
  p.HasEnded number
  := by
  obtain ⟨r, hr, hr'⟩ := ho
  obtain ⟨q, hq, hlater⟩ := h number r hr
  exact ⟨q, hq, hlater.hasEnded hr'⟩

/-- An unfinished run goes on or ends. -/
theorem Continues.of_isUnfinished (h : Continues o p) {number : Nat} {id : String}
    (ho : o.IsUnfinished number id) :
  p.IsUnfinished number id ∨ p.HasEnded number
  := by
  obtain ⟨r, hr, -, hid⟩ := ho
  obtain ⟨q, hq, hlater⟩ := h number r hr
  cases hq' : q.hasEnded with
  | false => exact .inl ⟨q, hq, hq', hlater.request ▸ hid⟩
  | true => exact .inr ⟨q, hq, hq'⟩

/-- A run that has not ended after a step had not ended before it, or its id was free then. -/
theorem Step.of_isUnfinished (h : Step o p) {number : Nat} {id : String}
    (hp : p.IsUnfinished number id) :
  o.IsUnfinished number id ∨ o.registry.isRunning id = false
  := by
  obtain ⟨request, caller, rfl⟩ | ⟨n, r, q, hr, hlater, rfl⟩ | rfl := h.cases
  · rcases o.submit_cases request caller with ⟨n, hexecute⟩ | hsame
    · obtain ⟨s, hs, hs', hid⟩ := hp
      rcases runs_execute hexecute hs with hs | ⟨-, hrequest, -⟩
      · exact .inl ⟨s, hs, hs', hid⟩
      · right
        rw [← hid, hrequest, (execute_eq_ok hexecute).1]
    · rw [hsame] at hp
      exact .inl hp
  · exact .inl ((isUnfinished_replace hr hlater number id).mp hp).1
  · exact .inl hp

/-- A run that has ended after a step was there before it. -/
theorem Step.of_hasEnded (h : Step o p) {number : Nat} (hp : p.HasEnded number) :
  o.HasEnded number ∨ ∃ id, o.IsUnfinished number id
  := by
  have hthere : ∃ r, o.runs[number]? = some r := by
    obtain ⟨request, caller, rfl⟩ | ⟨n, r, q, hr, hlater, rfl⟩ | rfl := h.cases
    · rcases o.submit_cases request caller with ⟨n, hexecute⟩ | hsame
      · obtain ⟨s, hs, hs'⟩ := hp
        rcases runs_execute hexecute hs with hs | ⟨-, -, hrunning⟩
        · exact ⟨s, hs⟩
        · rw [hrunning] at hs'
          cases hs'
      · rw [hsame] at hp
        obtain ⟨s, hs, -⟩ := hp
        exact ⟨s, hs⟩
    · obtain ⟨s, hs, -⟩ := hp
      obtain ⟨t, ht, -⟩ := runs_replace hr hlater hs
      exact ⟨t, ht⟩
    · obtain ⟨s, hs, -⟩ := hp
      exact ⟨s, hs⟩
  obtain ⟨r, hr⟩ := hthere
  cases hr' : r.hasEnded with
  | false => exact .inr ⟨r.request.id, r, hr, hr', rfl⟩
  | true => exact .inl ⟨r, hr, hr'⟩

/-- A step releases the ids of the runs that end in it. -/
theorem IsSound.mem_freed (h : o.IsSound) (hstep : Step o p) (number : Nat) :
  number ∈ freed o p ↔ p.HasEnded number ∧ ¬ o.HasEnded number
  := by
  have hp := h.step hstep
  rw [freed, List.mem_filter, h.mem_tasks]
  simp only [List.contains_eq_mem, Bool.not_eq_true', decide_eq_false_iff_not, hp.mem_tasks]
  constructor
  · rintro ⟨⟨id, ho⟩, hnot⟩
    refine ⟨?_, not_hasEnded_of_isUnfinished ho⟩
    rcases hstep.continues.of_isUnfinished ho with hgoes | hended
    · cases hnot ⟨id, hgoes⟩
    · apply hended
  · rintro ⟨hended, hnot⟩
    constructor
    · apply (hstep.of_hasEnded hended).resolve_left hnot
    · rintro ⟨id, hgoes⟩
      apply not_hasEnded_of_isUnfinished hgoes hended

/-- An id that is in flight no more has been released by its own run, which has just ended, and is
free. -/
theorem IsSound.hasEnded_of_not_mem (h : o.IsSound) (hstep : Step o p) {id : String}
    {task : Option Nat} (ho : (id, task) ∈ o.registry.inFlight)
    (hp : (id, task) ∉ p.registry.inFlight) :
  ∃ number, task = some number ∧ o.IsUnfinished number id ∧ p.HasEnded number ∧
    p.registry.isRunning id = false
  := by
  have hsound := h.step hstep
  obtain ⟨number, rfl, hnumber⟩ := (h.held id task).mp ho
  have hgone : ¬ p.IsUnfinished number id := by
    intro hgoes
    apply hp
    exact (hsound.held id _).mpr ⟨number, rfl, hgoes⟩
  have hended := (hstep.continues.of_isUnfinished hnumber).resolve_left hgone
  refine ⟨number, rfl, hnumber, hended, ?_⟩
  rw [← Bool.not_eq_true, hsound.isRunning_iff]
  rintro ⟨other, hother⟩
  rcases hstep.of_isUnfinished hother with hbefore | hfree
  · rw [h.unique hbefore hnumber] at hother
    apply hgone hother
  · rw [(h.isRunning_iff id).mpr ⟨number, hnumber⟩] at hfree
    cases hfree

section History

variable {handlers : List (String × Handler)} {closed : Bool} {capacity : Nat}
  {released : List Nat}

theorem History.isSound
    (h : History { registry := { handlers, closed }, capacity } released o) :
  o.IsSound
  := (isSound_new handlers closed capacity).schedule h.schedule

/-- The runs that have released their ids are those that have ended, each once. -/
theorem History.mem_released
    (h : History { registry := { handlers, closed }, capacity } released o) :
  released.Nodup ∧ ∀ number, number ∈ released ↔ o.HasEnded number
  := by
  induction h with
  | start =>
      constructor
      · apply List.nodup_nil
      · intro number
        constructor
        · rintro ⟨⟩
        · rintro ⟨r, hr, -⟩
          simp at hr
  | @step released p q h hstep ih =>
      obtain ⟨hnodup, hreleased⟩ := ih
      have hfreed := h.isSound.mem_freed hstep
      constructor
      · rw [List.nodup_append]
        refine ⟨hnodup, h.isSound.nodup_tasks.filter _, ?_⟩
        rintro number hn _ hn' rfl
        apply ((hfreed number).mp hn').2
        apply (hreleased number).mp hn
      · intro number
        rw [List.mem_append, hreleased, hfreed]
        constructor
        · rintro (hended | ⟨hended, -⟩)
          · apply hstep.continues.hasEnded hended
          · apply hended
        · intro hended
          by_cases hbefore : p.HasEnded number
          · exact .inl hbefore
          · exact .inr ⟨hended, hbefore⟩

/-- An id is in flight exactly if it is that of a run that has not released it. -/
theorem History.isRunning_iff
    (h : History { registry := { handlers, closed }, capacity } released o)
    (id : String) :
  o.registry.isRunning id = true ↔
    ∃ (number : Nat) (r : Run), o.runs[number]? = some r ∧ r.request.id = id ∧ number ∉ released
  := by
  obtain ⟨-, hreleased⟩ := h.mem_released
  rw [h.isSound.isRunning_iff]
  constructor
  · rintro ⟨number, r, hr, hr', hid⟩
    refine ⟨number, r, hr, hid, ?_⟩
    rw [hreleased]
    apply not_hasEnded_of_isUnfinished ⟨r, hr, hr', rfl⟩
  · rintro ⟨number, r, hr, hid, hnot⟩
    refine ⟨number, r, hr, ?_, hid⟩
    rw [← Bool.not_eq_true]
    intro hr'
    apply hnot
    exact (hreleased number).mpr ⟨r, hr, hr'⟩

end History

/-- The id of a run that has ended is held only for a run that came later. -/
theorem IsSound.exists_later (h : o.IsSound) {number : Nat} {r : Run} {task : Option Nat}
    (hr : o.runs[number]? = some r) (hended : r.hasEnded = true)
    (hmem : (r.request.id, task) ∈ o.registry.inFlight) :
  ∃ later, task = some later ∧ number < later
  := by
  obtain ⟨later, rfl, q, hq, hq', hid⟩ := (h.held _ task).mp hmem
  refine ⟨later, rfl, ?_⟩
  rcases Nat.lt_trichotomy number later with hlt | rfl | hgt
  · apply hlt
  · cases hr.symm.trans hq
    rw [hended] at hq'
    cases hq'
  · rw [h.last later number q r hgt hq hr hid] at hq'
    cases hq'

/-! ### What callers can rely on -/

/-- What callers can rely on at any moment, when some runs have released their ids. -/
structure IsExclusive (o : Orchestrator) (released : List Nat) : Prop where
  /-- There is at most one run for an id that has not ended. -/
  alone : ∀ m n id, o.IsUnfinished m id → o.IsUnfinished n id → m = n
  /-- A language is refused exactly when it has no handler. -/
  unsupported : ∀ request caller,
    o.execute request caller = .error (.refused (.unsupportedLanguage request.language)) ↔
      o.registry.handler? request.language = none
  /-- An id is refused exactly when it is that of a run that has not released it. -/
  duplicate : o.registry.closed = false → ∀ request caller,
    (o.execute request caller = .error (.refused (.duplicateExecution request.id)) ↔
      (o.registry.handler? request.language).isSome = true ∧
        ∃ (number : Nat) (r : Run), o.runs[number]? = some r ∧ r.request.id = request.id ∧
          number ∉ released)
  /-- Any other request is accepted. -/
  accepted : o.registry.closed = false → ∀ request caller,
    ((∃ answer, o.execute request caller = .ok answer) ↔
      (o.registry.handler? request.language).isSome = true ∧
        ∀ (number : Nat) (r : Run), o.runs[number]? = some r → r.request.id = request.id →
          number ∈ released)
  /-- A request that is refused changes nothing. -/
  refused : ∀ request caller cause, (o.submit request caller).2 = .error cause →
    (o.submit request caller).1 = o
  /-- A run releases its id once, when it ends. -/
  once : released.Nodup ∧ ∀ number, number ∈ released ↔ o.HasEnded number
  /-- No step takes an id from a run but that in which the run ends; then the id is free. -/
  own : ∀ p, Step o p → ∀ id task, (id, task) ∈ o.registry.inFlight →
    (id, task) ∉ p.registry.inFlight → ∃ number, task = some number ∧ o.IsUnfinished number id ∧
      p.HasEnded number ∧ p.registry.isRunning id = false
  /-- When a run has a result, its id is not in flight, unless for a run that came later. -/
  free : ∀ (number : Nat) (r : Run) result task, o.runs[number]? = some r →
    o.result? number = some result → (r.request.id, task) ∈ o.registry.inFlight →
      ∃ later, task = some later ∧ number < later

variable {handlers : List (String × Handler)} {closed : Bool} {capacity : Nat}
  {released : List Nat}

/-- In every history of an orchestrator, whatever requests come and whatever becomes of the runs,
an id belongs to one run at a time. -/
theorem history_isExclusive
    (h : History { registry := { handlers, closed }, capacity } released o) :
  o.IsExclusive released
  := by
  have hsound := h.isSound
  constructor
  case alone =>
    intro m n id hm hn
    apply hsound.unique hm hn
  case unsupported => apply o.execute_eq_unsupported_iff
  case duplicate =>
    intro hopen request caller
    rw [o.execute_eq_duplicate_iff request caller hopen, h.isRunning_iff]
  case accepted =>
    intro hopen request caller
    rw [o.execute_isOk_iff request caller hopen, ← Bool.not_eq_true, h.isRunning_iff]
    simp only [not_exists, not_and, Decidable.not_not]
  case refused =>
    intro request caller cause hcause
    rcases o.submit_cases request caller with ⟨number, hexecute⟩ | hsame
    · rw [submit, hexecute] at hcause
      cases hcause
    · apply hsame
  case once => exact h.mem_released
  case own =>
    intro p hstep id task ho hp
    apply hsound.hasEnded_of_not_mem hstep ho hp
  case free =>
    intro number r result task hr hresult hmem
    have hended : r.hasEnded = true := by
      rw [result?, hr, Option.bind_some] at hresult
      rw [Run.hasEnded, hresult]
      rfl
    exact hsound.exists_later hr hended hmem

/-- An orchestrator whose only handler instruments nothing. -/
def unable : Orchestrator where
  registry :=
    { handlers := [("", ⟨⟨"", "", ""⟩, 1, fun _ _ => .error (.broken ""), fun _ => .ok .unanalysed⟩)] }
  capacity := 1

/-- A request that is made while its id is in flight is refused; the id can be used again when its
run has ended. -/
theorem history_isExclusive_again :
  ∃ o : Orchestrator, o.runs.length = 2 ∧ o.registry.inFlight = [("", some 1)] ∧
    o.IsExclusive [0]
  := by
  let request : RunRequest := { code := "", language := "", id := "" }
  have h := History.start (o := unable)
    |>.step (.submit request {} rfl)
    |>.step (.submit request {} rfl)
    |>.step (.move (fun _ => true) (.start 0) rfl)
    |>.step (.submit request {} rfl)
  exact ⟨_, rfl, rfl, history_isExclusive h⟩

end Orchestrator

end SnippetProfiler
