import SnippetProfiler.Proofs.Sandbox.Ending
import SnippetProfiler.Proofs.Sandbox.Operations

/-!
# The life of a sandbox

A sandbox is created, gets an instrumented program and runs it, and the run completes, fails or
runs out of time.  A sandbox that has not ended can fail at any time.

`life_isOrderly` says that this is the life of every new sandbox, whatever is done with it and in
whatever order: its states go no other way, it stays as it has ended, a request that is refused
changes nothing, the state in which a run ends is that of its outcome, and when it is closed the
sandbox has ended and its directory is gone, both for good.
-/

namespace SnippetProfiler.Sandbox

/-! ### States -/

namespace State

/-- The steps of the life of a sandbox. -/
inductive Leads : State → State → Prop where
  | prepare : Leads created instrumented
  | start : Leads instrumented running
  | complete : Leads running completed
  | exceed : Leads running timedOut
  | fail {old : State} (h : old.isFinal = false) : Leads old failed

/-- A state that may follow another one is a step further. -/
theorem Leads.of_allows {old new : State} (h : old.allows new = true) :
  old.Leads new
  := by
  cases old with
  | created =>
      simp only [allows, Bool.or_eq_true, decide_eq_true_eq] at h
      rcases h with rfl | rfl
      · apply prepare
      · apply fail rfl
  | instrumented =>
      simp only [allows, Bool.or_eq_true, decide_eq_true_eq] at h
      rcases h with rfl | rfl
      · apply start
      · apply fail rfl
  | running =>
      cases new with
      | completed => apply complete
      | failed => apply fail rfl
      | timedOut => apply exceed
      | created => cases h
      | instrumented => cases h
      | running => cases h
  | completed => cases h
  | failed => cases h
  | timedOut => cases h

/-- A state is kept, or is followed by the next one. -/
def GoesOn (old new : State) : Prop := new = old ∨ old.Leads new

theorem Leads.isFinal_eq_false {old new : State} (h : old.Leads new) :
  old.isFinal = false
  := by
  cases h with
  | fail h => apply h
  | _ => rfl

/-- Nothing but a final state comes after it. -/
theorem eq_of_isChain {state new : State} {states : List State}
    (h : (state :: states).IsChain GoesOn) (hfinal : state.isFinal = true)
    (hnew : new ∈ state :: states) :
  new = state
  := by
  induction states generalizing state with
  | nil => apply List.mem_singleton.mp hnew
  | cons next states ih =>
      obtain ⟨hgoes, hrest⟩ := List.isChain_cons_cons.mp h
      obtain rfl : next = state := by
        rcases hgoes with heq | hleads
        · apply heq
        · rw [hleads.isFinal_eq_false] at hfinal
          cases hfinal
      rcases List.mem_cons.mp hnew with heq | hmem
      · apply heq
      · apply ih hrest hfinal hmem

/-- The state in which a run that has begun in some state ends with an outcome: a final state
stays. -/
def settled (state : State) (outcome : Outcome) : State :=
  if state.isFinal then state else finalState outcome

end State


variable {s t : Sandbox}

/-- The state that is taken at a request follows the one before it. -/
theorem goesOn_of_move {new : State} {heeded : Bool} (h : s.move new = .ok (t, heeded)) :
  s.state.GoesOn t.state
  := by
  obtain ⟨-, rfl, -⟩ | ⟨-, hallowed, rfl, -⟩ := move_cases h
  · left
    rfl
  · right
    apply State.Leads.of_allows hallowed

/-- A sandbox that has begun takes every outcome. -/
theorem settle_of_hasBegun (h : s.HasBegun) (outcome : Outcome) :
  s.settle outcome = ({ s with state := s.state.settled outcome }, .ok outcome)
  := by
  rcases h with hrunning | hfinal
  · rw [settle_running s hrunning, hrunning]
    rfl
  · have hmove : s.move (finalState outcome) = .ok (s, false) := by
      rw [move, State.move, if_pos hfinal]
      rfl
    simp only [settle, hmove, State.settled, if_pos hfinal]

/-! ### Faults -/

/-- What is wrong with lines of output is never a request that is refused. -/
theorem frame_ne_move {accepts : TraceEvent Float → Bool} {r r' : Reading} {f : Frame}
    {fault : RunFault} (h : r.frame accepts f = (r', some fault)) (e : IllegalMove) :
  fault ≠ .move e
  := by
  rintro rfl
  cases f with
  | event event payload =>
      simp only [Reading.frame, Reading.deliver] at h
      split at h
      · cases h
      · split at h
        · cases h
        · cases h
  | output text => cases h
  | complete payload => cases h
  | error payload => cases h

theorem frames_ne_move {accepts : TraceEvent Float → Bool} {r r' : Reading} {fs : List Frame}
    {fault : RunFault} (h : r.frames accepts fs = (r', some fault)) (e : IllegalMove) :
  fault ≠ .move e
  := by
  induction fs generalizing r with
  | nil => cases h
  | cons f fs ih =>
      simp only [Reading.frames] at h
      split at h
      · apply ih h
      · rename_i hf
        cases h
        apply frame_ne_move hf

theorem lines_ne_move {accepts : TraceEvent Float → Bool} {r r' : Reading} {ls : List String}
    {fault : RunFault} (h : r.lines accepts ls = (r', some fault)) (e : IllegalMove) :
  fault ≠ .move e
  := by
  induction ls generalizing r with
  | nil => cases h
  | cons l ls ih =>
      simp only [Reading.lines] at h
      split at h
      · apply ih h
      · rename_i hl
        cases h
        simp only [Reading.line] at hl
        split at hl
        · apply frames_ne_move hl
        · split at hl
          · cases hl
          · cases hl
            rintro ⟨⟩

theorem outcome_ne_move {r : Reading} {child : Child} {fault : RunFault}
    (h : r.outcome child = .error fault) (e : IllegalMove) :
  fault ≠ .move e
  := by
  rintro rfl
  simp only [Reading.outcome] at h
  split at h
  · rename_i terminal hterminal
    cases terminal with
    | complete payload =>
        simp only [Terminal.outcome] at h
        split at h
        · cases h
        · split at h
          · cases h
          · cases h
    | error payload =>
        simp only [Terminal.outcome] at h
        split at h
        · cases h
        · cases h
  · cases h

/-! ### Runs -/

/-- How a run ends that has begun in some state: with an outcome, which that state takes, or with a
fault, which is no refusal and leaves the state as it is. -/
inductive Ends (state : State) : State → Except RunFault Outcome → Prop where
  | outcome (outcome : Outcome) : Ends state (state.settled outcome) (.ok outcome)
  | fault {fault : RunFault} (h : ∀ e, fault ≠ .move e) : Ends state state (.error fault)

theorem Ends.ne_move {state new : State} {result : Except RunFault Outcome}
    (h : Ends state new result) (e : IllegalMove) :
  result ≠ .error (.move e)
  := by
  cases h with
  | outcome outcome => rintro ⟨⟩
  | fault hmove =>
      rintro ⟨⟩
      apply hmove e rfl

/-- A run ends in a state that may follow the one in which it has begun. -/
theorem Ends.goesOn {state new : State} {result : Except RunFault Outcome}
    (h : Ends state new result) (hbegun : state = .running ∨ state.isFinal = true) :
  state.GoesOn new
  := by
  cases h with
  | outcome outcome =>
      rcases hbegun with rfl | hfinal
      · right
        apply State.Leads.of_allows
        apply finalState_isFinal
      · left
        rw [State.settled, if_pos hfinal]
  | fault _ =>
      left
      rfl

variable (host : Host) (child : Child) (arguments input : List String)
  (accepts : TraceEvent Float → Bool)

/-- What comes of the lines of a child is never a request that is refused. -/
theorem judgement_ne_move {lines : List String} {fault : RunFault}
    (h : judgement s child (Reading.lines accepts {} lines) = .error fault) (e : IllegalMove) :
  fault ≠ .move e
  := by
  cases hread : Reading.lines accepts {} lines with
  | mk reading fault' =>
      rw [hread] at h
      cases fault' with
      | some fault' =>
          cases h
          apply lines_ne_move hread
      | none =>
          rw [judgement] at h
          cases hending : (child.lines s.limits.lineLength).2 with
          | tooLong =>
              rw [hending] at h
              cases h
          | outOfTime =>
              rw [hending] at h
              cases h
          | closed =>
              rw [hending] at h
              apply outcome_ne_move h

/-- So ends a run of a program that has started. -/
theorem converse_ends (h : s.HasBegun) (spawn : Spawn) :
  Ends s.state (s.converse spawn child input accepts).1.state
    (s.converse spawn child input accepts).2.outcome
  := by
  obtain ⟨spawn', alive, -, heq⟩ := exists_converse_eq s spawn child input accepts
  rw [heq]
  cases hjudged : judgement s child
      (Reading.lines accepts {} (child.texts s.limits.lineLength)) with
  | error fault =>
      apply Ends.fault
      apply judgement_ne_move _ _ hjudged
  | ok outcome =>
      rw [conclude, settle_of_hasBegun]
      · apply Ends.outcome
      · apply h

/-- So ends a run that is not refused. -/
theorem run_ends {heeded : Bool} (h : s.move .running = .ok (t, heeded)) :
  Ends t.state (s.run host child arguments input accepts).1.state
    (s.run host child arguments input accepts).2.outcome
  := by
  have hbegun := hasBegun_of_move h
  have hruns := runsTo_run s child input host arguments accepts
  generalize s.run host child arguments input accepts = result at hruns ⊢
  cases hruns with
  | refused hmove =>
      rw [h] at hmove
      cases hmove
  | unspawned hmove =>
      rw [h] at hmove
      cases hmove
      apply Ends.fault
      rintro e' ⟨⟩
  | unreadable hmove =>
      rw [h] at hmove
      cases hmove
      apply Ends.fault
      rintro e' ⟨⟩
  | unstarted hmove hspawn hrefused outcome =>
      rw [h] at hmove
      cases hmove
      rw [conclude, settle_of_hasBegun]
      · apply Ends.outcome
      · apply hbegun
  | started hmove =>
      rw [h] at hmove
      cases hmove
      apply converse_ends
      apply hbegun

/-- A run is refused in a sandbox that does not let a program run, and nowhere else. -/
theorem run_eq_move_iff {e : IllegalMove} :
  (s.run host child arguments input accepts).2.outcome = .error (.move e) ↔
    s.move .running = .error e
  := by
  cases hmove : s.move .running with
  | error e' =>
      simp only [run, hmove]
      constructor
      · rintro ⟨⟩
        rfl
      · rintro ⟨⟩
        rfl
  | ok result =>
      obtain ⟨t, heeded⟩ := result
      constructor
      · intro h
        cases (run_ends host child arguments input accepts hmove).ne_move e h
      · rintro ⟨⟩

/-! ### Courses -/

/-- The states that a sandbox takes in an operation: a run that is not refused takes one when it
begins, and every operation takes one when it ends. -/
def course (s : Sandbox) : Operation → List State
  | .run host child arguments input accepts =>
    match s.move .running with
    | .ok (t, _) => [t.state, (s.run host child arguments input accepts).1.state]
    | .error _ => [(s.run host child arguments input accepts).1.state]
  | op => [(s.operate op).state]

/-- The states that a sandbox takes in some operations. -/
def courseOf (s : Sandbox) : List Operation → List State
  | [] => []
  | op :: ops => s.course op ++ (s.operate op).courseOf ops

theorem goesOn_stage (s : Sandbox) (file : String) (instrumented : Bool) :
  s.state.GoesOn (s.stage file instrumented).1.state
  := by
  obtain ⟨files, -, heq | ⟨hcreated, heq⟩⟩ := s.stage_cases file instrumented
  · left
    rw [heq]
  · right
    rw [heq, hcreated]
    apply State.Leads.prepare

theorem goesOn_close (s : Sandbox) :
  s.state.GoesOn s.close.state
  := by
  simp only [close]
  split
  · left
    rfl
  · rename_i hfinal
    right
    apply State.Leads.fail
    simpa using hfinal

/-- The states of an operation follow each other, and what follows the last of them follows
them. -/
theorem isChain_course (op : Operation) {states : List State}
    (h : ((s.operate op).state :: states).IsChain State.GoesOn) :
  (s.state :: (s.course op ++ states)).IsChain State.GoesOn
  := by
  cases op with
  | stage file instrumented =>
      apply List.IsChain.cons_cons _ h
      apply goesOn_stage
  | close =>
      apply List.IsChain.cons_cons _ h
      apply goesOn_close
  | run host child arguments input accepts =>
      cases hmove : s.move .running with
      | error e =>
          simp only [course, hmove]
          apply List.IsChain.cons_cons _ h
          left
          simp only [operate, run, hmove]
      | ok result =>
          obtain ⟨t, heeded⟩ := result
          simp only [course, hmove]
          apply List.IsChain.cons_cons (goesOn_of_move hmove)
          apply List.IsChain.cons_cons _ h
          apply (run_ends host child arguments input accepts hmove).goesOn
          apply hasBegun_of_move hmove

/-- The states of all operations follow each other. -/
theorem isChain_courseOf (s : Sandbox) (ops : List Operation) :
  (s.state :: s.courseOf ops).IsChain State.GoesOn
  := by
  induction ops generalizing s with
  | nil => apply List.IsChain.singleton
  | cons op ops ih =>
      apply isChain_course
      apply ih

theorem state_operate_mem (s : Sandbox) (op : Operation) :
  (s.operate op).state ∈ s.course op
  := by
  cases op with
  | run host child arguments input accepts =>
      simp only [course]
      split
      · apply List.mem_cons_of_mem
        apply List.mem_singleton_self
      · apply List.mem_singleton_self
  | stage file instrumented => apply List.mem_singleton_self
  | close => apply List.mem_singleton_self

/-- The state after some operations is one that was taken in them, unless it is the first. -/
theorem state_after_mem (s : Sandbox) (ops : List Operation) :
  (s.after ops).state ∈ s.state :: s.courseOf ops
  := by
  induction ops generalizing s with
  | nil => apply List.mem_cons_self
  | cons op ops ih =>
      apply List.mem_cons_of_mem
      apply List.mem_append.mpr
      rcases List.mem_cons.mp (ih (s.operate op)) with heq | hmem
      · left
        rw [after, List.foldl_cons, ← after, heq]
        apply state_operate_mem
      · right
        apply hmem

/-! ### Ends -/

/-- A sandbox stays as it has ended. -/
theorem state_after_of_isFinal (h : s.state.isFinal = true) (ops : List Operation) :
  (s.after ops).state = s.state
  := by
  apply State.eq_of_isChain (s.isChain_courseOf ops) h
  apply state_after_mem

/-- The state in which a run ends a sandbox is that of its outcome. -/
theorem run_isFinal (h : s.state.isFinal = false)
    (hend : (s.run host child arguments input accepts).1.state.isFinal = true) :
  ∃ outcome, (s.run host child arguments input accepts).2.outcome = .ok outcome ∧
    (s.run host child arguments input accepts).1.state = finalState outcome
  := by
  cases hmove : s.move .running with
  | error e =>
      simp only [run, hmove, h] at hend
      cases hend
  | ok result =>
      obtain ⟨t, heeded⟩ := result
      have hrunning : t.state = .running := by
        obtain ⟨hfinal, -, -⟩ | ⟨-, -, rfl, -⟩ := move_cases hmove
        · rw [h] at hfinal
          cases hfinal
        · rfl
      have hends := run_ends host child arguments input accepts hmove
      rw [hrunning] at hends
      generalize (s.run host child arguments input accepts).1.state = state at hends hend
      generalize (s.run host child arguments input accepts).2.outcome = result at hends
      cases hends with
      | outcome outcome =>
          use outcome
          constructor
          · rfl
          · rfl
      | fault _ => cases hend

theorem finalState_eq_completed_iff {outcome : Outcome} :
  finalState outcome = .completed ↔ ∃ success, outcome = .success success
  := by
  cases outcome with
  | success success => simp [finalState]
  | failure failure =>
      simp only [finalState]
      split
      · simp
      · simp

theorem finalState_eq_timedOut_iff {outcome : Outcome} :
  finalState outcome = .timedOut ↔ ∃ failure, outcome = .failure failure ∧ failure.kind = .timeout
  := by
  cases outcome with
  | success success => simp [finalState]
  | failure failure => simp [finalState]

/-- A closed sandbox has ended. -/
theorem isFinal_close (s : Sandbox) :
  s.close.state.isFinal = true
  := by
  simp only [close]
  split
  · assumption
  · rfl

/-- A directory that is gone does not come back. -/
theorem files_after_of_none (h : s.files = none) (ops : List Operation) :
  (s.after ops).files = none
  := by
  induction ops generalizing s with
  | nil => apply h
  | cons op ops ih =>
      apply ih (s := s.operate op)
      cases op with
      | stage file instrumented => simp only [operate, stage, h]
      | run host child arguments input accepts =>
          by_cases hlets : s.LetsRun
          · obtain ⟨state, spawns, alive, heq, -⟩ := run_eq host child arguments input accepts hlets
            rw [operate, heq, h]
          · rw [operate, run_of_not_letsRun host child arguments input accepts hlets, h]
      | close => rfl

/-! ### Refusals -/

/-- Why an operation is refused, if it is: it asks for a state that may not follow. -/
def refusal? (s : Sandbox) : Operation → Option IllegalMove
  | .stage file instrumented =>
    match (s.stage file instrumented).2 with
    | .error (.move e) => some e
    | _ => none
  | .run host child arguments input accepts =>
    match (s.run host child arguments input accepts).2.outcome with
    | .error (.move e) => some e
    | _ => none
  | .close => none

/-- A file that is refused as the instrumented program leaves the state as it is. -/
theorem stage_of_move {file : String} {instrumented : Bool} {e : IllegalMove}
    (h : (s.stage file instrumented).2 = .error (.move e)) :
  (s.stage file instrumented).1.state = s.state
  := by
  revert h
  rw [stage]
  split
  · rintro ⟨⟩
  · split
    · rintro ⟨⟩
    · split
      · rintro ⟨⟩
      · simp only
        split
        · split
          · rintro ⟨⟩
          · intro _
            rfl
        · rintro ⟨⟩

theorem state_of_refusal {op : Operation} {e : IllegalMove} (h : s.refusal? op = some e) :
  (s.operate op).state = s.state
  := by
  cases op with
  | stage file instrumented =>
      simp only [refusal?] at h
      split at h
      · rename_i hstage
        apply stage_of_move hstage
      · cases h
  | run host child arguments input accepts =>
      simp only [refusal?] at h
      split at h
      · rename_i hrun
        have hmove := (run_eq_move_iff host child arguments input accepts).mp hrun
        simp only [operate, run, hmove]
      · cases h
  | close => cases h

/-! ### The law -/

/-- How the life of a sandbox goes on. -/
structure LivesOn (s : Sandbox) : Prop where
  /-- It stays as it has ended. -/
  lasting : s.state.isFinal = true → ∀ ops, (s.after ops).state = s.state
  /-- A refused operation leaves the state as it is. -/
  refusal : ∀ op e, s.refusal? op = some e → (s.operate op).state = s.state
  /-- A run that ends it has an outcome, and completes it exactly by a success and exceeds its time
  exactly by a timeout. -/
  ending : ∀ host child arguments input accepts, s.state.isFinal = false →
    (s.run host child arguments input accepts).1.state.isFinal = true →
      ∃ outcome, (s.run host child arguments input accepts).2.outcome = .ok outcome ∧
        ((s.run host child arguments input accepts).1.state = .completed ↔
          ∃ success, outcome = .success success) ∧
        ((s.run host child arguments input accepts).1.state = .timedOut ↔
          ∃ failure, outcome = .failure failure ∧ failure.kind = .timeout)
  /-- It fails when it is closed before it has ended. -/
  failing : s.state.isFinal = false → s.close.state = .failed
  /-- When it is closed, it has ended and its directory is gone, and so it stays. -/
  closing : ∀ ops, (s.close.after ops).state.isFinal = true ∧ (s.close.after ops).directory? = none

/-- Whatever is done with a new sandbox, its states follow each other from `created` on, and after
that its life goes on in the same way. -/
theorem life_isOrderly (directory : String) (limits : Limits) (ops : List Operation) :
  (State.created :: ({ directory, limits } : Sandbox).courseOf ops).IsChain State.GoesOn ∧
    (({ directory, limits } : Sandbox).after ops).LivesOn
  := by
  constructor
  · exact isChain_courseOf { directory, limits } ops
  · constructor
    · apply state_after_of_isFinal
    · intro op e
      apply state_of_refusal
    · intro host child arguments input accepts h hend
      obtain ⟨outcome, houtcome, hstate⟩ := run_isFinal host child arguments input accepts h hend
      use outcome, houtcome
      rw [hstate]
      exact ⟨finalState_eq_completed_iff, finalState_eq_timedOut_iff⟩
    · intro h
      simp [close, h]
    · intro later
      constructor
      · rw [state_after_of_isFinal]
        · apply isFinal_close
        · apply isFinal_close
      · rw [directory?, files_after_of_none]
        · rfl
        · rfl

/-- A program that completes, and a sandbox that is closed. -/
example :
  ({ directory := "", limits := { timeout := 1 } } : Sandbox).courseOf
      [.stage "a.py" true, .run .bare .completing ["a.py"] [] fun _ => true, .close]
    = [.instrumented, .running, .completed, .completed]
  := by decide +kernel

end SnippetProfiler.Sandbox
