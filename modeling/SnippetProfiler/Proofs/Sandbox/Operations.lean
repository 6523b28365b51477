import SnippetProfiler.Proofs.Sandbox.Ending

/-!
# Operations on a sandbox

Whoever has a sandbox may stage files, run programs and close it, in any order and as often as it
likes.  A sandbox has begun when it runs a program or has ended; it never goes back behind that.
-/

namespace SnippetProfiler.Sandbox

/-- An operation on a sandbox. -/
inductive Operation where
  | stage (file : String) (instrumented : Bool)
  | run (host : Host) (child : Child) (arguments input : List String)
      (accepts : TraceEvent Float → Bool)
  | close

/-- A sandbox after an operation. -/
def operate (s : Sandbox) : Operation → Sandbox
  | .stage file instrumented => (s.stage file instrumented).1
  | .run host child arguments input accepts => (s.run host child arguments input accepts).1
  | .close => s.close

/-- A sandbox after some operations. -/
def after (s : Sandbox) (ops : List Operation) : Sandbox := ops.foldl operate s

theorem after_append (s : Sandbox) (ops ops' : List Operation) :
  s.after (ops ++ ops') = (s.after ops).after ops'
  := by
  apply List.foldl_append

variable {s t : Sandbox}

/-! ### States -/

/-- Whether a sandbox runs a program or has ended. -/
def HasBegun (s : Sandbox) : Prop := s.state = .running ∨ s.state.isFinal = true

theorem HasBegun.ne (h : s.HasBegun) :
  s.state ≠ .created ∧ s.state ≠ .instrumented
  := by
  constructor
  · intro hcreated
    rw [HasBegun, hcreated] at h
    simp [State.isFinal] at h
  · intro hinstrumented
    rw [HasBegun, hinstrumented] at h
    simp [State.isFinal] at h

/-- What a request for a state can do: a sandbox that has ended ignores it, and another one takes
a state that may follow its own. -/
theorem move_cases {new : State} {heeded : Bool} (h : s.move new = .ok (t, heeded)) :
  (s.state.isFinal = true ∧ t = s ∧ heeded = false) ∨
  (s.state.isFinal = false ∧ s.state.allows new = true ∧ t = { s with state := new } ∧
    heeded = true)
  := by
  rw [move, State.move] at h
  split at h
  · rename_i hfinal
    cases h
    exact .inl ⟨hfinal, rfl, rfl⟩
  · rename_i hfinal
    split at h
    · rename_i hallowed
      cases h
      exact .inr ⟨Bool.not_eq_true _ ▸ hfinal, hallowed, rfl, rfl⟩
    · cases h

/-- Whether a sandbox lets a program run: it has an instrumented program, or has ended. -/
def LetsRun (s : Sandbox) : Prop := s.state = .instrumented ∨ s.state.isFinal = true

theorem letsRun_iff (s : Sandbox) :
  s.LetsRun ↔ ∃ t heeded, s.move .running = .ok (t, heeded)
  := by
  rw [LetsRun, move]
  cases s.state with
  | created => simp [State.move, State.isFinal, State.allows, Except.map]
  | instrumented => simp [State.move, State.isFinal, State.allows, Except.map]
  | running => simp [State.move, State.isFinal, State.allows, Except.map]
  | completed => simp [State.move, State.isFinal, Except.map]
  | failed => simp [State.move, State.isFinal, Except.map]
  | timedOut => simp [State.move, State.isFinal, Except.map]

/-- A sandbox that lets a program run has begun. -/
theorem hasBegun_of_move {heeded : Bool} (h : s.move .running = .ok (t, heeded)) :
  t.HasBegun
  := by
  obtain ⟨hfinal, rfl, -⟩ | ⟨-, -, rfl, -⟩ := move_cases h
  · exact .inr hfinal
  · exact .inl rfl

/-- An outcome changes no more than the state, and a sandbox that has begun does not go back. -/
theorem settle_eq (h : s.HasBegun) (outcome : Outcome) :
  ∃ state, (s.settle outcome).1 = { s with state } ∧ (s.settle outcome).1.HasBegun
  := by
  rw [Sandbox.settle]
  split
  · rename_i t heeded hmove
    obtain ⟨-, rfl, -⟩ | ⟨hgoes, hallowed, rfl, -⟩ := move_cases hmove
    · exact ⟨t.state, rfl, h⟩
    · refine ⟨_, rfl, .inr ?_⟩
      rcases h with hrunning | hfinal
      · rw [hrunning] at hallowed
        apply hallowed
      · rw [hfinal] at hgoes
        cases hgoes
  · exact ⟨s.state, rfl, h⟩

/-! ### Staging -/

/-- Staging changes no more than the files in a directory that is there, unless it makes a new
sandbox an instrumented one. -/
theorem stage_cases (s : Sandbox) (file : String) (instrumented : Bool) :
  ∃ files, files.isSome = s.files.isSome ∧
    ((s.stage file instrumented).1 = { s with files } ∨
      (s.state = .created ∧
        (s.stage file instrumented).1 = { s with files, state := .instrumented }))
  := by
  rw [stage]
  split
  · exact ⟨s.files, rfl, .inl rfl⟩
  · rename_i names hfiles
    split
    · exact ⟨s.files, rfl, .inl rfl⟩
    · split
      · exact ⟨s.files, rfl, .inl rfl⟩
      · rename_i name hname
        refine ⟨some ((name.map (insertName names)).getD names), by rw [hfiles]; rfl, ?_⟩
        simp only
        split
        · split
          · rename_i t heeded hmove
            obtain ⟨-, rfl, -⟩ | ⟨-, hallowed, rfl, -⟩ := move_cases hmove
            · exact .inl rfl
            · right
              cases hs : s.state with
              | created => exact ⟨rfl, rfl⟩
              | instrumented => simp [hs, State.allows] at hallowed
              | running => simp [hs, State.allows, State.isFinal] at hallowed
              | completed => simp [hs, State.allows] at hallowed
              | failed => simp [hs, State.allows] at hallowed
              | timedOut => simp [hs, State.allows] at hallowed
          · exact .inl rfl
        · exact .inl rfl

/-! ### Runs -/

/-- A child that converses has started; when it has ended, the sandbox has taken its outcome. -/
theorem converse_eq (h : s.HasBegun) (spawn : Spawn) (child : Child) (input : List String)
    (accepts : TraceEvent Float → Bool) :
  ∃ state spawn' alive, spawn'.sent.isSome = true ∧
    (s.converse spawn child input accepts).1 =
      { s with state, spawns := s.spawns ++ [spawn'], alive } ∧
    (s.converse spawn child input accepts).1.HasBegun
  := by
  obtain ⟨spawn', alive, hsent, heq⟩ := exists_converse_eq s spawn child input accepts
  rw [heq]
  cases judgement s child _ with
  | error fault => exact ⟨s.state, spawn', alive, hsent, rfl, h⟩
  | ok outcome =>
      obtain ⟨state, hstate, hbegun⟩ :=
        settle_eq (s := { s with spawns := s.spawns ++ [spawn'], alive }) h outcome
      exact ⟨state, spawn', alive, hsent, hstate, hbegun⟩

/-- Whether a child has started, and not only been asked for. -/
def Spawn.hasStarted (spawn : Spawn) : Bool := spawn.sent.isSome

variable {s : Sandbox} (host : Host) (child : Child) (arguments input : List String)
  (accepts : TraceEvent Float → Bool)

/-- Whether a program starts as a child of a sandbox: the directory is there, and the system can start
the command and does not refuse to. -/
def LetsStart (s : Sandbox) : Prop :=
  s.files.isSome = true ∧ host.Starts s.limits arguments ∧ child.refused = none

/-- Nothing happens in a sandbox that does not let a program run. -/
theorem run_of_not_letsRun (h : ¬ s.LetsRun) :
  (s.run host child arguments input accepts).1 = s
  := by
  rw [run]
  split
  · rfl
  · rename_i t heeded hmove
    cases h ((letsRun_iff s).mpr ⟨t, heeded, hmove⟩)

/-- A sandbox that lets a program run asks for one child at most, which starts if it can. -/
theorem run_eq (h : s.LetsRun) :
  ∃ state spawns alive,
    (s.run host child arguments input accepts).1 =
      { s with state, spawns := s.spawns ++ spawns, alive } ∧
    (s.run host child arguments input accepts).1.HasBegun ∧
    (s.LetsStart host child arguments → spawns.map Spawn.hasStarted = [true]) ∧
    (¬ s.LetsStart host child arguments → ∀ spawn ∈ spawns, spawn.hasStarted = false)
  := by
  have hruns := runsTo_run s child input host arguments accepts
  generalize s.run host child arguments input accepts = result at hruns ⊢
  cases hruns with
  | refused hmove =>
      obtain ⟨t, heeded, hok⟩ := (letsRun_iff s).mp h
      rw [hmove] at hok
      cases hok
  | unspawned hmove hspawn =>
      have hbegun := hasBegun_of_move hmove
      obtain ⟨state, rfl⟩ := exists_eq_of_move hmove
      refine ⟨state, [], s.alive, by rw [List.append_nil], hbegun, ?_, ?_⟩
      · rintro ⟨hthere, hstarts, -⟩
        obtain ⟨spawn, hok⟩ := exists_spawn s input hthere hstarts
        rw [hok] at hspawn
        cases hspawn
      · rintro - spawn ⟨⟩
  | @unstarted _ _ _ spawn hmove hspawn hrefused outcome =>
      have hbegun := hasBegun_of_move hmove
      obtain ⟨-, -, hsent⟩ := starts_of_spawn s input hspawn
      obtain ⟨state, rfl⟩ := exists_eq_of_move hmove
      obtain ⟨state', heq, hbegun'⟩ :=
        settle_eq (s := { s with state, spawns := s.spawns ++ [spawn] }) hbegun outcome
      refine ⟨state', [spawn], s.alive, heq, hbegun', ?_, ?_⟩
      · rintro ⟨-, -, hstarts⟩
        rw [hrefused] at hstarts
        cases hstarts
      · intro _ spawn' hspawn'
        rw [List.mem_singleton.mp hspawn', Spawn.hasStarted, hsent]
        rfl
  | @unreadable _ _ spawn hmove hspawn hstarts hlimit =>
      have hbegun := hasBegun_of_move hmove
      obtain ⟨hthere, hcommand, -⟩ := starts_of_spawn s input hspawn
      obtain ⟨state, rfl⟩ := exists_eq_of_move hmove
      refine ⟨state, [{ spawn with sent := some "" }], true, rfl, hbegun, ?_, ?_⟩
      · intro _
        rfl
      · intro hnot
        cases hnot ⟨hthere, hcommand, hstarts⟩
  | @started _ _ spawn hmove hspawn hstarts hlimit =>
      have hbegun := hasBegun_of_move hmove
      obtain ⟨hthere, hcommand, -⟩ := starts_of_spawn s input hspawn
      obtain ⟨state, rfl⟩ := exists_eq_of_move hmove
      obtain ⟨state', spawn', alive, hsent, heq, hbegun'⟩ :=
        converse_eq (s := { s with state }) hbegun spawn child input accepts
      refine ⟨state', [spawn'], alive, heq, hbegun', ?_, ?_⟩
      · intro _
        rw [List.map_singleton, Spawn.hasStarted, hsent]
      · intro hnot
        cases hnot ⟨hthere, hcommand, hstarts⟩

/-! ### What is kept -/

/-- A sandbox that has begun does not go back. -/
theorem HasBegun.operate (h : s.HasBegun) (op : Operation) :
  (s.operate op).HasBegun
  := by
  cases op with
  | stage file instrumented =>
      obtain ⟨files, -, heq | ⟨hcreated, -⟩⟩ := s.stage_cases file instrumented
      · rw [Sandbox.operate, heq]
        apply h
      · cases h.ne.1 hcreated
  | run host child arguments input accepts =>
      by_cases hlets : s.LetsRun
      · obtain ⟨state, spawns, alive, -, hbegun, -⟩ :=
          run_eq host child arguments input accepts hlets
        apply hbegun
      · rw [Sandbox.operate, run_of_not_letsRun host child arguments input accepts hlets]
        apply h
  | close =>
      right
      simp only [Sandbox.operate, close]
      split
      · assumption
      · rfl

theorem limits_operate (s : Sandbox) (op : Operation) :
  (s.operate op).limits = s.limits
  := by
  cases op with
  | stage file instrumented =>
      obtain ⟨files, -, heq | ⟨-, heq⟩⟩ := s.stage_cases file instrumented
      · rw [operate, heq]
      · rw [operate, heq]
  | run host child arguments input accepts =>
      by_cases hlets : s.LetsRun
      · obtain ⟨state, spawns, alive, heq, -⟩ := run_eq host child arguments input accepts hlets
        rw [operate, heq]
      · rw [operate, run_of_not_letsRun host child arguments input accepts hlets]
  | close => rfl

theorem limits_after (s : Sandbox) (ops : List Operation) :
  (s.after ops).limits = s.limits
  := by
  induction ops generalizing s with
  | nil => rfl
  | cons op ops ih =>
      have hrest := ih (s.operate op)
      rw [limits_operate] at hrest
      apply hrest

/-- The directory of a sandbox is there until the sandbox is closed. -/
theorem isSome_files_operate (s : Sandbox) (op : Operation) :
  (s.operate op).files.isSome = true ↔ s.files.isSome = true ∧ .close ≠ op
  := by
  cases op with
  | stage file instrumented =>
      obtain ⟨files, hfiles, heq | ⟨-, heq⟩⟩ := s.stage_cases file instrumented
      · simp [operate, heq, hfiles]
      · simp [operate, heq, hfiles]
  | run host child arguments input accepts =>
      by_cases hlets : s.LetsRun
      · obtain ⟨state, spawns, alive, heq, -⟩ := run_eq host child arguments input accepts hlets
        simp [operate, heq]
      · simp [operate, run_of_not_letsRun host child arguments input accepts hlets]
  | close => simp [operate, close]

theorem isSome_files_after (s : Sandbox) (ops : List Operation) :
  (s.after ops).files.isSome = true ↔ s.files.isSome = true ∧ .close ∉ ops
  := by
  induction ops generalizing s with
  | nil => simp [after]
  | cons op ops ih =>
      have hrest := ih (s.operate op)
      rw [isSome_files_operate] at hrest
      rw [List.mem_cons, not_or, ← and_assoc]
      exact hrest

end SnippetProfiler.Sandbox
