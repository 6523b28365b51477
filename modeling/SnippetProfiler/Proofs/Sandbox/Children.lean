import SnippetProfiler.Proofs.Sandbox.Operations

/-!
# The children of a sandbox

A sandbox is meant to start one child at most.  It does so as long as it is not asked to run a
program when it has ended and is not closed: a request for the state `running` is ignored then, and
the program is started all the same.  A closed sandbox starts nothing, since its directory is gone.
-/

namespace SnippetProfiler.Sandbox

/-- Whether an operation runs a program that can start with some limits. -/
def Operation.MayStart (limits : Limits) : Operation → Prop
  | .run host child arguments _ _ => host.Starts limits arguments ∧ child.refused = none
  | .stage .. | .close => False

theorem countP_killLast (spawns : List Spawn) :
  (killLast spawns).countP Spawn.hasStarted = spawns.countP Spawn.hasStarted
  := by
  fun_induction killLast spawns with
  | case1 => rfl
  | case2 spawn => rfl
  | case3 spawn rest _ ih => rw [List.countP_cons, List.countP_cons, ih]

variable {s : Sandbox}

/-- How many children a sandbox has started. -/
def started (s : Sandbox) : Nat := s.spawns.countP Spawn.hasStarted

/-! ### One operation -/

/-- A program that can start is a new child of a sandbox with a directory that lets it run. -/
theorem started_of_mayStart (h : s.LetsRun) (hthere : s.files.isSome = true) {op : Operation}
    (hop : op.MayStart s.limits) :
  (s.operate op).started = s.started + 1
  := by
  cases op with
  | stage file instrumented => cases hop
  | run host child arguments input accepts =>
      obtain ⟨state, spawns, alive, heq, -, hstarts, -⟩ :=
        run_eq host child arguments input accepts h
      have hone : spawns.countP Spawn.hasStarted = 1 := by
        have hcount := List.countP_map (p := id) (f := Spawn.hasStarted) (l := spawns)
        rw [hstarts ⟨hthere, hop⟩] at hcount
        apply hcount.symm
      rw [operate, heq, started, List.countP_append, hone]
      rfl
  | close => cases hop

/-- Any other operation starts no child. -/
theorem started_of_not (op : Operation)
    (h : ¬ (s.LetsRun ∧ s.files.isSome = true ∧ op.MayStart s.limits)) :
  (s.operate op).started = s.started
  := by
  cases op with
  | stage file instrumented =>
      obtain ⟨files, -, heq | ⟨-, heq⟩⟩ := s.stage_cases file instrumented
      · rw [operate, heq]
        rfl
      · rw [operate, heq]
        rfl
  | run host child arguments input accepts =>
      by_cases hlets : s.LetsRun
      · obtain ⟨state, spawns, alive, heq, -, -, hnone⟩ :=
          run_eq host child arguments input accepts hlets
        have hzero : spawns.countP Spawn.hasStarted = 0 := by
          rw [List.countP_eq_zero]
          intro spawn hspawn
          rw [hnone (fun hop => h ⟨hlets, hop⟩) spawn hspawn]
          apply Bool.false_ne_true
        rw [operate, heq, started, List.countP_append, hzero]
        rfl
      · rw [operate, run_of_not_letsRun host child arguments input accepts hlets]
  | close =>
      rw [operate, started, close]
      cases s.alive with
      | true => apply countP_killLast
      | false => rfl

theorem started_le_operate (s : Sandbox) (op : Operation) :
  s.started ≤ (s.operate op).started
  := by
  by_cases h : s.LetsRun ∧ s.files.isSome = true ∧ op.MayStart s.limits
  · rw [started_of_mayStart h.1 h.2.1 h.2.2]
    apply Nat.le_succ
  · apply Nat.le_of_eq
    rw [started_of_not op h]

/-- A sandbox that has started a child has begun. -/
theorem hasBegun_operate (h : 0 < s.started → s.HasBegun) (op : Operation)
    (hop : 0 < (s.operate op).started) :
  (s.operate op).HasBegun
  := by
  by_cases hs : 0 < s.started
  · apply (h hs).operate
  · cases op with
    | run host child arguments input accepts =>
        by_cases hlets : s.LetsRun
        · obtain ⟨state, spawns, alive, -, hbegun, -⟩ :=
            run_eq host child arguments input accepts hlets
          apply hbegun
        · rw [operate, run_of_not_letsRun host child arguments input accepts hlets] at hop
          cases hs hop
    | stage file instrumented =>
        rw [started_of_not (.stage file instrumented)] at hop
        · cases hs hop
        · rintro ⟨-, -, ⟨⟩⟩
    | close =>
        rw [started_of_not .close] at hop
        · cases hs hop
        · rintro ⟨-, -, ⟨⟩⟩

/-- A sandbox that has begun lets a program run only when it has ended. -/
theorem HasBegun.isFinal (h : s.HasBegun) (hlets : s.LetsRun) :
  s.state.isFinal = true
  := by
  rcases hlets with hinstrumented | hfinal
  · cases h.ne.2 hinstrumented
  · apply hfinal

/-! ### All operations -/

theorem started_le_after (s : Sandbox) (ops : List Operation) :
  s.started ≤ (s.after ops).started
  := by
  induction ops generalizing s with
  | nil => apply Nat.le_refl
  | cons op ops ih =>
      apply Nat.le_trans (s.started_le_operate op)
      apply ih

/-- A sandbox with one child at most gets no second one, if no program that can start is run after
a child has started and the sandbox has ended, while the directory is there. -/
theorem started_after_le_one (h : 0 < s.started → s.HasBegun) (hone : s.started ≤ 1)
    (ops : List Operation)
    (hnone : ∀ before op rest, ops = before ++ op :: rest → 0 < (s.after before).started →
      (s.after before).state.isFinal = true → (s.after before).files.isSome = true →
        ¬ op.MayStart s.limits) :
  (s.after ops).started ≤ 1
  := by
  induction ops generalizing s with
  | nil => apply hone
  | cons op ops ih =>
      apply ih (s := s.operate op)
      · apply hasBegun_operate h
      · by_cases hstarts : s.LetsRun ∧ s.files.isSome = true ∧ op.MayStart s.limits
        · obtain ⟨hlets, hthere, hop⟩ := hstarts
          have hzero : ¬ 0 < s.started := by
            intro hpos
            apply hnone [] op ops rfl hpos ((h hpos).isFinal hlets) hthere hop
          rw [started_of_mayStart hlets hthere hop]
          omega
        · rw [started_of_not op hstarts]
          apply hone
      · rintro before late rest rfl
        rw [limits_operate]
        apply hnone (op :: before) late rest rfl

/-! ### The law -/

section Law

variable (directory : String) (limits : Limits) (ops : List Operation)

/-- Whether some operations on a new sandbox run a program that can start when the sandbox has ended
and is not closed. -/
def StartsLate (before : List Operation) (op : Operation) : Prop :=
  .close ∉ before ∧ (({ directory, limits } : Sandbox).after before).state.isFinal = true ∧
    op.MayStart limits

variable {directory limits} in
/-- A program that is run late is a new child. -/
theorem StartsLate.started {before : List Operation} {op : Operation}
    (h : StartsLate directory limits before op) :
  (({ directory, limits } : Sandbox).after (before ++ [op])).started
    = (({ directory, limits } : Sandbox).after before).started + 1
  := by
  obtain ⟨hopen, hfinal, hop⟩ := h
  rw [after_append]
  apply started_of_mayStart (.inr hfinal)
  · rw [isSome_files_after]
    exact ⟨rfl, hopen⟩
  · rw [limits_after]
    apply hop

/-- A new sandbox starts at most one child exactly when no program is run late after a child has
started. -/
theorem started_le_one_iff :
  (({ directory, limits } : Sandbox).after ops).started ≤ 1 ↔
    ∀ before op rest, ops = before ++ op :: rest →
      0 < (({ directory, limits } : Sandbox).after before).started →
        ¬ StartsLate directory limits before op
  := by
  constructor
  · rintro hone before op rest rfl hpos hlate
    have hmore := hlate.started
    have hrest := started_le_after (({ directory, limits } : Sandbox).after (before ++ [op])) rest
    rw [← after_append, List.append_assoc] at hrest
    have hle := Nat.le_trans hrest hone
    omega
  · intro hnone
    apply started_after_le_one
    · rintro ⟨⟩
    · apply Nat.zero_le
    · intro before op rest hsplit hpos hfinal hthere hop
      rw [isSome_files_after] at hthere
      apply hnone before op rest hsplit hpos ⟨hthere.2, hfinal, hop⟩

/-- Whether a sandbox keeps to one child: it starts at most one, and none when it has ended. -/
structure KeepsToOne (s : Sandbox) (ops : List Operation) : Prop where
  one : (s.after ops).started ≤ 1
  noneLate : ∀ before op rest, ops = before ++ op :: rest → (s.after before).state.isFinal = true →
    (s.after (before ++ [op])).started = (s.after before).started

/-- A new sandbox keeps to one child exactly when no program that can start is run after the
sandbox has ended and before it is closed. -/
theorem keepsToOne_iff :
  KeepsToOne { directory, limits } ops ↔
    ∀ before op rest, ops = before ++ op :: rest → .close ∉ before →
      (({ directory, limits } : Sandbox).after before).state.isFinal = true → ¬ op.MayStart limits
  := by
  constructor
  · intro hkeeps before op rest hsplit hopen hfinal hop
    have hlate : StartsLate directory limits before op := ⟨hopen, hfinal, hop⟩
    have hmore := hlate.started
    rw [hkeeps.noneLate before op rest hsplit hfinal] at hmore
    cases Nat.succ_ne_self _ hmore.symm
  · intro hnone
    constructor
    · rw [started_le_one_iff]
      rintro before op rest hsplit - ⟨hopen, hfinal, hop⟩
      apply hnone before op rest hsplit hopen hfinal hop
    · intro before op rest hsplit hfinal
      rw [after_append]
      apply started_of_not
      rintro ⟨-, hthere, hop⟩
      rw [isSome_files_after] at hthere
      rw [limits_after] at hop
      apply hnone before op rest hsplit hthere.2 hfinal hop

end Law

/-- A program that is run twice. -/
def twice : List Operation :=
  [.stage "a.py" true, .run .bare {} ["a.py"] [] fun _ => true,
    .run .bare {} ["a.py"] [] fun _ => true]

/-- A sandbox does not keep to one child when a program is run again: it starts again. -/
theorem not_keepsToOne_twice :
  (({ directory := "", limits := { timeout := 1 } } : Sandbox).after twice).started = 2 ∧
    ¬ KeepsToOne { directory := "", limits := { timeout := 1 } } twice
  := by
  have htwo :
      (({ directory := "", limits := { timeout := 1 } } : Sandbox).after twice).started = 2 := by
    decide +kernel
  refine ⟨htwo, ?_⟩
  intro hkeeps
  have hone := hkeeps.one
  rw [htwo] at hone
  omega

end SnippetProfiler.Sandbox
