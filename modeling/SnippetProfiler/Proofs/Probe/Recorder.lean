import SnippetProfiler.Proofs.Probe.Notes

/-!
# Recorders that advance

Whatever a hook does with a recorder, it goes on, samples the memory, and writes what a hook has
left open before.  A recorder goes on when it reads the clock, takes the time, and writes events at
the latest time.  What was left open, because the text of a value was asked for, is written late:
an event tells the time at which it was begun, and an error comes behind all that was written
while its text was made.

`Advance` says once what a hook can do.  What holds of all recorders that advance need not be
proved hook by hook.
-/

namespace SnippetProfiler

/-- Whether events of a kind are tracked. -/
def TrackingOptions.tracks (o : TrackingOptions) : EventKind → Bool
  | .memory => o.memory
  | .functionCall => o.functions
  | .variableState => o.assignments
  | .executionFlow => o.executionFlow

namespace Probe

/-- A note in a list with one more note stands in the list or is the last one. -/
theorem concat_eq_append_cons {α : Type} {xs before after : List α} {x y : α}
    (h : xs ++ [x] = before ++ y :: after) :
  (xs = before ∧ x = y) ∨ ∃ rest, xs = before ++ y :: rest
  := by
  cases List.eq_nil_or_concat after with
  | inl hnil =>
      rw [hnil] at h
      obtain ⟨hxs, hx⟩ := List.append_inj' h rfl
      left
      constructor
      · apply hxs
      · apply List.cons.inj hx |>.1
  | inr hconcat =>
      obtain ⟨rest, z, hz⟩ := hconcat
      rw [hz, List.concat_eq_append, ← List.cons_append, ← List.append_assoc] at h
      right
      use rest
      exact (List.append_inj' h rfl).1

/-- Whether a note is of the end. -/
def Note.isEnd {τ : Type} : Note τ → Bool
  | .event _ => false
  | .complete .. | .error _ => true

/-- What is written late, if anything is: an event, with the time that it tells, or the error with
which a program has ended. -/
inductive Late (τ : Type) where
  | nothing
  | event (kind : EventKind) (time : τ)
  | crash

namespace Recorder

variable {σ τ : Type}

/-- No note of the end was written. -/
def IsUnended (r : Recorder σ τ) : Prop := ∀ n ∈ r.written, n.isEnd = false

variable [Quantity τ] {env : Instruments σ τ}

/-- A recorder goes on: its surroundings change, it takes the time, and it writes events of tracked
kinds at the latest time, but no samples of the memory. -/
inductive Goes (env : Instruments σ τ) (r : Recorder σ τ) : Recorder σ τ → Prop
  | refl : Goes env r r
  | pass {s : Recorder σ τ} (h : Goes env r s) (surroundings : σ) :
      Goes env r { s with surroundings }
  | now {s : Recorder σ τ} (h : Goes env r s) : Goes env r (s.now env).2
  | emit {s : Recorder σ τ} (h : Goes env r s) {e : TraceEvent τ} (htime : e.time = s.latest)
      (htracked : s.options.tracks e.kind = true) (hkind : e.kind ≠ .memory) :
      Goes env r (s.emit e)

/-- A recorder goes on, from the end of the program on or not, or something is written late: an
event, or the error with which the program has ended, which is the first note of the end. -/
inductive Acts (env : Instruments σ τ) (r : Recorder σ τ) : Late τ → Recorder σ τ → Prop
  | goes {s : Recorder σ τ} (h : Goes env r s) : Acts env r .nothing s
  | finishes {s : Recorder σ τ} (hunfinished : r.finished = false)
      (h : Goes env { r with finished := true } s) : Acts env r .nothing s
  | event {surroundings : σ} {e : TraceEvent τ} (htracked : r.options.tracks e.kind = true)
      (hkind : e.kind ≠ .memory) :
      Acts env r (.event e.kind e.time) (({ r with surroundings } : Recorder σ τ).emit e)
  | crash (hfinished : r.finished = true) (hunended : r.IsUnended) (crash : Crash) :
      Acts env r .crash (r.write (.error crash))

/-- What one hook does with a recorder: it may sample the memory in the end, forced or not, and
write everything once more if the program has completed. -/
inductive Advance (env : Instruments σ τ) (r : Recorder σ τ) (forced : Bool) :
    Late τ → Recorder σ τ → Prop
  | acts {late : Late τ} {s : Recorder σ τ} (h : Acts env r late s) : Advance env r forced late s
  | samples {late : Late τ} {s : Recorder σ τ} (h : Acts env r late s) :
      Advance env r forced late (s.sample env forced)
  | completes {s : Recorder σ τ} (hforced : forced = true) (hunfinished : r.finished = false)
      (h : Goes env { r with finished := true } s) : Advance env r forced .nothing (s.conclude env)

variable {r s : Recorder σ τ} {late : Late τ} {forced : Bool}

omit [Quantity τ] in
theorem write_of_open (h : r.blocked = false) (n : Note τ) :
  r.write n = { r with written := r.written ++ [n] }
  := by
  rw [Recorder.write, h]
  rfl

omit [Quantity τ] in
theorem emit_of_open (h : r.blocked = false) (e : TraceEvent τ) :
  r.emit e = { r with record := r.record.push e, written := r.written ++ [.event e] }
  := write_of_open (r := { r with record := r.record.push e }) h (.event e)

theorem Goes.reading (h : Goes env r s) :
  Goes env r (s.reading env).2
  := h.pass _

theorem Goes.since (h : Goes env r s) (start : τ) :
  Goes env r (s.since env start).2
  := h.pass _

theorem Goes.advance (h : Goes env r s) :
  Advance env r forced .nothing s
  := .acts (.goes h)

/-- A sample of the memory writes nothing, or an event of the memory at the latest time. -/
theorem sample_cases (r : Recorder σ τ) (forced : Bool) :
  r.sample env forced = r ∨ r.sample env forced = (r.now env).2 ∨ ∃ (q : Recorder σ τ)
    (s : MemorySample τ), r.sample env forced = q.emit (.memory s)
      ∧ q = { (r.now env).2 with
          surroundings := q.surroundings, sampledAt := q.sampledAt, resident := q.resident }
      ∧ s.time = q.latest ∧ r.options.memory = true
  := by
  rw [Recorder.sample]
  split
  · rename_i hmemory
    right
    simp only
    split
    · left
      rfl
    · right
      exact ⟨_, _, rfl, rfl, rfl, hmemory⟩
  · left
    rfl

end Recorder

/-- Instruments that always show nothing. -/
def still : Instruments Unit Float := ⟨fun s => (0, s), fun s => ((0, 0), s)⟩

/-! ### What is handed out -/

/-- What is handed out in addition is tracked if it stands for something. -/
theorem forall_concat {α : Type} {xs : List (Option α)} {x : Option α} {tracked : Prop}
    (hxs : ∀ a, some a ∈ xs → tracked) (hx : ∀ a, x = some a → tracked) :
  ∀ a, some a ∈ xs ++ [x] → tracked
  := by
  intro a ha
  rcases List.mem_append.mp ha with ha | ha
  · exact hxs a ha
  · exact hx a (List.mem_singleton.mp ha).symm

/-- What is used up was handed out before. -/
theorem mem_of_mem_set_none {α : Type} {xs : List (Option α)} {number : Nat} {a : α}
    (h : some a ∈ xs.set number none) :
  some a ∈ xs
  := by
  obtain h | h := List.mem_or_eq_of_mem_set h
  · exact h
  · cases h

/-! ### Runs -/

/-- What holds of each move behind those before it holds at each place of the moves. -/
theorem forall_prefix_iff {M : Type} {R : List M → M → Prop} {moves : List M} :
  (∀ before m, before ++ [m] <+: moves → R before m)
    ↔ ∀ i : Fin moves.length, R (moves.take i) moves[i]
  := by
  constructor
  · intro h i
    apply h
    have htake := List.take_append_getElem i.isLt
    rw [Fin.getElem_fin, htake]
    apply List.take_prefix
  · rintro h before m ⟨after, rfl⟩
    have hm := h ⟨before.length, by simp⟩
    simpa using hm

/-- What each move keeps holds of a state after moves; and what a move keeps exactly when it is fine
holds after moves exactly when each of them is fine where it is made. -/
theorem foldl_iff {S M : Type} {step : S → M → S} {P Q : S → Prop} {R : S → M → Prop}
    (hstep : ∀ s m, Q s → Q (step s m) ∧ (P (step s m) ↔ P s ∧ R s m)) {s : S} (hP : P s) (hQ : Q s)
    (moves : List M) :
  Q (moves.foldl step s)
    ∧ (P (moves.foldl step s) ↔ ∀ before m, before ++ [m] <+: moves → R (before.foldl step s) m)
  := by
  induction moves using List.reverseRecOn with
  | nil =>
      refine ⟨hQ, ?_⟩
      constructor
      · intro _ before m h
        have hlength := h.length_le
        rw [List.length_append] at hlength
        cases hlength
      · intro _
        exact hP
  | append_singleton moves m ih =>
      obtain ⟨hkept, hbefore⟩ := ih
      obtain ⟨hnext, hiff⟩ := hstep _ m hkept
      rw [List.foldl_concat]
      refine ⟨hnext, (hiff.trans (and_congr_left' hbefore)).trans ?_⟩
      constructor
      · rintro ⟨hbefore, hlast⟩ before n h
        obtain heq | h := List.prefix_concat_iff.mp h
        · obtain ⟨rfl, hn⟩ := List.append_inj' heq rfl
          cases hn
          exact hlast
        · exact hbefore before n h
      · intro h
        constructor
        · intro before n hn
          exact h before n (hn.trans (List.prefix_append _ _))
        · exact h moves m (List.prefix_refl _)

end Probe

end SnippetProfiler
