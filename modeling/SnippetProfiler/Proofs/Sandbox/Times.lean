import SnippetProfiler.Proofs.Quantity.Float
import SnippetProfiler.Proofs.Sandbox.Stream

/-!
# The times of delivered events

The time of a delivered event is clamped to that of the event before it.  Floats that are no
numbers compare with nothing, so an event at such a time is delivered as it is, and the next one
is not clamped at all.  `delivered_times` says how far the times can be trusted: they go back
only across an event whose time is no number, and they never go back exactly when they do not
across a stretch of such events.
-/

namespace SnippetProfiler

open Quantity (rank)

/-! ### Comparing times -/

/-- A number that is not less than another one has no lower rank. -/
theorem Quantity.rank_le_of_not_lt {x y : Float} (hx : x.isNaN = false) (hy : y.isNaN = false)
    (h : ¬ x < y) :
  rank y ≤ rank x
  := by
  apply le_of_not_gt
  intro hlt
  apply h
  have hxy := (lt_iff_rank hx hy).mpr hlt
  simpa only [lt, decide_eq_true_eq] using hxy

/-- What is less than something else is a number of a lower rank. -/
theorem Quantity.rank_lt_of_lt {x y : Float} (h : x < y) :
  x.isNaN = false ∧ y.isNaN = false ∧ rank x < rank y
  := by
  have hlt : lt x y = true := by simpa only [lt, decide_eq_true_eq] using h
  obtain ⟨hx, hy⟩ := isNaN_of_lt hlt
  use hx, hy
  apply (lt_iff_rank hx hy).mp hlt

/-- A float is not less than another one when there is a number that is between them. -/
theorem Quantity.not_lt_of_not_lt {x y z : Float} (hy : y.isNaN = false) (hxy : ¬ y < x)
    (hyz : ¬ z < y) :
  ¬ z < x
  := by
  intro h
  obtain ⟨hz, hx, hlt⟩ := rank_lt_of_lt h
  have hle : rank x ≤ rank z := le_trans (rank_le_of_not_lt hy hx hxy) (rank_le_of_not_lt hz hy hyz)
  apply absurd hlt (not_lt_of_ge hle)

theorem Quantity.not_lt_self (x : Float) :
  ¬ x < x
  := by
  intro h
  apply lt_irrefl _ (rank_lt_of_lt h).2.2

/-! ### Going back -/

namespace Trace

/-- No event is earlier than one that stands before it. -/
def NeverGoesBack (t : Trace Float) : Prop := t.Pairwise fun a b => ¬ b.time < a.time

instance (t : Trace Float) : Decidable t.NeverGoesBack :=
  inferInstanceAs (Decidable (t.Pairwise fun a b => ¬ b.time < a.time))

/-- Two events of which the later one is earlier in time, with the events `between` between
them. -/
def GoesBackAcross (t between : Trace Float) : Prop :=
  ∃ before a b after, t = before ++ a :: (between ++ b :: after) ∧ b.time < a.time

theorem GoesBackAcross.cons {between t : Trace Float} (h : GoesBackAcross t between)
    (e : TraceEvent Float) :
  GoesBackAcross (e :: t) between
  := by
  obtain ⟨before, a, b, after, rfl, hlt⟩ := h
  exact ⟨e :: before, a, b, after, rfl, hlt⟩

theorem neverGoesBack_iff {t : Trace Float} :
  t.NeverGoesBack ↔ ∀ between, ¬ GoesBackAcross t between
  := by
  induction t with
  | nil =>
      constructor
      · rintro - between ⟨before, a, b, after, h, -⟩
        cases List.append_ne_nil_of_right_ne_nil before (List.cons_ne_nil _ _) h.symm
      · intro _
        apply List.Pairwise.nil
  | cons e t ih =>
      rw [NeverGoesBack, List.pairwise_cons]
      constructor
      · rintro ⟨he, ht⟩ between ⟨before, a, b, after, h, hlt⟩
        cases before with
        | nil =>
            cases h
            apply he b _ hlt
            simp
        | cons d before =>
            cases h
            apply ih.mp ht between
            exact ⟨before, a, b, after, rfl, hlt⟩
      · intro h
        constructor
        · intro b hb hlt
          obtain ⟨between, after, rfl⟩ := List.append_of_mem hb
          apply h between
          exact ⟨[], e, b, after, rfl, hlt⟩
        · apply ih.mpr
          intro between hback
          apply h between (hback.cons e)

/-! ### Clamped events -/

/-- A clamped event is not before the time to which it is clamped. -/
theorem not_clamp_lt (t : Float) (e : TraceEvent Float) :
  ¬ (e.clamp t).time < t
  := by
  rw [TraceEvent.clamp]
  split
  · cases e with
    | _ => apply Quantity.not_lt_self
  · assumption

/-- Among clamped events none is before the time to which they are clamped, as long as all in
front of it are at numbers. -/
theorem not_lt_of_clampedFrom {t : Float} {es between after : Trace Float} {b : TraceEvent Float}
    (h : clampedFrom t es = between ++ b :: after)
    (hn : ∀ e ∈ between, e.time.isNaN = false) :
  ¬ b.time < t
  := by
  induction between generalizing t es with
  | nil =>
      cases es with
      | nil => cases h
      | cons e es =>
          cases h
          apply not_clamp_lt
  | cons c between ih =>
      cases es with
      | nil => cases h
      | cons e es =>
          rw [clampedFrom, List.cons_append, List.cons.injEq] at h
          obtain ⟨rfl, hrest⟩ := h
          rw [List.forall_mem_cons] at hn
          apply Quantity.not_lt_of_not_lt hn.1 (not_clamp_lt t e)
          apply ih hrest hn.2

/-- What stands behind a clamped event is clamped to its time. -/
theorem clampedFrom_behind {t : Float} {es before rest : Trace Float} {a : TraceEvent Float}
    (h : clampedFrom t es = before ++ a :: rest) :
  ∃ fs, rest = clampedFrom a.time fs
  := by
  induction before generalizing t es with
  | nil =>
      cases es with
      | nil => cases h
      | cons e es =>
          cases h
          use es
  | cons c before ih =>
      cases es with
      | nil => cases h
      | cons e es =>
          rw [clampedFrom, List.cons_append, List.cons.injEq] at h
          apply ih h.2

/-- Clamped events go back only across one whose time is no number. -/
theorem isNaN_of_goesBackAcross {t : Float} {es between : Trace Float}
    (h : GoesBackAcross (clampedFrom t es) between) :
  ∃ e ∈ between, e.time.isNaN = true
  := by
  obtain ⟨before, a, b, after, hsplit, hlt⟩ := h
  obtain ⟨fs, hfs⟩ := clampedFrom_behind hsplit
  by_contra hnone
  apply not_lt_of_clampedFrom hfs.symm _ hlt
  intro e he
  rw [← Bool.not_eq_true]
  intro hnan
  apply hnone
  use e

/-- Events never go back when they do not across a stretch, which may be empty, of events whose
times are no numbers. -/
theorem neverGoesBack_of_stretches {t : Trace Float}
    (h : ∀ between, (∀ e ∈ between, e.time.isNaN = true) → ¬ GoesBackAcross t between) :
  t.NeverGoesBack
  := by
  induction t with
  | nil => apply List.Pairwise.nil
  | cons a t ih =>
      have ht : NeverGoesBack t := by
        apply ih
        intro between hn hback
        apply h between hn (hback.cons a)
      rw [NeverGoesBack, List.pairwise_cons]
      use fun b hb hlt => ?_, ht
      obtain ⟨between, after, rfl⟩ := List.append_of_mem hb
      -- The first number between the two is neither before `a` nor after `b`.
      cases hfind : between.find? fun e => !e.time.isNaN with
      | none =>
          apply h between
          · intro e he
            simpa using List.find?_eq_none.mp hfind e he
          · exact ⟨[], a, b, after, rfl, hlt⟩
      | some c =>
          obtain ⟨hc, nans, rest, rfl, hnans⟩ := List.find?_eq_some_iff_append.mp hfind
          have hnumber : c.time.isNaN = false := by simpa using hc
          apply Quantity.not_lt_of_not_lt hnumber _ _ hlt
          · intro hca
            apply h nans
            · intro e he
              simpa using hnans e he
            · refine ⟨[], a, c, rest ++ b :: after, ?_, hca⟩
              simp
          · rw [List.append_assoc, NeverGoesBack, List.pairwise_append] at ht
            have hcb := (List.pairwise_cons.mp ht.2.1).1
            apply hcb b
            simp

end Trace

namespace Sandbox

/-! ### Runs -/

/-- Whether or not there is a fault, the delivered events are clamped. -/
theorem Reading.exists_delivered (accepts : TraceEvent Float → Bool) (r : Reading)
    (ls : List String) :
  ∃ es, (r.lines accepts ls).1.delivered = r.delivered ++ Trace.clampedFrom r.latest es
  := by
  induction ls generalizing r with
  | nil =>
      use []
      simp [Reading.lines, Trace.clampedFrom]
  | cons l ls ih =>
      rcases r.line_cases accepts l with hl | ⟨r', fault, hl, hd⟩
      · obtain ⟨es, hes⟩ := ih (r.after l)
        use (if r.terminal.isSome then [] else (eventOf l).toList) ++ es
        simp only [Reading.lines, hl]
        rw [hes, Trace.clampedFrom_append, ← List.append_assoc]
        rfl
      · use []
        simp only [Reading.lines, hl]
        rw [hd, Trace.clampedFrom, List.append_nil]

variable (host : Host) (s : Sandbox) (child : Child) (arguments input : List String)
  (accepts : TraceEvent Float → Bool)

/-- A conversation delivers what is delivered when the lines are read. -/
theorem converse_delivered (spawn : Spawn) :
  (s.converse spawn child input accepts).2.delivered
    = (Reading.lines accepts {} (child.texts s.limits.lineLength)).1.delivered
  := by
  obtain ⟨spawn', alive, -, heq⟩ := exists_converse_eq s spawn child input accepts
  rw [heq, conclude_delivered]

/-- A run delivers clamped events. -/
theorem exists_delivered :
  ∃ es, (s.run host child arguments input accepts).2.delivered = Trace.clampedFrom 0 es
  := by
  have hruns := runsTo_run s child input host arguments accepts
  generalize s.run host child arguments input accepts = result at hruns ⊢
  cases hruns with
  | refused => exact ⟨[], rfl⟩
  | unspawned => exact ⟨[], rfl⟩
  | unstarted => exact ⟨[], rfl⟩
  | unreadable => exact ⟨[], rfl⟩
  | started =>
      obtain ⟨es, hes⟩ := Reading.exists_delivered accepts {} _
      use es
      rw [converse_delivered, hes, List.nil_append]

/-- The events that a run delivers go back in time only across an event whose time is no number;
and they never go back exactly when they do not across a stretch of such events. -/
theorem delivered_times :
  (∀ between, (s.run host child arguments input accepts).2.delivered.GoesBackAcross between →
      ∃ e ∈ between, e.time.isNaN = true) ∧
    ((s.run host child arguments input accepts).2.delivered.NeverGoesBack ↔
      ∀ between ≠ [], (∀ e ∈ between, e.time.isNaN = true) →
        ¬ (s.run host child arguments input accepts).2.delivered.GoesBackAcross between)
  := by
  obtain ⟨es, hes⟩ := exists_delivered host s child arguments input accepts
  rw [hes]
  constructor
  · intro between
    apply Trace.isNaN_of_goesBackAcross
  · constructor
    · intro h between _ _
      apply Trace.neverGoesBack_iff.mp h
    · intro h
      apply Trace.neverGoesBack_of_stretches
      intro between hn hback
      obtain ⟨e, he, hnan⟩ := Trace.isNaN_of_goesBackAcross hback
      apply h between (List.ne_nil_of_mem he) hn hback

/-- A child that writes three events, the middle one at a time that is no number, and the last
one before the first. -/
def wandering : Child :=
  { output := ["5", "NaN", "3"].flatMap fun time =>
      octetsOf "__PERFSCOPE_EVENT__\x7b\"event\":\"memory\",\"data\":\x7b\"timestampMs\":" ++
        octetsOf time ++ octetsOf ",\"rss\":1\x7d\x7d\n" }

/-- Not every run delivers events that never go back: a time may be no number. -/
theorem delivered_may_go_back :
  ¬ ∀ (host : Host) (s : Sandbox) (child : Child) (arguments input : List String)
      (accepts : TraceEvent Float → Bool), s.state = .instrumented → (∀ e, accepts e = true) →
        (s.run host child arguments input accepts).2.delivered.NeverGoesBack
  := by
  intro h
  have hback : ¬ (briefly.run .bare wandering ["a.py"] []
      Reading.takesAll).2.delivered.NeverGoesBack := by
    decide +kernel
  apply hback
  apply h .bare briefly wandering ["a.py"] [] Reading.takesAll rfl fun _ => rfl

end Sandbox

end SnippetProfiler
