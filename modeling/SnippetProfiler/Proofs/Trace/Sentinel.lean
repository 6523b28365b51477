import Mathlib.Data.List.Infix
import Mathlib.Tactic.Common
import SnippetProfiler.Trace.Frame

/-!
# First sentinels

`findSentinel` takes a text apart at its first sentinel.  Of the three sentinels at most one
begins a text; so the kind of the first sentinel is determined by the place where it stands,
and a text has at most one first sentinel.
-/

namespace SnippetProfiler

/-- A text that is taken apart at its first sentinel: no sentinel begins further to the
left. -/
structure Marked.IsFirst (m : Marked) (s : List Char) : Prop where
  text : m.before ++ (m.kind.sentinel ++ m.after) = s
  first : ∀ i < m.before.length, ∀ k : FrameKind, ¬ k.sentinel <+: s.drop i

namespace FrameKind

/-- No sentinel begins another one. -/
theorem eq_of_sentinel_prefix {k k' : FrameKind} (h : k.sentinel <+: k'.sentinel) :
  k = k'
  := by
  revert h
  cases k <;> cases k' <;> decide

/-- At most one sentinel begins a text. -/
theorem eq_of_begins {k k' : FrameKind} {s : List Char} (h : k.sentinel <+: s)
    (h' : k'.sentinel <+: s) :
  k = k'
  := by
  rcases List.prefix_or_prefix_of_prefix h h' with hp | hp
  · apply eq_of_sentinel_prefix hp
  · symm
    apply eq_of_sentinel_prefix hp

theorem mem_kinds (k : FrameKind) :
  k ∈ [event, complete, error]
  := by
  cases k <;> decide

/-- The kind at the beginning of a text is that of the sentinel that begins it. -/
theorem beginning?_eq_some_iff {k : FrameKind} {s : List Char} :
  beginning? s = some k ↔ k.sentinel <+: s
  := by
  constructor
  · intro h
    rw [← List.isPrefixOf_iff_prefix]
    apply List.find?_some h
  · intro h
    cases hb : beginning? s with
    | none =>
        have hk := List.find?_eq_none.mp hb k k.mem_kinds
        rw [List.isPrefixOf_iff_prefix] at hk
        cases hk h
    | some k' =>
        have hk' : k'.sentinel <+: s := by
          rw [← List.isPrefixOf_iff_prefix]
          apply List.find?_some hb
        rw [eq_of_begins h hk']

theorem beginning?_eq_none_iff {s : List Char} :
  beginning? s = none ↔ ∀ k : FrameKind, ¬ k.sentinel <+: s
  := by
  simp only [Option.eq_none_iff_forall_ne_some, ne_eq, beginning?_eq_some_iff]

theorem sentinel_ne_nil (k : FrameKind) :
  k.sentinel ≠ []
  := by
  cases k <;> decide

end FrameKind

/-- What stands in front of a first sentinel, behind the first character, when the sentinel
does not begin the text. -/
theorem Marked.IsFirst.tail {m : Marked} {c d : Char} {rest cs : List Char}
    (h : m.IsFirst (c :: cs)) (hb : m.before = d :: rest) :
  d = c ∧ ({ m with before := rest } : Marked).IsFirst cs
  := by
  have htext := h.text
  rw [hb, List.cons_append, List.cons.injEq] at htext
  constructor
  · apply htext.1
  · constructor
    · apply htext.2
    · intro i hi k
      apply h.first (i + 1)
      rw [hb]
      apply Nat.succ_lt_succ hi

/-- A text that begins with a sentinel has it first. -/
theorem Marked.isFirst_iff_of_begins {m : Marked} {k : FrameKind} {s : List Char}
    (hk : k.sentinel <+: s) :
  m.IsFirst s ↔ ⟨[], k, s.drop k.sentinel.length⟩ = m
  := by
  constructor
  · intro h
    have hbefore : m.before = [] := by
      by_contra hne
      apply h.first 0 (List.length_pos_of_ne_nil hne) k hk
    have htext := h.text
    rw [hbefore, List.nil_append] at htext
    have hkind : k = m.kind := FrameKind.eq_of_begins hk ⟨m.after, htext⟩
    obtain ⟨before, kind, after⟩ := m
    dsimp only at hbefore hkind htext
    rw [hbefore, hkind, ← htext, List.drop_left]
  · rintro rfl
    constructor
    · obtain ⟨rest, hrest⟩ := hk
      rw [← hrest, List.drop_left]
      rfl
    · intro i hi
      cases hi

/-- Behind a character with which no sentinel begins, the first sentinel is that of the other
characters. -/
theorem Marked.isFirst_cons_iff {m : Marked} {c : Char} {cs : List Char}
    (hc : ∀ k : FrameKind, ¬ k.sentinel <+: c :: cs) :
  m.IsFirst (c :: cs) ↔ ∃ n : Marked, n.IsFirst cs ∧ { n with before := c :: n.before } = m
  := by
  constructor
  · intro h
    cases hbefore : m.before with
    | nil =>
        have htext := h.text
        rw [hbefore, List.nil_append] at htext
        cases hc m.kind ⟨m.after, htext⟩
    | cons d rest =>
        obtain ⟨rfl, htail⟩ := h.tail hbefore
        use { m with before := rest }, htail
        rw [← hbefore]
  · rintro ⟨n, h, rfl⟩
    constructor
    · rw [List.cons_append, h.text]
    · rintro (_ | i) hi k
      · apply hc
      · apply h.first i (Nat.lt_of_succ_lt_succ hi)

/-- A text is taken apart at its first sentinel. -/
theorem findSentinel_eq_some_iff {m : Marked} {s : List Char} :
  findSentinel s = some m ↔ m.IsFirst s
  := by
  induction s generalizing m with
  | nil =>
      constructor
      · intro h
        cases h
      · intro h
        have hnil := List.append_eq_nil_iff.mp h.text
        cases m.kind.sentinel_ne_nil (List.append_eq_nil_iff.mp hnil.2).1
  | cons c cs ih =>
      cases hb : FrameKind.beginning? (c :: cs) with
      | some k =>
          rw [Marked.isFirst_iff_of_begins (FrameKind.beginning?_eq_some_iff.mp hb)]
          simp only [findSentinel, hb, Option.some.injEq]
      | none =>
          rw [Marked.isFirst_cons_iff (FrameKind.beginning?_eq_none_iff.mp hb)]
          simp only [findSentinel, hb, Option.map_eq_some_iff, ih]

/-- A text has no first sentinel exactly when there is no sentinel in it. -/
theorem findSentinel_eq_none_iff {s : List Char} :
  findSentinel s = none ↔ ∀ k : FrameKind, ¬ k.sentinel <:+: s
  := by
  induction s with
  | nil =>
      constructor
      · intro _ k h
        apply k.sentinel_ne_nil (List.infix_nil.mp h)
      · intro _
        rfl
  | cons c cs ih =>
      simp only [List.infix_cons_iff, not_or, forall_and, ← FrameKind.beginning?_eq_none_iff, ← ih]
      cases hb : FrameKind.beginning? (c :: cs) with
      | some k => simp only [findSentinel, hb, reduceCtorEq, false_and]
      | none => simp only [findSentinel, hb, Option.map_eq_none_iff, true_and]

end SnippetProfiler
