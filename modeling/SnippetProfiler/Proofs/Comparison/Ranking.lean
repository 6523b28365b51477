import Mathlib
import SnippetProfiler.Comparison.Verdict

/-!
# Verdicts rank runs

With exact differences, the verdict on two runs compares the time of execution, the peak of memory
and the number of calls in lexicographic order.  The sum of weighted signs comes to this because
each weight is at least the sum of the lighter ones, and a score of zero is left to the heaviest
metric that differs.  So verdicts are consistent over any number of runs, and when the runs change
places, the score, the verdict and the differences turn around.
-/

namespace SnippetProfiler

/-! ### Rankings -/

/-- The verdict on runs in an order, of which the smaller one is better. -/
def Verdict.ofOrdering : Ordering → Verdict
  | .lt => .first
  | .eq => .tie
  | .gt => .second

/-- The verdict on the same runs in the other order. -/
def Verdict.opposite : Verdict → Verdict
  | .first => .second
  | .second => .first
  | .tie => .tie

namespace MetricsSummary

/-- The metrics that count, the heaviest first, in lexicographic order. -/
def rank (s : MetricsSummary ℚ) : ℚ ×ₗ ℤ ×ₗ ℤ :=
  toLex (s.executionTime, toLex (s.peakMemory, s.callCount))

/-- No metric of the first run is worse than that of the second one. -/
structure Dominates (a b : MetricsSummary ℚ) : Prop where
  executionTime : a.executionTime ≤ b.executionTime
  peakMemory : a.peakMemory ≤ b.peakMemory
  callCount : a.callCount ≤ b.callCount

end MetricsSummary

/-- A way to compare runs that ranks them consistently. -/
structure IsRanking (judge : MetricsSummary ℚ → MetricsSummary ℚ → Comparison ℚ) : Prop where
  lexicographic (a b : MetricsSummary ℚ) :
    (judge a b).verdict = .ofOrdering (compare a.rank b.rank)
  tie_iff (a b : MetricsSummary ℚ) : (judge a b).verdict = .tie ↔
    a.executionTime = b.executionTime ∧ a.peakMemory = b.peakMemory ∧ a.callCount = b.callCount
  not_worse_trans (a b c : MetricsSummary ℚ) (hb : (judge a b).verdict ≠ .first)
    (hc : (judge b c).verdict ≠ .first) : (judge a c).verdict ≠ .first
  dominance (a b : MetricsSummary ℚ) (h : a.Dominates b) :
    (judge a b).verdict ≠ .second ∧ (¬ b.Dominates a → (judge a b).verdict = .first)
  opposite_score (a b : MetricsSummary ℚ) : (judge b a).score = -(judge a b).score
  opposite_verdict (a b : MetricsSummary ℚ) : (judge b a).verdict = (judge a b).verdict.opposite
  opposite_time (a b : MetricsSummary ℚ) : (judge b a).time.delta = -(judge a b).time.delta
  opposite_memory (a b : MetricsSummary ℚ) : (judge b a).memory.delta = -(judge a b).memory.delta
  opposite_calls (a b : MetricsSummary ℚ) : (judge b a).calls.delta = -(judge a b).calls.delta

/-! ### Signs -/

/-- The sign of the second number minus the first one, by their order. -/
def signOf : Ordering → ℤ
  | .lt => 1
  | .eq => 0
  | .gt => -1

theorem sign_sub (x y : ℚ) :
  Quantity.sign (Quantity.sub y x) = signOf (compare x y)
  := by
  have hlt : Quantity.lt (Quantity.zero : ℚ) (Quantity.sub y x) = decide (x < y) := by
    rw [← decide_eq_decide.mpr (sub_pos (a := y) (b := x))]
    rfl
  have hgt : Quantity.lt (Quantity.sub y x) (Quantity.zero : ℚ) = decide (y < x) := by
    rw [← decide_eq_decide.mpr (sub_neg (a := y) (b := x))]
    rfl
  rw [Quantity.sign, hlt, hgt]
  obtain h | rfl | h := lt_trichotomy x y
  · simp [compare_lt_iff_lt.mpr h, h, signOf]
  · simp [signOf]
  · simp [compare_gt_iff_gt.mpr h, h, h.le, signOf]

theorem int_sign_sub (m n : ℤ) :
  (n - m).sign = signOf (compare m n)
  := by
  obtain h | rfl | h := lt_trichotomy m n
  · rw [compare_lt_iff_lt.mpr h, Int.sign_eq_one_of_pos (by omega)]
    rfl
  · simp [signOf]
  · rw [compare_gt_iff_gt.mpr h, Int.sign_eq_neg_one_of_neg (by omega)]
    rfl

/-- The signs of the differences are those of the metrics' orders. -/
theorem differenceSigns_eq (a b : MetricsSummary ℚ) :
  differenceSigns a b
    = [signOf (compare a.executionTime b.executionTime), signOf (compare a.peakMemory b.peakMemory),
        signOf (compare a.callCount b.callCount)]
  := by
  rw [differenceSigns, sign_sub, int_sign_sub, int_sign_sub]

/-! ### Scores -/

/-- The score of three signs decides by the first of them that is not zero. -/
theorem ofScore_scoreOf (o p q : Ordering) :
  Verdict.ofScore (scoreOf [signOf o, signOf p, signOf q]) = .ofOrdering (o.then (p.then q))
  := by
  cases o <;> cases p <;> cases q <;> rfl

/-- The score turns around with the signs. -/
theorem scoreOf_swap (o p q : Ordering) :
  scoreOf [signOf o.swap, signOf p.swap, signOf q.swap]
    = -scoreOf [signOf o, signOf p, signOf q]
  := by
  cases o <;> cases p <;> cases q <;> rfl

theorem scoreOf_differenceSigns_swap (a b : MetricsSummary ℚ) :
  scoreOf (differenceSigns b a) = -scoreOf (differenceSigns a b)
  := by
  rw [differenceSigns_eq, differenceSigns_eq, ← scoreOf_swap]
  rw [Std.OrientedOrd.eq_swap (a := b.executionTime), Std.OrientedOrd.eq_swap (a := b.peakMemory),
    Std.OrientedOrd.eq_swap (a := b.callCount)]

theorem compare_rank (a b : MetricsSummary ℚ) :
  compare a.rank b.rank
    = (compare a.executionTime b.executionTime).then
        ((compare a.peakMemory b.peakMemory).then (compare a.callCount b.callCount))
  := rfl

/-- The verdict is that of the lexicographic order. -/
theorem verdictOn_eq (a b : MetricsSummary ℚ) :
  verdictOn a b = .ofOrdering (compare a.rank b.rank)
  := by
  rw [verdictOn, differenceSigns_eq, ofScore_scoreOf, compare_rank]

theorem ofOrdering_eq_tie {o : Ordering} :
  Verdict.ofOrdering o = .tie ↔ o = .eq
  := by
  cases o <;> decide

theorem ofOrdering_eq_first {o : Ordering} :
  Verdict.ofOrdering o = .first ↔ o = .lt
  := by
  cases o <;> decide

theorem ofOrdering_eq_second {o : Ordering} :
  Verdict.ofOrdering o = .second ↔ o = .gt
  := by
  cases o <;> decide

theorem ofOrdering_swap (o : Ordering) :
  Verdict.ofOrdering o.swap = (Verdict.ofOrdering o).opposite
  := by
  cases o <;> rfl

theorem rank_eq_iff {a b : MetricsSummary ℚ} :
  a.rank = b.rank ↔
    a.executionTime = b.executionTime ∧ a.peakMemory = b.peakMemory ∧ a.callCount = b.callCount
  := by
  simp only [MetricsSummary.rank, EmbeddingLike.apply_eq_iff_eq, Prod.mk.injEq]

/-- A run that dominates another one has no larger rank. -/
theorem MetricsSummary.Dominates.rank_le {a b : MetricsSummary ℚ} (h : a.Dominates b) :
  a.rank ≤ b.rank
  := by
  apply Prod.Lex.toLex_mono
  constructor
  · exact h.executionTime
  · apply Prod.Lex.toLex_mono
    constructor
    · exact h.peakMemory
    · exact h.callCount

/-! ### Comparisons -/

/-- How two integers differ in exact numbers. -/
theorem exists_intDelta (m n : ℤ) :
  ∃ percent : ℚ, intDelta m n = .ok ⟨((n - m : ℤ) : ℚ), percent⟩
  := by
  rw [intDelta]
  by_cases h : m = 0
  · simp [h, Rounding.ofInt?]
  · simp [h, Rounding.ofInt?, Rounding.quotient?]

/-- In exact numbers, any two runs can be compared. -/
theorem exists_compareMetrics (a b : MetricsSummary ℚ) :
  ∃ percent percent' percent'' : ℚ, compareMetrics a b
    = .ok ⟨⟨b.executionTime - a.executionTime, percent⟩,
        ⟨((b.peakMemory - a.peakMemory : ℤ) : ℚ), percent'⟩,
        ⟨((b.callCount - a.callCount : ℤ) : ℚ), percent''⟩, verdictOn a b,
        scoreOf (differenceSigns a b)⟩
  := by
  obtain ⟨percent', hmemory⟩ := exists_intDelta a.peakMemory b.peakMemory
  obtain ⟨percent'', hcalls⟩ := exists_intDelta a.callCount b.callCount
  use (quantityDelta a.executionTime b.executionTime).percent, percent', percent''
  rw [compareMetrics, hmemory, hcalls]
  rfl

/-- In exact numbers, any two runs can be compared, and comparing them ranks them. -/
theorem compareMetrics_isRanking :
  ∃ judge, (∀ a b, compareMetrics a b = .ok (judge a b)) ∧ IsRanking judge
  := by
  choose percent percent' percent'' hjudge using exists_compareMetrics
  refine ⟨_, hjudge, ?_⟩
  constructor
  case lexicographic => exact verdictOn_eq
  case tie_iff =>
    intro a b
    rw [verdictOn_eq, ofOrdering_eq_tie, compare_eq_iff_eq, rank_eq_iff]
  case not_worse_trans =>
    intro a b c
    simp only [verdictOn_eq, Ne, ofOrdering_eq_first, compare_lt_iff_lt, not_lt]
    intro hab hbc
    apply hbc.trans hab
  case dominance =>
    intro a b h
    simp only [verdictOn_eq, Ne, ofOrdering_eq_second, ofOrdering_eq_first, compare_lt_iff_lt,
      compare_gt_iff_gt, not_lt]
    use h.rank_le
    intro hnot
    apply lt_of_le_of_ne h.rank_le
    intro heq
    obtain ⟨htime, hmemory, hcalls⟩ := rank_eq_iff.mp heq
    exact hnot ⟨htime.ge, hmemory.ge, hcalls.ge⟩
  case opposite_score => exact scoreOf_differenceSigns_swap
  case opposite_verdict =>
    intro a b
    simp only [verdictOn_eq]
    rw [← ofOrdering_swap, ← Std.OrientedOrd.eq_swap]
  case opposite_time =>
    intro a b
    symm
    apply neg_sub
  case opposite_memory =>
    intro a b
    dsimp only
    rw [← Int.cast_neg, neg_sub]
  case opposite_calls =>
    intro a b
    dsimp only
    rw [← Int.cast_neg, neg_sub]

end SnippetProfiler
