import Mathlib.Analysis.SpecialFunctions.Log.Basic
import Mathlib.Analysis.SpecificLimits.Normed
import SnippetProfiler.Complexity.Estimate
import SnippetProfiler.Proofs.Indented.Recursion

/-!
# How the hint bounds nests of loops

A notation such as `O(n^2 log n)` is written for a growth, and each growth has its rate: the function of
the size of the input that it stands for.  A notation is written for one growth only (`text_injective`),
so that we may ask how fast a notation grows.  It outpaces the power `n^k` when this power is bounded by
its rate.  For a growth `n^p · log^l n` this means `k ≤ p`, whatever `l` is; the exponential growth
outpaces all powers.

A nest of `k` loops makes a program take a time that grows at least as fast as `n^k`.  The hint is never
weaker than that when a program has no scaling loops and no calls that count.  A scaling loop takes one
away from the power, wherever it stands, and a call that counts puts the growth of a recursion in the
place of that of the loops, even when it is weaker.
-/

namespace SnippetProfiler

open Filter Asymptotics

/-- The growths that a hint can report: `n^power · log^logs n`, or an exponential one. -/
inductive Growth where
  | polylog (power logs : Nat)
  | exponential
  deriving DecidableEq

namespace Growth

/-- How a growth is written. -/
def text : Growth → String
  | polylog power logs => SnippetProfiler.polylog power logs
  | exponential => GrowthClass.exponential.text

/-- The rate of a growth at a size. -/
noncomputable def rate : Growth → Nat → ℝ
  | polylog power logs, n => (n : ℝ) ^ power * Real.log n ^ logs
  | exponential, n => 2 ^ n

/-- A growth bears a power when it grows at least as fast. -/
def Bears : Growth → Nat → Prop
  | polylog power _, k => k ≤ power
  | exponential, _ => True

theorem bears_zero (g : Growth) :
  g.Bears 0
  := by
  cases g with
  | polylog power logs => exact Nat.zero_le power
  | exponential => trivial

end Growth

/-- A notation grows at least as fast as `n^k`. -/
def Outpaces (growth : String) (k : Nat) : Prop :=
  ∃ g : Growth, g.text = growth ∧ (fun n : Nat => (n : ℝ) ^ k) =O[atTop] g.rate

/-! ### Notations -/

namespace Polylog

/-- How an exponent is written; the exponent one is not. -/
def exponent (k : Nat) : List Char := if k = 1 then [] else '^' :: (toString k).toList

/-- What stands behind the power in the notation of a growth. -/
def logTail (logs : Nat) : List Char :=
  if logs = 0 then [')'] else ' ' :: 'l' :: 'o' :: 'g' :: (exponent logs ++ [' ', 'n', ')'])

/-- A character of an exponent. -/
def inExponent (c : Char) : Bool := c == '^' || c.isDigit

theorem inExponent_of_mem {k : Nat} :
  ∀ c ∈ exponent k, inExponent c = true
  := by
  intro c hc
  rw [exponent] at hc
  split at hc
  · cases hc
  · rw [inExponent, Bool.or_eq_true, beq_iff_eq]
    cases hc with
    | head => exact .inl rfl
    | tail _ hc =>
        have hchars : (toString k).toList = Nat.toDigits 10 k := Nat.toList_repr
        rw [hchars] at hc
        exact .inr (Nat.isDigit_of_mem_toDigits (by decide) (by decide) hc)

theorem exponent_injective {j k : Nat} (h : exponent j = exponent k) :
  j = k
  := by
  rw [exponent, exponent] at h
  split at h
  case isTrue hj =>
    split at h
    case isTrue hk => rw [hj, hk]
    case isFalse => cases h
  case isFalse =>
    split at h
    case isTrue => cases h
    case isFalse =>
      have hdigits : Nat.toDigits 10 j = Nat.toDigits 10 k := by
        rw [← Nat.toList_repr, ← Nat.toList_repr]
        exact (List.cons.inj h).2
      have hvalues := congrArg (Nat.ofDigitChars 10 · 0) hdigits
      simpa only [Nat.ofDigitChars_toDigits (b := 10) (by decide) (by decide)] using hvalues

/-- An exponent ends where no character of an exponent follows. -/
theorem exponent_append_inj {j k : Nat} {xs ys : List Char} (hxs : xs.head?.any inExponent = false)
    (hys : ys.head?.any inExponent = false) (h : exponent j ++ xs = exponent k ++ ys) :
  j = k ∧ xs = ys
  := by
  have htake : ∀ {i : Nat} {zs : List Char}, zs.head?.any inExponent = false →
      (exponent i ++ zs).takeWhile inExponent = exponent i := by
    intro i zs hzs
    rw [List.takeWhile_append_of_pos inExponent_of_mem]
    cases zs with
    | nil => exact List.append_nil _
    | cons z zs => rw [List.takeWhile_cons_of_neg (by simpa using hzs), List.append_nil]
  have heq : exponent j = exponent k := by rw [← htake hxs, h, htake hys]
  refine ⟨exponent_injective heq, ?_⟩
  rw [heq] at h
  exact List.append_cancel_left h

theorem logTail_injective {j k : Nat} (h : logTail j = logTail k) :
  j = k
  := by
  rw [logTail, logTail] at h
  split at h
  case isTrue hj =>
    split at h
    case isTrue hk => rw [hj, hk]
    case isFalse => cases h
  case isFalse =>
    split at h
    case isTrue => cases h
    case isFalse =>
      simp only [List.cons.injEq, true_and] at h
      exact (exponent_append_inj rfl rfl h).1

theorem exists_power {power : Nat} (h : power ≠ 0) :
  ∃ w, powerText "n^" "n" power "" = [w] ∧ w.toList = 'n' :: exponent power
  := by
  rw [powerText, if_neg h, exponent]
  split
  · exact ⟨_, rfl, rfl⟩
  · refine ⟨_, rfl, ?_⟩
    rw [String.append_empty, String.toList_append]
    rfl

theorem exists_logs {logs : Nat} (h : logs ≠ 0) :
  ∃ w, powerText "log^" "log n" logs " n" = [w]
    ∧ w.toList = 'l' :: 'o' :: 'g' :: (exponent logs ++ [' ', 'n'])
  := by
  rw [powerText, if_neg h, exponent]
  split
  · exact ⟨_, rfl, rfl⟩
  · refine ⟨_, rfl, ?_⟩
    rw [String.toList_append, String.toList_append]
    rfl

theorem toList_polylog (power logs : Nat) :
  (polylog power logs).toList = 'O' :: '(' ::
    (if power = 0 then
      if logs = 0 then ['1', ')'] else 'l' :: 'o' :: 'g' :: (exponent logs ++ [' ', 'n', ')'])
    else 'n' :: (exponent power ++ logTail logs))
  := by
  have hmarks : "O(".toList = ['O', '('] ∧ ")".toList = [')'] ∧ " ".toList = [' '] := by decide
  rw [polylog]
  by_cases hp : power = 0
  · by_cases hl : logs = 0
    · rw [hp, hl]
      decide
    · obtain ⟨w, hw, hchars⟩ := exists_logs hl
      rw [hp, hw, if_pos rfl, if_neg hl]
      simp only [powerText, if_true, List.nil_append, List.isEmpty_cons, Bool.false_eq_true, if_false,
        String.intercalate_singleton, String.toList_append, hmarks, hchars]
      simp only [List.cons_append, List.nil_append, List.append_assoc]
  · obtain ⟨v, hv, hpower⟩ := exists_power hp
    rw [hv, if_neg hp]
    by_cases hl : logs = 0
    · rw [hl, logTail, if_pos rfl]
      simp only [powerText, if_true, List.append_nil, List.isEmpty_cons, Bool.false_eq_true, if_false,
        String.intercalate_singleton, String.toList_append, hmarks, hpower]
      simp only [List.cons_append, List.nil_append]
    · obtain ⟨w, hw, hlogs⟩ := exists_logs hl
      rw [hw, logTail, if_neg hl]
      simp only [List.cons_append, List.nil_append, List.isEmpty_cons, Bool.false_eq_true, if_false,
        String.intercalate_cons_cons, String.intercalate_singleton, String.toList_append, hmarks, hpower,
        hlogs]
      simp only [List.cons_append, List.nil_append, List.append_assoc]

/-- A notation of powers and logarithms is written for one growth only. -/
theorem polylog_inj {p q j k : Nat} (h : polylog p j = polylog q k) :
  p = q ∧ j = k
  := by
  have hstop : ∀ l, (logTail l).head?.any inExponent = false := by
    intro l
    rw [logTail]
    split <;> rfl
  have hchars := congrArg String.toList h
  rw [toList_polylog, toList_polylog, List.cons.injEq, List.cons.injEq] at hchars
  replace hchars := hchars.2.2
  -- The first character tells whether there is a power, and whether there is anything at all.
  by_cases hp : p = 0 <;> by_cases hq : q = 0
  · rw [if_pos hp, if_pos hq] at hchars
    refine ⟨hp.trans hq.symm, ?_⟩
    by_cases hj : j = 0 <;> by_cases hk : k = 0
    · exact hj.trans hk.symm
    · rw [if_pos hj, if_neg hk] at hchars
      cases hchars
    · rw [if_neg hj, if_pos hk] at hchars
      cases hchars
    · rw [if_neg hj, if_neg hk] at hchars
      simp only [List.cons.injEq, true_and] at hchars
      exact (exponent_append_inj rfl rfl hchars).1
  · rw [if_pos hp, if_neg hq] at hchars
    split at hchars <;> cases hchars
  · rw [if_neg hp, if_pos hq] at hchars
    split at hchars <;> cases hchars
  · rw [if_neg hp, if_neg hq, List.cons.injEq] at hchars
    obtain ⟨hpower, htail⟩ := exponent_append_inj (hstop j) (hstop k) hchars.2
    exact ⟨hpower, logTail_injective htail⟩

end Polylog

namespace Growth

theorem text_injective {g h : Growth} (heq : g.text = h.text) :
  g = h
  := by
  have hne : ∀ p l, (polylog p l).text ≠ exponential.text := by
    intro p l h
    have hchars := congrArg String.toList h
    have hexponential : exponential.text.toList = ['O', '(', '2', '^', 'n', ')'] := by decide
    rw [text, Polylog.toList_polylog, hexponential, List.cons.injEq, List.cons.injEq] at hchars
    replace hchars := hchars.2.2
    split at hchars
    · split at hchars <;> cases hchars
    · cases hchars
  cases g with
  | polylog p j =>
      cases h with
      | polylog q k =>
          obtain ⟨rfl, rfl⟩ := Polylog.polylog_inj heq
          rfl
      | exponential => cases hne p j heq
  | exponential =>
      cases h with
      | polylog q k => cases hne q k heq.symm
      | exponential => rfl

/-! ### Rates -/

/-- Logarithms do not make up for a factor `n`. -/
theorem isLittleO_rate_polylog {power logs k : Nat} (h : power < k) :
  (polylog power logs).rate =o[atTop] fun n : Nat => (n : ℝ) ^ k
  := by
  have hlog : (fun n : Nat => Real.log n ^ logs) =o[atTop] fun n : Nat => (n : ℝ) :=
    Real.isLittleO_pow_log_id_atTop.comp_tendsto tendsto_natCast_atTop_atTop
  have hfactor : (fun n : Nat => (n : ℝ) ^ power * Real.log n ^ logs)
      =o[atTop] fun n : Nat => (n : ℝ) ^ power * (n : ℝ) :=
    (isBigO_refl ..).mul_isLittleO hlog
  apply hfactor.trans_isBigO
  apply IsBigO.of_bound 1
  filter_upwards [eventually_ge_atTop 1] with n hn
  have hcast : (1 : ℝ) ≤ n := by exact_mod_cast hn
  rw [← pow_succ, norm_pow, norm_pow, one_mul, Real.norm_natCast]
  exact pow_le_pow_right₀ hcast h

theorem isBigO_rate_polylog {power logs k : Nat} (h : k ≤ power) :
  (fun n : Nat => (n : ℝ) ^ k) =O[atTop] (polylog power logs).rate
  := by
  have hlogs : ∀ᶠ n : Nat in atTop, 1 ≤ Real.log n :=
    (Real.tendsto_log_atTop.comp tendsto_natCast_atTop_atTop).eventually_ge_atTop 1
  apply IsBigO.of_bound 1
  filter_upwards [hlogs, eventually_ge_atTop 1] with n hlog hn
  have hcast : (1 : ℝ) ≤ n := by exact_mod_cast hn
  have hpos : (0 : ℝ) ≤ (n : ℝ) ^ k := by positivity
  have hpower : (n : ℝ) ^ k ≤ (n : ℝ) ^ power := pow_le_pow_right₀ hcast h
  rw [rate, one_mul, Real.norm_of_nonneg hpos, Real.norm_of_nonneg (by positivity)]
  calc (n : ℝ) ^ k ≤ (n : ℝ) ^ power := hpower
    _ ≤ (n : ℝ) ^ power * Real.log n ^ logs :=
      le_mul_of_one_le_right (hpos.trans hpower) (one_le_pow₀ hlog)

/-- A growth bounds the powers that it bears, and no others. -/
theorem isBigO_rate_iff {g : Growth} {k : Nat} :
  ((fun n : Nat => (n : ℝ) ^ k) =O[atTop] g.rate) ↔ g.Bears k
  := by
  cases g with
  | polylog power logs =>
      refine ⟨fun h => ?_, isBigO_rate_polylog⟩
      by_contra hlt
      have hself : (fun n : Nat => (n : ℝ) ^ k) =o[atTop] fun n : Nat => (n : ℝ) ^ k :=
        h.trans_isLittleO (isLittleO_rate_polylog (Nat.not_le.mp hlt))
      have hne : ∀ᶠ n : Nat in atTop, (n : ℝ) ^ k ≠ 0 := by
        filter_upwards [eventually_ge_atTop 1] with n hn
        positivity
      exact isLittleO_irrefl hne.frequently hself
  | exponential =>
      refine ⟨fun _ => trivial, fun _ => ?_⟩
      exact (isLittleO_pow_const_const_pow_of_one_lt k one_lt_two).isBigO

end Growth

/-- How fast a notation grows. -/
theorem outpaces_text_iff {g : Growth} {k : Nat} :
  Outpaces g.text k ↔ g.Bears k
  := by
  constructor
  · rintro ⟨h, heq, hbound⟩
    rw [Growth.text_injective heq] at hbound
    exact Growth.isBigO_rate_iff.mp hbound
  · intro h
    exact ⟨g, rfl, Growth.isBigO_rate_iff.mpr h⟩

end SnippetProfiler

namespace SnippetProfiler.Indented

/-- A block has a nest of `k` loops in it, each in the body of the one before. -/
inductive HasNest : Nat → Block → Prop where
  | none {b : Block} : HasNest 0 b
  | loop {k l : Nat} {isAsync : Bool} {target iterable : Expr} {body orelse b : Block}
      (h : (Stmt.forIn l isAsync target iterable body orelse).StandsIn b) (hbody : HasNest k body) :
      HasNest (k + 1) b

/-! ### Depth of loops -/

theorem HasPart.loopDepthOf_le {os part : List Outline} (h : HasPart os part) :
  loopDepthOf part ≤ loopDepthOf os
  := by
  obtain ⟨before, after, rfl⟩ := h
  rw [loopDepthOf_append, loopDepthOf_append]
  omega

theorem loopDepthOf_singleton (o : Outline) :
  loopDepthOf [o] = o.loopDepth
  := by rw [loopDepthOf, loopDepthOf, Nat.max_zero]

/-- The loops of a statement are not deeper than those of a block in which it stands. -/
theorem Stmt.StandsIn.loopDepthOf_le {s : Stmt} {b : Block} (h : s.StandsIn b) :
  loopDepthOf s.outline ≤ loopDepthOf (blockOutline b)
  := by
  induction h with
  | here h => exact (hasPart_blockOutline h).loopDepthOf_le
  | @inside t b c ht hc _ ih =>
      have hb := (hasPart_blockOutline ht).loopDepthOf_le
      obtain hpart | ⟨name, inside, heq, hpart⟩ | ⟨scaling, inside, heq, hpart⟩ :=
        hasPart_of_mem_blocks hc
      · have hpart := hpart.loopDepthOf_le
        omega
      · have hpart := hpart.loopDepthOf_le
        rw [heq, loopDepthOf_singleton, Outline.loopDepth] at hb
        omega
      · have hpart := hpart.loopDepthOf_le
        rw [heq, loopDepthOf_singleton, Outline.loopDepth] at hb
        omega

/-- All loops of a nest are seen. -/
theorem HasNest.le_loopDepthOf {k : Nat} {b : Block} (h : HasNest k b) :
  k ≤ loopDepthOf (blockOutline b)
  := by
  induction h with
  | none => exact Nat.zero_le _
  | @loop k l isAsync target iterable body orelse b h _ ih =>
      have hle := h.loopDepthOf_le
      have hpart : HasPart (target.outline ++ iterable.outline ++ blockOutline body ++ blockOutline orelse)
          (blockOutline body) :=
        .of_mem_append (.inl (.of_mem_append (.inr (hasPart_self _))))
      have hbody := hpart.loopDepthOf_le
      rw [Stmt.outline, loopDepthOf_singleton, Outline.loopDepth] at hle
      omega

/-! ### The growth of a hint -/

/-- The growth that is reported for loops of some depth with some scaling ones among them, and for calls
that count, each told by whether it is slicing. -/
def reportedGrowth (depth scaling : Nat) (calls : List Bool) : Growth :=
  if calls = [] then .polylog (depth - min scaling depth) (min scaling depth)
  else if true ∈ calls then
    if 2 ≤ calls.length then .polylog 1 1 else .polylog 0 1
  else if 2 ≤ calls.length then .exponential
  else .polylog 1 0

/-- The notation of a hint is the one of the growth that is reported. -/
theorem growth_growthOf (program : Block) :
  (growthOf program).growth
    = (reportedGrowth (loopDepthOf (blockOutline program)) (scalingLoopsOf (blockOutline program))
        (countedCalls program)).text
  := by
  by_cases hcalls : countedCalls program = []
  · rw [growthOf_of_countedCalls_eq_nil hcalls, reportedGrowth, if_pos hcalls]
    rfl
  · have hany : ∀ calls : List Bool, calls.any id = decide (true ∈ calls) := by
      intro calls
      rw [Bool.eq_iff_iff, List.any_eq_true, decide_eq_true_eq]
      exact ⟨fun ⟨_, hmem, heq⟩ => heq ▸ hmem, fun hmem => ⟨true, hmem, rfl⟩⟩
    have hlength : (countedCalls program).length ≠ 0 := by rwa [Ne, List.length_eq_zero_iff]
    rw [growthOf_eq, reportedGrowth, if_neg hcalls, Sight.hint]
    rw [countedCalls] at hlength ⊢
    simp only [Sight.behind, Sight.callGrowth, Nat.zero_add, Bool.false_or, if_neg hlength, hany,
      decide_eq_true_eq]
    split
    · split <;> rfl
    · split <;> rfl

/-- Which powers a reported growth bears. -/
theorem reportedGrowth_bears_iff {depth scaling : Nat} {calls : List Bool} {k : Nat} (hk : 1 ≤ k)
    (hdepth : k ≤ depth) :
  (reportedGrowth depth scaling calls).Bears k
    ↔ (calls = [] ∧ (scaling = 0 ∨ k + scaling ≤ depth))
      ∨ (2 ≤ calls.length ∧ (true ∉ calls ∨ k = 1))
      ∨ (calls.length = 1 ∧ true ∉ calls ∧ k = 1)
  := by
  rw [reportedGrowth]
  split
  case isTrue hnil =>
    have hle : k ≤ depth - min scaling depth ↔ scaling = 0 ∨ k + scaling ≤ depth := by omega
    have hlength : calls.length = 0 := by rw [hnil, List.length_nil]
    rw [Growth.Bears, hle]
    constructor
    · exact fun h => .inl ⟨hnil, h⟩
    · rintro (⟨-, h⟩ | ⟨h, -⟩ | ⟨h, -⟩)
      · exact h
      · omega
      · omega
  case isFalse hne =>
    have hlength : calls.length ≠ 0 := by rwa [Ne, List.length_eq_zero_iff]
    have hone : k ≤ 1 ↔ k = 1 := by omega
    split
    case isTrue htrue =>
      simp only [hne, false_and, htrue, not_true_eq_false, false_or, and_false, or_false]
      split
      case isTrue htwo => rw [Growth.Bears, hone, and_iff_right htwo]
      case isFalse =>
        rw [Growth.Bears]
        omega
    case isFalse hfalse =>
      simp only [hne, false_and, hfalse, not_false_eq_true, true_or, and_true, true_and, false_or]
      split
      case isTrue htwo => exact ⟨fun _ => .inl htwo, fun _ => trivial⟩
      case isFalse =>
        rw [Growth.Bears, hone]
        omega

/-- The hint is not weaker than any nest of loops in a program exactly when, for each nest, no call
counts and its loops are more than the scaling ones take away, or the calls that count are taken for a
recursion that is at least as strong as the nest. -/
theorem growthOf_outpaces_nests_iff (program : Block) :
  (∀ k, HasNest k program → Outpaces (growthOf program).growth k)
    ↔ ∀ k, 1 ≤ k → HasNest k program →
      (countedCalls program = []
          ∧ (scalingLoopsOf (blockOutline program) = 0
            ∨ k + scalingLoopsOf (blockOutline program) ≤ loopDepthOf (blockOutline program)))
        ∨ (2 ≤ (countedCalls program).length ∧ (true ∉ countedCalls program ∨ k = 1))
        ∨ ((countedCalls program).length = 1 ∧ true ∉ countedCalls program ∧ k = 1)
  := by
  rw [growth_growthOf]
  constructor
  · intro h k hk hnest
    exact (reportedGrowth_bears_iff hk hnest.le_loopDepthOf).mp (outpaces_text_iff.mp (h k hnest))
  · intro h k hnest
    rw [outpaces_text_iff]
    rcases Nat.eq_zero_or_pos k with rfl | hk
    · apply Growth.bears_zero
    · exact (reportedGrowth_bears_iff hk hnest.le_loopDepthOf).mpr (h k hk hnest)

/-- A loop in a loop, and a function that calls itself once. -/
def nestAndDescent : Block :=
  [.forIn 1 false (.name 1 "i") (.name 1 "x") [.forIn 2 false (.name 2 "j") (.name 2 "x") [.pass 3] []] [],
    .functionDef 4 false "f" {} [.ret 5 (some (.call 5 (.name 5 "f") [] []))] [] none]

/-- The hint is not always as strong as a nest of loops: a call that is taken for a weaker recursion
stands in for the two loops. -/
theorem not_always_outpaces :
  ¬ ∀ program k, HasNest k program → Outpaces (growthOf program).growth k
  := by
  intro h
  have hinner : HasNest 1 [.forIn 2 false (.name 2 "j") (.name 2 "x") [.pass 3] []] :=
    .loop (.here List.mem_cons_self) .none
  have hnest : HasNest 2 nestAndDescent := .loop (.here List.mem_cons_self) hinner
  have hreported : reportedGrowth (loopDepthOf (blockOutline nestAndDescent))
      (scalingLoopsOf (blockOutline nestAndDescent)) (countedCalls nestAndDescent)
      = .polylog 1 0 := by decide
  have hbears := h _ _ hnest
  rw [growth_growthOf, hreported, outpaces_text_iff, Growth.Bears] at hbears
  omega

end SnippetProfiler.Indented
