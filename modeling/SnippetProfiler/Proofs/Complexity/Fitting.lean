import Mathlib
import SnippetProfiler.Proofs.Complexity.Points
import SnippetProfiler.Proofs.Decimal.Nearest

/-!
# Which measurements have an estimate

Finite measurements for at least two sizes have an estimate exactly when the durations and each growth
class that is considered can be fitted: one class whose values are too large, or whose line of least
squares does not exist, is enough for the estimate to fail.  Nothing else fails.  The exponential
class is considered only for sizes whose powers are floats, and among the errors there is always one
that is close enough to the best one.
-/

namespace SnippetProfiler.GrowthEstimate

open Quantity (rank)

/-! ### What can be fitted -/

/-- Floats whose squares are not too large. -/
def HaveSquares (xs : List Float) : Prop := ∀ x ∈ xs, (Decimal.power? x 2).isSome

/-- How far values lie from a line. -/
def residuals (line : Line) (xs ys : List Float) : List Float :=
  List.zipWith (fun x y => y - (line.slope * x + line.intercept)) xs ys

/-- Values that can be fitted: unless they are all the same, there is a line of least squares, and
either it falls or the distances from it have squares. -/
def HasFit (xs ys : List Float) : Prop :=
  varies xs = true →
    ∃ line, regression xs ys = .ok line ∧ (line.slope < 0 ∨ HaveSquares (residuals line xs ys))

/-- The growth classes that are considered for points: all but the constant one, and the exponential
one for sizes up to a bound. -/
def Considers (points : List DataPoint) (g : GrowthClass) : Prop :=
  g ≠ .constant ∧ (g = .exponential → ∀ p ∈ points, p.size ≤ exponentialBound)

/-- Points that can be fitted: the durations have a mean, from which they are not too far; the powers
of the sizes are not too large; and the values of each class can be fitted. -/
structure IsFittable (points : List DataPoint) : Prop where
  mean : ∃ total, exactSum (points.map DataPoint.duration) = .ok total ∧
    HaveSquares ((points.map DataPoint.duration).map (· - total / count points))
  powers : ∀ p ∈ points, (Decimal.power? p.size 2).isSome ∧ (Decimal.power? p.size 3).isSome
  classes : ∀ g xs, Considers points g → valuesOf (fun p => g.value p.size) points = .ok xs →
    HasFit xs (points.map DataPoint.duration)

/-! ### Values and squares -/

section Values

variable {α : Type} {f : α → Except EstimateError Float} {items : List α}

theorem exists_valuesOf_iff :
  (∃ ys, valuesOf f items = .ok ys) ↔ ∀ a ∈ items, ∃ y, f a = .ok y
  := by
  induction items with
  | nil => exact ⟨fun _ a ha => absurd ha List.not_mem_nil, fun _ => ⟨[], rfl⟩⟩
  | cons a items ih =>
      rw [List.forall_mem_cons, ← ih, valuesOf]
      cases f a with
      | error e => simp
      | ok y =>
          cases valuesOf f items with
          | error e => simp
          | ok ys => simp

theorem exists_of_mem_valuesOf {ys : List Float} (h : valuesOf f items = .ok ys) :
  ∀ y ∈ ys, ∃ a ∈ items, f a = .ok y
  := by
  induction items generalizing ys with
  | nil =>
      cases h
      rintro y ⟨⟩
  | cons a items ih =>
      rw [valuesOf] at h
      split at h
      · cases h
      · rename_i x hx
        split at h
        · cases h
        · rename_i xs hxs
          cases h
          intro y hy
          rcases List.mem_cons.mp hy with rfl | hy
          · exact ⟨a, List.mem_cons_self, hx⟩
          · obtain ⟨b, hb, hb'⟩ := ih hxs y hy
            exact ⟨b, List.mem_cons_of_mem _ hb, hb'⟩

end Values

theorem exists_powerOf_iff {x : Float} {n : ℕ} :
  (∃ y, GrowthClass.powerOf x n = .ok y) ↔ (Decimal.power? x n).isSome
  := by
  rw [GrowthClass.powerOf]
  cases Decimal.power? x n with
  | none => simp
  | some y => simp

variable {xs ys : List Float}

theorem exists_squares_iff :
  (∃ s, squares xs = .ok s) ↔ HaveSquares xs
  := by
  have hvalues : (∃ ys, valuesOf (fun x => GrowthClass.powerOf x 2) xs = .ok ys) ↔ HaveSquares xs := by
    rw [exists_valuesOf_iff]
    simp only [exists_powerOf_iff, HaveSquares]
  rw [← hvalues, squares]
  cases valuesOf (fun x => GrowthClass.powerOf x 2) xs with
  | error e => simp
  | ok ys => simp

/-- What is not a number, or not negative. -/
def IsLoose (x : Float) : Prop := x.isNaN = true ∨ 0 ≤ x

/-- The sum of squares is not negative, unless one of them is not a number. -/
theorem plainSum_bounds (hxs : ∀ x ∈ xs, IsLoose x) :
  IsLoose (plainSum xs) ∧ ((∀ x ∈ xs, 0 ≤ x) → 0 ≤ plainSum xs)
  := by
  -- the sum from left to right goes through such sums
  have hfold : ∀ a : Float, IsLoose a → IsLoose (xs.foldl (· + ·) a) ∧
      (0 ≤ a → (∀ x ∈ xs, 0 ≤ x) → 0 ≤ xs.foldl (· + ·) a) := by
    induction xs with
    | nil => exact fun a ha => ⟨ha, fun ha' _ => ha'⟩
    | cons x xs ih =>
        intro a ha
        obtain ⟨hx, hrest⟩ := List.forall_mem_cons.mp hxs
        have hsum : 0 ≤ a → 0 ≤ x → 0 ≤ a + x := fun ha hx =>
          Quantity.le_of_le_of_le ha (Quantity.le_add ha hx)
        have hnext : IsLoose (a + x) := by
          rcases ha with ha | ha
          · exact .inl (Quantity.isNaN_add (.inl ha))
          · rcases hx with hx | hx
            · exact .inl (Quantity.isNaN_add (.inr hx))
            · exact .inr (hsum ha hx)
        obtain ⟨hloose, hnonneg⟩ := ih hrest (a + x) hnext
        refine ⟨hloose, ?_⟩
        intro ha hall
        obtain ⟨hx, hall⟩ := List.forall_mem_cons.mp hall
        exact hnonneg (hsum ha hx) hall
  have hzero : (0 : Float) ≤ 0 := by decide
  exact ⟨(hfold 0 (.inr hzero)).1, (hfold 0 (.inr hzero)).2 hzero⟩

theorem squares_bounds {s : Float} (h : squares xs = .ok s) :
  IsLoose s ∧ ((∀ x ∈ xs, x.isNaN = false) → 0 ≤ s)
  := by
  rw [squares] at h
  split at h
  · cases h
  · rename_i ys hys
    cases h
    have hsquare : ∀ y ∈ ys, ∃ x ∈ xs, x.isNaN = true ∧ y = x ∨ 0 ≤ y := by
      intro y hy
      obtain ⟨x, hx, hpower⟩ := exists_of_mem_valuesOf hys y hy
      rw [GrowthClass.powerOf] at hpower
      split at hpower
      · rename_i hpower'
        cases hpower
        exact ⟨x, hx, Decimal.nonneg_power? hpower'⟩
      · cases hpower
    have hloose : ∀ y ∈ ys, IsLoose y := by
      intro y hy
      obtain ⟨x, -, ⟨hx, rfl⟩ | hy'⟩ := hsquare y hy
      · exact .inl hx
      · exact .inr hy'
    obtain ⟨hsum, hnonneg⟩ := plainSum_bounds hloose
    refine ⟨hsum, fun hnumbers => hnonneg ?_⟩
    intro y hy
    obtain ⟨x, hx, ⟨hx', -⟩ | hy'⟩ := hsquare y hy
    · rw [hnumbers x hx] at hx'
      cases hx'
    · exact hy'

/-! ### Fits -/

/-- What a fit gives: nothing if the values are all the same or the line falls, and else the sum of the
squares of the distances. -/
theorem fit_eq (xs ys : List Float) :
  fit xs ys
    = if varies xs then
        regression xs ys >>= fun line =>
          if line.slope < 0 then .ok none else squares (residuals line xs ys) >>= fun s => .ok (some s)
      else .ok none
  := by
  rw [fit]
  cases varies xs with
  | false => rfl
  | true => rfl

theorem exists_fit_iff :
  (∃ error, fit xs ys = .ok error) ↔ HasFit xs ys
  := by
  rw [fit_eq, HasFit]
  split
  · rename_i hvaries
    rw [exists_bind_iff]
    simp only [hvaries, true_imp_iff]
    apply exists_congr
    intro line
    apply and_congr_right
    intro
    split
    · rename_i hslope
      simp [hslope]
    · rename_i hslope
      rw [exists_bind_iff, or_iff_right hslope, ← exists_squares_iff]
      simp
  · rename_i hvaries
    simp [hvaries]

theorem isLoose_of_fit {error : Float} (h : fit xs ys = .ok (some error)) :
  IsLoose error
  := by
  rw [fit_eq] at h
  split at h
  · obtain ⟨line, -, h⟩ := bind_eq_ok_iff.mp h
    split at h
    · cases h
    · obtain ⟨s, hs, h⟩ := bind_eq_ok_iff.mp h
      cases h
      exact (squares_bounds hs).1
  · cases h

variable {points : List DataPoint} {classes : List GrowthClass}

theorem exists_classErrors_iff :
  (∃ errors, classErrors points classes = .ok errors) ↔
    ∀ g ∈ classes, ∃ xs, valuesOf (fun p => g.value p.size) points = .ok xs ∧
      HasFit xs (points.map DataPoint.duration)
  := by
  induction classes with
  | nil => exact ⟨fun _ g hg => absurd hg List.not_mem_nil, fun _ => ⟨[], rfl⟩⟩
  | cons g classes ih =>
      rw [List.forall_mem_cons, ← ih, classErrors, exists_bind_iff]
      simp only [exists_bind_iff, ← exists_fit_iff]
      constructor
      · rintro ⟨xs, hxs, error, herror, errors, herrors, -⟩
        exact ⟨⟨xs, hxs, error, herror⟩, errors, herrors⟩
      · rintro ⟨⟨xs, hxs, error, herror⟩, errors, herrors⟩
        exact ⟨xs, hxs, error, herror, errors, herrors, _, rfl⟩

theorem isLoose_of_mem_classErrors {errors : List (GrowthClass × Float)}
    (h : classErrors points classes = .ok errors) :
  ∀ e ∈ errors, IsLoose e.2
  := by
  induction classes generalizing errors with
  | nil =>
      cases h
      rintro e ⟨⟩
  | cons g classes ih =>
      obtain ⟨xs, -, h⟩ := bind_eq_ok_iff.mp h
      obtain ⟨error, hfit, h⟩ := bind_eq_ok_iff.mp h
      obtain ⟨others, hothers, h⟩ := bind_eq_ok_iff.mp h
      cases h
      intro e he
      rcases List.mem_append.mp he with he | he
      · cases error with
        | none => cases he
        | some error =>
            rw [Option.map_some, Option.toList_some, List.mem_singleton] at he
            rw [he]
            exact isLoose_of_fit hfit
      · exact ih hothers e he

/-! ### The chosen class -/

/-- The least of some floats is one of them, and not negative when the first one is not. -/
theorem least_bounds {first : Float} (hfirst : 0 ≤ first) (hxs : ∀ x ∈ xs, IsLoose x) :
  least first xs ∈ first :: xs ∧ 0 ≤ least first xs
  := by
  induction xs generalizing first with
  | nil => exact ⟨List.mem_cons_self, hfirst⟩
  | cons x xs ih =>
      obtain ⟨hx, hrest⟩ := List.forall_mem_cons.mp hxs
      have hstep : least first (x :: xs) = least (if x < first then x else first) xs := rfl
      rw [hstep]
      split
      · rename_i hless
        -- what is less than a number is one
        have hnumber := (Quantity.isNaN_of_lt (x := x) (y := first) (decide_eq_true hless)).1
        have hpos : 0 ≤ x := hx.resolve_left (by rw [hnumber]; exact Bool.false_ne_true)
        obtain ⟨hmem, hnonneg⟩ := ih hpos hrest
        exact ⟨List.mem_cons_of_mem _ hmem, hnonneg⟩
      · obtain ⟨hmem, hnonneg⟩ := ih hfirst hrest
        refine ⟨?_, hnonneg⟩
        rcases List.mem_cons.mp hmem with heq | hmem
        · rw [heq]
          exact List.mem_cons_self
        · exact List.mem_cons_of_mem _ (List.mem_cons_of_mem _ hmem)

/-- An error that is not negative is close to itself. -/
theorem le_tolerance {x : Float} (hx : 0 ≤ x) :
  x ≤ x * tolerance + negligible
  := by
  have htolerance : tolerance.toModel.unpack = .finite .positive 4728779608739021 (-52) (by decide) := rfl
  have hproduct : x ≤ x * tolerance := Quantity.le_mul hx htolerance (by decide) (by decide)
  have hnegligible : (0 : Float) ≤ negligible := by decide
  exact Quantity.le_of_le_of_le hproduct
    (Quantity.le_add (Quantity.le_of_le_of_le hx hproduct) hnegligible)

/-- There is always a class whose error is close to the best one. -/
theorem exists_choose {flat : Float} (hflat : 0 ≤ flat) {errors : List (GrowthClass × Float)}
    (herrors : ∀ e ∈ errors, IsLoose e.2) :
  ∃ chosen, choose flat errors = some chosen
  := by
  have hloose : ∀ x ∈ errors.map Prod.snd, IsLoose x := List.forall_mem_map.mpr herrors
  obtain ⟨hmem, hnonneg⟩ := least_bounds hflat hloose
  have hbest : least flat (errors.map Prod.snd) ∈ ((.constant, flat) :: errors).map Prod.snd := hmem
  obtain ⟨⟨g, error⟩, he, heq⟩ := List.mem_map.mp hbest
  rw [← Option.isSome_iff_exists, choose, List.find?_isSome]
  refine ⟨(g, error), he, decide_eq_true ?_⟩
  rw [← heq] at hnonneg ⊢
  exact le_tolerance hnonneg

/-! ### The classes that are considered -/

/-- The greatest of some numbers is no more than a bound exactly when all of them are. -/
theorem greatest_le_iff {first : Float} (hfirst : first.isNaN = false)
    (hxs : ∀ x ∈ xs, x.isNaN = false) {bound : Float} :
  greatest first xs ≤ bound ↔ first ≤ bound ∧ ∀ x ∈ xs, x ≤ bound
  := by
  induction xs generalizing first with
  | nil => simp [greatest]
  | cons x xs ih =>
      obtain ⟨hx, hrest⟩ := List.forall_mem_cons.mp hxs
      have hstep : greatest first (x :: xs) = greatest (if x > first then x else first) xs := rfl
      rw [hstep, List.forall_mem_cons]
      split
      · rename_i hgreater
        rw [ih hx hrest]
        constructor
        · rintro ⟨hle, hall⟩
          exact ⟨Quantity.le_of_le_of_le (Quantity.le_of_lt hgreater) hle, hle, hall⟩
        · rintro ⟨-, hle, hall⟩
          exact ⟨hle, hall⟩
      · rename_i hsmall
        rw [ih hfirst hrest]
        constructor
        · rintro ⟨hle, hall⟩
          have hx' := (Quantity.not_lt_iff_le hfirst hx).mp hsmall
          exact ⟨hle, Quantity.le_of_le_of_le hx' hle, hall⟩
        · rintro ⟨hle, -, hall⟩
          exact ⟨hle, hall⟩

theorem isNaN_greatest {first : Float} (hfirst : first.isNaN = false)
    (hxs : ∀ x ∈ xs, x.isNaN = false) :
  (greatest first xs).isNaN = false
  := by
  induction xs generalizing first with
  | nil => exact hfirst
  | cons x xs ih =>
      obtain ⟨hx, hrest⟩ := List.forall_mem_cons.mp hxs
      have hstep : greatest first (x :: xs) = greatest (if x > first then x else first) xs := rfl
      rw [hstep]
      split
      · exact ih hx hrest
      · exact ih hfirst hrest

/-- The greatest size of points. -/
def largest (points : List DataPoint) : Float :=
  match points.map DataPoint.size with
  | [] => 0
  | x :: xs => greatest x xs

/-- The classes that are fitted are those that are considered. -/
theorem mem_fitted_iff (hsizes : ∀ p ∈ points, p.size.isNaN = false) (hpoints : points ≠ [])
    (g : GrowthClass) :
  g ∈ fitted (largest points) ↔ Considers points g
  := by
  have hbound : ¬ largest points > exponentialBound ↔ ∀ p ∈ points, p.size ≤ exponentialBound := by
    cases points with
    | nil => cases hpoints rfl
    | cons first rest =>
        obtain ⟨hfirst, hrest⟩ := List.forall_mem_cons.mp hsizes
        have hnumbers : ∀ x ∈ rest.map DataPoint.size, x.isNaN = false := List.forall_mem_map.mpr hrest
        have hgreatest : _ ≤ exponentialBound ↔ _ := greatest_le_iff hfirst hnumbers
        rw [List.forall_mem_cons, ← List.forall_mem_map (P := (· ≤ exponentialBound)), ← hgreatest]
        exact Quantity.not_lt_iff_le (by decide) (isNaN_greatest hfirst hnumbers)
  have htail : g ∈ GrowthClass.all.tail ↔ g ≠ .constant := by
    cases g with
    | _ => decide
  rw [fitted, List.mem_filter, htail, Considers, ← hbound]
  simp [imp_iff_not_or]

/-- A class that is considered has values at sizes whose powers are not too large. -/
theorem exists_value {g : GrowthClass} {n : Float} (hg : g = .exponential → n ≤ exponentialBound)
    (hsquare : (Decimal.power? n 2).isSome) (hcube : (Decimal.power? n 3).isSome) :
  ∃ y, g.value n = .ok y
  := by
  cases g with
  | constant => exact ⟨_, rfl⟩
  | logarithmic => exact ⟨_, rfl⟩
  | linear => exact ⟨_, rfl⟩
  | linearithmic => exact ⟨_, rfl⟩
  | quadratic => exact exists_powerOf_iff.mpr hsquare
  | cubic => exact exists_powerOf_iff.mpr hcube
  | exponential =>
      have hsmall : ¬ n ≥ 1024 := by
        intro hlarge
        have hle : (1024 : Float) ≤ exponentialBound := Quantity.le_of_le_of_le hlarge (hg rfl)
        revert hle
        decide
      rw [GrowthClass.value, if_neg fun h => hsmall (by simpa using (Bool.and_eq_true_iff.mp h).2)]
      exact ⟨_, rfl⟩

/-! ### Estimates -/

/-- The classes of points that can be fitted have errors. -/
theorem IsFittable.exists_classErrors (h : IsFittable points)
    (hsizes : ∀ p ∈ points, p.size.isNaN = false) (hpoints : points ≠ []) :
  ∃ errors, classErrors points (fitted (largest points)) = .ok errors
  := by
  rw [exists_classErrors_iff]
  intro g hg
  have hconsidered := (mem_fitted_iff hsizes hpoints g).mp hg
  obtain ⟨xs, hxs⟩ := exists_valuesOf_iff.mpr fun p hp =>
    exists_value (fun hg => hconsidered.2 hg p hp) (h.powers p hp).1 (h.powers p hp).2
  exact ⟨xs, hxs, h.classes g xs hconsidered hxs⟩

/-- Points that have an estimate can be fitted. -/
theorem isFittable_of_ofPoints (hsizes : ∀ p ∈ points, p.size.isNaN = false) (hpoints : points ≠ [])
    {e : GrowthEstimate} (h : ofPoints points = .ok e) :
  IsFittable points
  := by
  rw [ofPoints] at h
  obtain ⟨sum, hsum, h⟩ := bind_eq_ok_iff.mp h
  obtain ⟨total, htotal, h⟩ := bind_eq_ok_iff.mp h
  obtain ⟨errors, herrors, -⟩ := bind_eq_ok_iff.mp h
  have hclasses : ∀ g, Considers points g → ∃ xs,
      valuesOf (fun p => g.value p.size) points = .ok xs ∧
        HasFit xs (points.map DataPoint.duration) := fun g hg =>
    exists_classErrors_iff.mp ⟨errors, herrors⟩ g ((mem_fitted_iff hsizes hpoints g).mpr hg)
  have hvalues : ∀ g, Considers points g → ∀ p ∈ points, ∃ y, g.value p.size = .ok y := by
    intro g hg
    obtain ⟨xs, hxs, -⟩ := hclasses g hg
    exact exists_valuesOf_iff.mp ⟨xs, hxs⟩
  constructor
  case mean => exact ⟨sum, hsum, exists_squares_iff.mp ⟨total, htotal⟩⟩
  case powers =>
    intro p hp
    constructor
    · exact exists_powerOf_iff.mp (hvalues .quadratic ⟨by decide, by rintro ⟨⟩⟩ p hp)
    · exact exists_powerOf_iff.mp (hvalues .cubic ⟨by decide, by rintro ⟨⟩⟩ p hp)
  case classes =>
    intro g xs hg hxs
    obtain ⟨xs', hxs', hfit⟩ := hclasses g hg
    cases hxs.symm.trans hxs'
    exact hfit

section Durations

variable (hdurations : ∀ y ∈ points.map DataPoint.duration, y.isFinite = true) (hpoints : points ≠ [])
include hdurations hpoints

/-- The distances of finite durations from their mean are numbers. -/
theorem isNaN_deviation {total : Float} (h : exactSum (points.map DataPoint.duration) = .ok total) :
  ∀ y ∈ (points.map DataPoint.duration).map (· - total / count points), y.isNaN = false
  := by
  have hcount := Decimal.ofInt_ne_zero (n := points.length) (by simpa using hpoints)
  have htotal : total.isFinite = true := by
    rw [exactSum] at h
    split at h
    · rename_i hsum
      cases h
      exact Decimal.isFinite_sum hdurations hsum
    · cases h
  rw [List.forall_mem_map]
  intro y hy
  apply Quantity.isNaN_finite_sub (hdurations y hy)
  exact Quantity.isNaN_finite_div htotal hcount.1 hcount.2

/-- Points that can be fitted have an estimate: among the errors of their classes there is one that is
close to the best. -/
theorem exists_ofPoints (hsizes : ∀ p ∈ points, p.size.isNaN = false) (h : IsFittable points) :
  ∃ e, ofPoints points = .ok e
  := by
  obtain ⟨sum, hsum, hdeviations⟩ := h.mean
  obtain ⟨total, htotal⟩ := exists_squares_iff.mpr hdeviations
  obtain ⟨errors, herrors⟩ := h.exists_classErrors hsizes hpoints
  obtain ⟨chosen, hchosen⟩ := exists_choose
    ((squares_bounds htotal).2 (isNaN_deviation hdurations hpoints hsum))
    (isLoose_of_mem_classErrors herrors)
  refine exists_bind_iff.mpr ⟨sum, hsum, exists_bind_iff.mpr ⟨total, htotal,
    exists_bind_iff.mpr ⟨errors, herrors, ?_⟩⟩⟩
  rw [hchosen]
  exact ⟨_, rfl⟩

end Durations

/-- Finite measurements for two sizes at least have an estimate exactly when they can be fitted. -/
theorem exists_estimate_iff_of_ne
    (hfinite : ∀ p ∈ points, p.size.isFinite = true ∧ p.duration.isFinite = true)
    (hvary : ∃ p ∈ points, ∃ q ∈ points, (p.size == q.size) = false) (hint : Option GrowthHint) :
  (∃ e, estimate points hint = .ok e) ↔ IsFittable (sortedBySize points)
  := by
  have hsizes : ∀ p ∈ points, p.size.isNaN = false :=
    fun p hp => Quantity.isNaN_of_isFinite (hfinite p hp).1
  have hmem : ∀ p, p ∈ sortedBySize points ↔ p ∈ points :=
    fun p => (isSortedBySize_sortedBySize hsizes).perm.mem_iff
  have hsizes' : ∀ p ∈ sortedBySize points, p.size.isNaN = false :=
    fun p hp => hsizes p ((hmem p).mp hp)
  have hdurations : ∀ y ∈ (sortedBySize points).map DataPoint.duration, y.isFinite = true :=
    List.forall_mem_map.mpr fun p hp => (hfinite p ((hmem p).mp hp)).2
  have hpoints : sortedBySize points ≠ [] := by
    obtain ⟨p, hp, -⟩ := hvary
    exact List.ne_nil_of_mem ((hmem p).mpr hp)
  rw [estimate_eq_ofPoints hsizes hvary]
  constructor
  · rintro ⟨e, h⟩
    exact isFittable_of_ofPoints hsizes' hpoints h
  · exact exists_ofPoints hdurations hpoints hsizes'

/-- Finite measurements have an estimate exactly when their sizes are all the same or they can be fitted,
whatever the hint. -/
theorem exists_estimate_iff
    (hfinite : ∀ p ∈ points, p.size.isFinite = true ∧ p.duration.isFinite = true)
    (hint : Option GrowthHint) :
  (∃ e, estimate points hint = .ok e) ↔
    (∀ p ∈ points, ∀ q ∈ points, (p.size == q.size) = true) ∨ IsFittable (sortedBySize points)
  := by
  by_cases hsame : ∀ p ∈ points, ∀ q ∈ points, (p.size == q.size) = true
  · have hsizes : ∀ p ∈ points, p.size.isNaN = false :=
      fun p hp => Quantity.isNaN_of_isFinite (hfinite p hp).1
    have hperm := (isSortedBySize_sortedBySize hsizes).perm
    have hvaries := (varies_eq_false_iff fun p hp => hsizes p (hperm.mem_iff.mp hp)).mpr
      fun p hp q hq => hsame p (hperm.mem_iff.mp hp) q (hperm.mem_iff.mp hq)
    rw [estimate, hvaries]
    exact ⟨fun _ => .inl hsame, fun _ => ⟨_, rfl⟩⟩
  · have hvary : ∃ p ∈ points, ∃ q ∈ points, (p.size == q.size) = false := by
      simpa using hsame
    rw [exists_estimate_iff_of_ne hfinite hvary, or_iff_right hsame]

/-! ### Two measurements -/

/-- Measurements of the same duration, for no input and for one of some size. -/
def pair (size : Float) : List DataPoint := [⟨0, 1⟩, ⟨size, 1⟩]

variable {size : Float}

theorem isFinite_pair (h : size.isFinite = true) :
  ∀ p ∈ pair size, p.size.isFinite = true ∧ p.duration.isFinite = true
  := by
  have hone : (1 : Float).isFinite = true := by decide
  rw [pair, List.forall_mem_cons, List.forall_mem_singleton]
  exact ⟨by decide, h, hone⟩

theorem sortedBySize_pair (h : 0 ≤ size) :
  sortedBySize (pair size) = pair size
  := by
  obtain ⟨hzero, hsize, -⟩ := Quantity.le_iff.mp h
  apply Sorting.sort_eq_self
  · rw [pair, List.forall_mem_cons, List.forall_mem_singleton, hzero, hsize]
    exact ⟨rfl, rfl⟩
  · rw [pair, List.pairwise_pair, decide_eq_false_iff_not]
    exact (Quantity.not_lt_iff_le hsize hzero).mpr h

/-- A size close to zero.  The squares of the distances from the mean are zero, so that there is no line
of least squares. -/
def tinySize : Float := .ofBits 0x16687e92154ef7ac

theorem not_exists_estimate_tiny :
  (∀ p ∈ pair tinySize, p.size.isFinite = true ∧ p.duration.isFinite = true) ∧
    ¬ ∃ e, estimate (pair tinySize) none = .ok e
  := by
  have hsize : tinySize.isFinite = true := by decide
  have hfinite := isFinite_pair hsize
  refine ⟨hfinite, ?_⟩
  rw [exists_estimate_iff hfinite]
  rintro (hsame | hfit)
  · have hbeq := hsame ⟨0, 1⟩ List.mem_cons_self ⟨tinySize, 1⟩ (List.mem_cons_of_mem _ List.mem_cons_self)
    revert hbeq
    decide
  · rw [sortedBySize_pair (by decide)] at hfit
    obtain ⟨line, hline, -⟩ := hfit.classes .linear [0, tinySize] ⟨by decide, by rintro ⟨⟩⟩ rfl rfl
    have hnone : (regression [0, tinySize] [1, 1]).toOption.isSome = false := by decide +kernel
    rw [show regression [0, tinySize] [1, 1] = .ok line from hline] at hnone
    cases hnone

/-- A size whose third power is too large. -/
def hugeSize : Float := .ofBits 0x5551dbf316b346e8

/-- Finite measurements do not always have an estimate. -/
theorem not_always_exists_estimate :
  ¬ ∀ (points : List DataPoint) (hint : Option GrowthHint),
    (∀ p ∈ points, p.size.isFinite = true ∧ p.duration.isFinite = true) →
    ∃ e, estimate points hint = .ok e
  := by
  intro h
  have hsize : hugeSize.isFinite = true := by decide
  have hfinite := isFinite_pair hsize
  have hvary : ∃ p ∈ pair hugeSize, ∃ q ∈ pair hugeSize, (p.size == q.size) = false :=
    ⟨_, List.mem_cons_self, _, List.mem_cons_of_mem _ List.mem_cons_self, by decide⟩
  have hfit := (exists_estimate_iff_of_ne hfinite hvary none).mp (h _ none hfinite)
  rw [sortedBySize_pair (by decide)] at hfit
  have hcube := (hfit.powers ⟨hugeSize, 1⟩ (List.mem_cons_of_mem _ List.mem_cons_self)).2
  revert hcube
  decide +kernel

end SnippetProfiler.GrowthEstimate
