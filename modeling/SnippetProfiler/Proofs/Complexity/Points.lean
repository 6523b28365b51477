import Mathlib
import SnippetProfiler.Complexity.Estimate
import SnippetProfiler.Proofs.Quantity.Float
import SnippetProfiler.Proofs.Sorting

/-!
# The points of an estimate

An estimate that rests on at least two sizes has the measurements as its points, all of them and no
others.  They are sorted by size, and those of one size stand as they were measured.
-/

namespace SnippetProfiler.GrowthEstimate

open Quantity (rank)

/-- Points are the measurements, stably sorted by size. -/
structure IsSortedBySize (points measured : List DataPoint) : Prop where
  perm : points.Perm measured
  sorted : points.Pairwise fun p q => p.size ≤ q.size
  stable : ∀ size : Float,
    points.filter (fun p => p.size == size) = measured.filter (fun p => p.size == size)

variable {points : List DataPoint}

section Sizes

variable (hsizes : ∀ p ∈ points, p.size.isNaN = false)
include hsizes

/-- Points that are sorted are the measurements, if their sizes are numbers. -/
theorem isSortedBySize_sortedBySize :
  IsSortedBySize (sortedBySize points) points
  := by
  have hplace : ∀ p ∈ points, (!p.size.isNaN) = true := by
    intro p hp
    rw [hsizes p hp]
    rfl
  have hprecedes : ∀ p ∈ points, ∀ q ∈ points,
      decide (p.size < q.size) = true ↔ rank p.size < rank q.size := by
    intro p hp q hq
    exact Quantity.lt_iff_rank (hsizes p hp) (hsizes q hq)
  have hperm : (sortedBySize points).Perm points := Sorting.sort_perm _ hplace
  constructor
  · exact hperm
  · have hsorted := Sorting.pairwise_sort (fun p : DataPoint => rank p.size) hplace hprecedes
      (List.pairwise_of_forall (R := fun _ _ => True) fun _ _ => trivial)
    apply hsorted.imp_of_mem
    intro p q hp hq h
    rw [Quantity.le_iff]
    exact ⟨hsizes p (hperm.mem_iff.mp hp), hsizes q (hperm.mem_iff.mp hq), h.1⟩
  · intro size
    apply Sorting.filter_sort (fun p : DataPoint => rank p.size) hplace hprecedes
    rw [List.pairwise_filter]
    apply List.pairwise_of_forall
    intro p q hp hq
    rw [(Quantity.beq_iff.mp hp).2.2, (Quantity.beq_iff.mp hq).2.2]

/-- Sizes that are numbers do not vary exactly when any two of them are the same. -/
theorem varies_eq_false_iff :
  varies (points.map DataPoint.size) = false ↔
    ∀ p ∈ points, ∀ q ∈ points, (p.size == q.size) = true
  := by
  cases points with
  | nil => simp [varies]
  | cons first rest =>
      rw [List.map_cons, varies, List.any_eq_false]
      constructor
      · intro hsame
        -- all sizes have the rank of the first one
        have hrank : ∀ p ∈ first :: rest, rank first.size = rank p.size := by
          intro p hp
          rcases List.mem_cons.mp hp with rfl | hp
          · rfl
          · have hbeq := hsame p.size (List.mem_map_of_mem hp)
            rw [Bool.not_eq_true, Bool.not_eq_false'] at hbeq
            exact (Quantity.beq_iff.mp hbeq).2.2
        intro p hp q hq
        rw [Quantity.beq_iff]
        exact ⟨hsizes p hp, hsizes q hq, (hrank p hp).symm.trans (hrank q hq)⟩
      · intro hsame
        rw [List.forall_mem_map]
        intro p hp
        rw [hsame first List.mem_cons_self p (List.mem_cons_of_mem _ hp)]
        decide

end Sizes

/-! ### Estimates -/

/-- What comes of two steps, when the first one succeeds and then the second one does. -/
theorem bind_eq_ok_iff {ε α β : Type} {x : Except ε α} {f : α → Except ε β} {b : β} :
  (x >>= f) = .ok b ↔ ∃ a, x = .ok a ∧ f a = .ok b
  := by
  cases x with
  | error e =>
      constructor
      · rintro ⟨⟩
      · rintro ⟨a, ⟨⟩, -⟩
  | ok a =>
      constructor
      · intro h
        exact ⟨a, rfl, h⟩
      · rintro ⟨a, ⟨⟩, h⟩
        exact h

/-- Two steps succeed when the first one does, and then the second one. -/
theorem exists_bind_iff {ε α β : Type} {x : Except ε α} {f : α → Except ε β} :
  (∃ b, (x >>= f) = .ok b) ↔ ∃ a, x = .ok a ∧ ∃ b, f a = .ok b
  := by
  simp only [bind_eq_ok_iff]
  constructor
  · rintro ⟨b, a, ha, hb⟩
    exact ⟨a, ha, b, hb⟩
  · rintro ⟨a, ha, b, hb⟩
    exact ⟨b, a, ha, hb⟩

/-- An estimate from points has these points. -/
theorem points_ofPoints {e : GrowthEstimate} (h : ofPoints points = .ok e) :
  e.points = points
  := by
  rw [ofPoints] at h
  obtain ⟨sum, -, h⟩ := bind_eq_ok_iff.mp h
  obtain ⟨total, -, h⟩ := bind_eq_ok_iff.mp h
  obtain ⟨errors, -, h⟩ := bind_eq_ok_iff.mp h
  split at h
  · cases h
  · cases h
    rfl

/-- The estimate from measurements for two sizes at least is that from the sorted points. -/
theorem estimate_eq_ofPoints (hsizes : ∀ p ∈ points, p.size.isNaN = false)
    (hvary : ∃ p ∈ points, ∃ q ∈ points, (p.size == q.size) = false) (hint : Option GrowthHint) :
  estimate points hint = ofPoints (sortedBySize points)
  := by
  have hperm := (isSortedBySize_sortedBySize hsizes).perm
  obtain ⟨p, hp, q, hq, hne⟩ := hvary
  have hvaries : varies ((sortedBySize points).map DataPoint.size) = true := by
    rw [← Bool.not_eq_false, varies_eq_false_iff fun p hp => hsizes p (hperm.mem_iff.mp hp)]
    intro hsame
    rw [hsame p (hperm.mem_iff.mpr hp) q (hperm.mem_iff.mpr hq)] at hne
    cases hne
  rw [estimate, hvaries, if_pos rfl]

/-- An estimate from measurements for two sizes at least has the measurements as its points. -/
theorem isSortedBySize_estimate (hsizes : ∀ s ∈ points.map DataPoint.size, s.isNaN = false)
    (hvary : ∃ s ∈ points.map DataPoint.size, ∃ t ∈ points.map DataPoint.size, (s == t) = false)
    {hint : Option GrowthHint} {e : GrowthEstimate} (h : estimate points hint = .ok e) :
  IsSortedBySize e.points points
  := by
  simp only [List.mem_map, exists_exists_and_eq_and, forall_exists_index, and_imp,
    forall_apply_eq_imp_iff₂] at hsizes hvary
  rw [estimate_eq_ofPoints hsizes hvary] at h
  rw [points_ofPoints h]
  exact isSortedBySize_sortedBySize hsizes

end SnippetProfiler.GrowthEstimate
