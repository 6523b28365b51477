import Mathlib
import SnippetProfiler.Sorting

/-!
# Sorting is stable

When the items of a list have ranks in a linear order, and one precedes another exactly when
its rank is less, the list is sorted by rank, and items that stand in the order of their ranks
keep that order.  Items of one rank stand in the sorted list as they do in the list.
-/

namespace SnippetProfiler.Sorting

variable {α ρ : Type} [LinearOrder ρ] {precedes : α → α → Bool} {hasPlace : α → Bool}
  (rank : α → ρ) {items : List α}

theorem decide_rank_le_trans (a b c : α) (hab : decide (rank a ≤ rank b) = true)
    (hbc : decide (rank b ≤ rank c) = true) :
  decide (rank a ≤ rank c) = true
  := by
  rw [decide_eq_true_eq] at *
  apply le_trans hab hbc

theorem decide_rank_le_total (a b : α) :
  (decide (rank a ≤ rank b) || decide (rank b ≤ rank a)) = true
  := by
  rw [Bool.or_eq_true, decide_eq_true_eq, decide_eq_true_eq]
  apply le_total

/-- A list whose items have ranks is sorted by rank. -/
theorem sort_eq_mergeSort (hp : ∀ a ∈ items, hasPlace a = true)
    (hr : ∀ a ∈ items, ∀ b ∈ items, precedes a b = true ↔ rank a < rank b) :
  sort precedes hasPlace items = items.mergeSort fun a b => rank a ≤ rank b
  := by
  rw [sort, if_pos (List.all_eq_true.mpr hp)]
  have hle : ∀ a ∈ items, ∀ b ∈ items, (!precedes b a) = decide (rank (id a) ≤ rank (id b)) := by
    intro a ha b hb
    rw [Bool.eq_iff_iff, Bool.not_eq_true', decide_eq_true_eq, ← Bool.not_eq_true, hr b hb a ha]
    exact not_lt
  have h := List.map_mergeSort (s := fun a b => decide (rank a ≤ rank b)) (f := id) hle
  rwa [List.map_id, List.map_id] at h

/-- The items of a sorted list are those of the list. -/
theorem sort_perm (precedes : α → α → Bool) (hp : ∀ a ∈ items, hasPlace a = true) :
  (sort precedes hasPlace items).Perm items
  := by
  rw [sort, if_pos (List.all_eq_true.mpr hp)]
  apply List.mergeSort_perm

/-- A list of which no item precedes one in front of it is sorted already. -/
theorem sort_eq_self (hp : ∀ a ∈ items, hasPlace a = true)
    (h : items.Pairwise fun a b => precedes b a = false) :
  sort precedes hasPlace items = items
  := by
  rw [sort, if_pos (List.all_eq_true.mpr hp)]
  apply List.mergeSort_of_pairwise
  simpa using h

/-- Sorting by what items are taken to takes the items along. -/
theorem sort_map {β : Type} (f : β → α) {xs : List β} (hp : ∀ x ∈ xs, hasPlace (f x) = true) :
  sort precedes hasPlace (xs.map f)
    = (sort (fun x y => precedes (f x) (f y)) (fun x => hasPlace (f x)) xs).map f
  := by
  rw [sort, if_pos (List.all_eq_true.mpr (by simpa using hp)), sort,
    if_pos (List.all_eq_true.mpr hp), List.map_mergeSort]
  exact fun _ _ _ _ => rfl

/-- Items of one sort that stand in the order of their ranks keep their order. -/
theorem filter_sort (hp : ∀ a ∈ items, hasPlace a = true)
    (hr : ∀ a ∈ items, ∀ b ∈ items, precedes a b = true ↔ rank a < rank b) (p : α → Bool)
    (h : (items.filter p).Pairwise fun a b => rank a ≤ rank b) :
  (sort precedes hasPlace items).filter p = items.filter p
  := by
  have hsub : (items.filter p).Sublist (sort precedes hasPlace items) := by
    rw [sort_eq_mergeSort rank hp hr]
    apply List.sublist_mergeSort (decide_rank_le_trans rank) (decide_rank_le_total rank)
    · simpa using h
    · apply List.filter_sublist
  have hkept := hsub.filter p
  rw [List.filter_filter] at hkept
  simp only [Bool.and_self] at hkept
  have hlength := ((sort_perm precedes hp).filter p).length_eq
  exact (hkept.eq_of_length hlength.symm).symm

/-! ### Items of one rank -/

/-- Items that a merge sort may put in either order keep the relations in which they stand. -/
theorem pairwise_mergeSort_of_pairwise {le : α → α → Bool}
    (trans : ∀ a b c, le a b = true → le b c = true → le a c = true)
    (total : ∀ a b, (le a b || le b a) = true) {r : α → α → Prop} (h : items.Pairwise r) :
  (items.mergeSort le).Pairwise fun a b => le a b = true ∧ (le b a = true → r a b)
  := by
  have hsorted := List.pairwise_mergeSort (List.zipIdxLE_trans trans) (List.zipIdxLE_total total)
    items.zipIdx
  have hplaces : (items.zipIdx.mergeSort (List.zipIdxLE le)).Pairwise fun a b => a.2 ≠ b.2 := by
    have hnodup : (items.zipIdx.map Prod.snd).Nodup := by
      rw [List.zipIdx_map_snd]
      exact List.nodup_range'
    apply List.pairwise_map.mp
    exact (((List.mergeSort_perm _ _).map Prod.snd).nodup_iff).mpr hnodup
  rw [← List.mergeSort_zipIdx, List.pairwise_map]
  apply (hsorted.and hplaces).imp_of_mem
  rintro ⟨a, i⟩ ⟨b, j⟩ ha hb ⟨hab, hne⟩
  rw [List.mem_mergeSort, List.mem_zipIdx_iff_getElem?, List.getElem?_eq_some_iff] at ha hb
  obtain ⟨hi, ha⟩ := ha
  obtain ⟨hj, hb⟩ := hb
  rw [List.zipIdxLE] at hab
  split at hab
  · rename_i hle
    refine ⟨hle, ?_⟩
    intro hge
    rw [if_pos hge, decide_eq_true_eq] at hab
    rw [← ha, ← hb]
    exact List.pairwise_iff_getElem.mp h i j hi hj (lt_of_le_of_ne hab hne)
  · cases hab

/-- A sorted list is in the order of ranks, and items of one rank stand as they did. -/
theorem pairwise_sort (hp : ∀ a ∈ items, hasPlace a = true)
    (hr : ∀ a ∈ items, ∀ b ∈ items, precedes a b = true ↔ rank a < rank b) {r : α → α → Prop}
    (h : items.Pairwise r) :
  (sort precedes hasPlace items).Pairwise fun a b =>
    rank a ≤ rank b ∧ (rank b ≤ rank a → r a b)
  := by
  have hsorted := pairwise_mergeSort_of_pairwise (decide_rank_le_trans rank)
    (decide_rank_le_total rank) h
  rw [sort_eq_mergeSort rank hp hr]
  simpa only [decide_eq_true_eq] using hsorted

/-- A list all of whose items have a place is sorted in descending order by sorting it the other way
round. -/
theorem sortDown_eq_sort (hp : ∀ a ∈ items, hasPlace a = true) :
  sortDown precedes hasPlace items = sort (fun a b => precedes b a) hasPlace items
  := by
  have hall := List.all_eq_true.mpr hp
  rw [sortDown, sort, if_pos hall, if_pos hall]

/-- A list that is sorted in descending order is in that order of ranks, and items of one rank stand as
they did. -/
theorem pairwise_sortDown (hp : ∀ a ∈ items, hasPlace a = true)
    (hr : ∀ a ∈ items, ∀ b ∈ items, precedes a b = true ↔ rank a < rank b) {r : α → α → Prop}
    (h : items.Pairwise r) :
  (sortDown precedes hasPlace items).Pairwise fun a b =>
    rank b ≤ rank a ∧ (rank a ≤ rank b → r a b)
  := by
  rw [sortDown_eq_sort hp]
  exact pairwise_sort (fun a => OrderDual.toDual (rank a)) hp
    (fun a ha b hb => hr b hb a ha) h

end SnippetProfiler.Sorting
