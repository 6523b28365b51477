import Mathlib
import SnippetProfiler.Metrics.Basic

/-!
# What tallies add up to

The tallies of some entries have the keys of the entries, each of them once, in the order in which
they first come.  Over every class of keys, the tallies add up to what the entries add up to: to
their number, and to the sum of their quantities if quantities are exact.
-/

namespace SnippetProfiler

/-! ### First occurrences -/

section FirstOccurrences

variable {α : Type} [DecidableEq α]

/-- The first occurrences of some names and one more. -/
theorem eraseDups_concat (names : List α) (name : α) :
  (names ++ [name]).eraseDups
    = if name ∈ names then names.eraseDups else names.eraseDups ++ [name]
  := by
  rw [List.eraseDups_append]
  by_cases h : name ∈ names
  · rw [if_pos h]
    simp [List.removeAll, h]
  · rw [if_neg h]
    simp [List.removeAll, h, List.eraseDups_cons]

theorem nodup_eraseDups (names : List α) :
  names.eraseDups.Nodup
  := by
  induction names using List.reverseRecOn with
  | nil => apply List.nodup_nil
  | append_singleton names name ih =>
      rw [eraseDups_concat]
      split
      · exact ih
      · rename_i h
        apply ih.append (List.nodup_singleton name)
        rw [List.disjoint_singleton, List.mem_eraseDups]
        exact h

end FirstOccurrences

namespace Tally

variable {κ τ M : Type}

section Keys

variable [DecidableEq κ] [Quantity τ]

/-- The tallies of some entries and one more. -/
theorem ofEntries_concat (entries : List (κ × τ)) (e : κ × τ) :
  ofEntries (entries ++ [e]) = add (ofEntries entries) e.1 e.2
  := by
  rw [ofEntries, List.foldl_append]
  rfl

/-! ### Keys -/

/-- An entry puts its key behind the others, unless it is there. -/
theorem keys_add (tallies : List (Tally κ τ)) (k : κ) (x : τ) :
  (add tallies k x).map key
    = if k ∈ tallies.map key then tallies.map key else tallies.map key ++ [k]
  := by
  induction tallies with
  | nil => rfl
  | cons t rest ih =>
      rw [add, List.map_cons]
      by_cases h : t.key = k
      · rw [if_pos h, if_pos (List.mem_cons.mpr (.inl h.symm)), ← h, List.map_cons]
      · have hmem : k ∈ t.key :: rest.map key ↔ k ∈ rest.map key := by
          rw [List.mem_cons, or_iff_right (Ne.symm h)]
        rw [if_neg h, List.map_cons, ih]
        by_cases hrest : k ∈ rest.map key
        · rw [if_pos hrest, if_pos (hmem.mpr hrest)]
        · rw [if_neg hrest, if_neg (hmem.not.mpr hrest), List.cons_append]

/-- The keys of tallies are those of the entries, in the order in which they first come. -/
theorem keys_ofEntries (entries : List (κ × τ)) :
  (ofEntries entries).map key = (entries.map Prod.fst).eraseDups
  := by
  induction entries using List.reverseRecOn with
  | nil => rfl
  | append_singleton entries e ih =>
      rw [ofEntries_concat, keys_add, ih, List.map_append, List.map_singleton, eraseDups_concat]
      simp only [List.mem_eraseDups]

theorem mem_keys (entries : List (κ × τ)) (k : κ) :
  k ∈ (ofEntries entries).map key ↔ k ∈ entries.map Prod.fst
  := by
  rw [keys_ofEntries, List.mem_eraseDups]

theorem nodup_keys (entries : List (κ × τ)) :
  ((ofEntries entries).map key).Nodup
  := by
  rw [keys_ofEntries]
  apply nodup_eraseDups

end Keys

/-! ### Sums -/

variable [AddCommMonoid M] {measure : Tally κ τ → M} {value : τ → M}

/-- The sum of a measure of tallies over the keys in the class `p`. -/
def sumOver (measure : Tally κ τ → M) (p : κ → Bool) (tallies : List (Tally κ τ)) : M :=
  ((tallies.filter fun t => p t.key).map measure).sum

/-- A measure of tallies that grows with each entry by the value of its quantity. -/
structure GrowsBy [Quantity τ] (measure : Tally κ τ → M) (value : τ → M) : Prop where
  first (k : κ) (x : τ) : measure ⟨k, 1, Quantity.add Quantity.zero x⟩ = value x
  more (t : Tally κ τ) (x : τ) :
    measure ⟨t.key, t.count + 1, Quantity.add t.total x⟩ = measure t + value x

/-- The number of entries grows by one with each entry. -/
theorem growsBy_count [Quantity τ] :
  GrowsBy (fun t : Tally κ τ => (t.count : ℤ)) fun _ => 1
  where
  first _ _ := rfl
  more _ _ := rfl

/-- An exact total grows with each entry by its quantity. -/
theorem growsBy_total :
  GrowsBy (fun t : Tally κ ℚ => t.total) fun x => x
  where
  first _ x := zero_add x
  more _ _ := rfl

/-- Of tallies with different keys, one makes up the sum over its key. -/
theorem sumOver_key [DecidableEq κ] (measure : Tally κ τ → M) {tallies : List (Tally κ τ)}
    (h : (tallies.map key).Nodup) {t : Tally κ τ} (ht : t ∈ tallies) :
  sumOver measure (fun k => k = t.key) tallies = measure t
  := by
  obtain ⟨before, after, rfl⟩ := List.append_of_mem ht
  rw [List.map_append, List.map_cons, List.nodup_append, List.nodup_cons] at h
  obtain ⟨-, ⟨hafter, -⟩, hbefore⟩ := h
  have hnone : ∀ u ∈ before, u.key ≠ t.key := fun u hu =>
    hbefore _ (List.mem_map_of_mem hu) _ List.mem_cons_self
  have hnone' : ∀ u ∈ after, u.key ≠ t.key := by
    intro u hu hkey
    apply hafter
    rw [← hkey]
    apply List.mem_map_of_mem hu
  have hfilter : (before ++ t :: after).filter (fun u => u.key = t.key) = [t] := by
    rw [List.filter_append, List.filter_cons_of_pos (by simp),
      List.filter_eq_nil_iff.mpr (by simpa using hnone),
      List.filter_eq_nil_iff.mpr (by simpa using hnone'), List.nil_append]
  rw [sumOver, hfilter, List.map_singleton, List.sum_singleton]

variable [DecidableEq κ] [Quantity τ]

/-- An entry adds its value to the sums over the classes that have its key. -/
theorem GrowsBy.sumOver_add (h : GrowsBy measure value) (p : κ → Bool)
    (tallies : List (Tally κ τ)) (k : κ) (x : τ) :
  sumOver measure p (add tallies k x)
    = sumOver measure p tallies + if p k then value x else 0
  := by
  induction tallies with
  | nil =>
      rw [add]
      cases hp : p k with
      | true => simp [sumOver, hp, h.first]
      | false => simp [sumOver, hp]
  | cons t rest ih =>
      rw [add]
      rw [sumOver, sumOver] at ih
      by_cases hkey : t.key = k
      · subst hkey
        rw [if_pos rfl]
        cases hp : p t.key with
        | true => simp [sumOver, hp, h.more, add_right_comm]
        | false => simp [sumOver, hp]
      · rw [if_neg hkey]
        cases hp : p t.key with
        | true => simp [sumOver, hp, ih, add_assoc]
        | false => simp [sumOver, hp, ih]

/-- The tallies of entries add up to the values of the entries. -/
theorem GrowsBy.sumOver_ofEntries (h : GrowsBy measure value) (p : κ → Bool)
    (entries : List (κ × τ)) :
  sumOver measure p (ofEntries entries)
    = ((entries.filter fun e => p e.1).map fun e => value e.2).sum
  := by
  induction entries using List.reverseRecOn with
  | nil => rfl
  | append_singleton entries e ih =>
      rw [ofEntries_concat, h.sumOver_add, ih, List.filter_append, List.map_append, List.sum_append]
      cases hp : p e.1 with
      | true => simp [hp]
      | false => simp [hp]

/-- The measure of a tally is the sum of the values of the entries under its key. -/
theorem GrowsBy.eq_sum (h : GrowsBy measure value) {entries : List (κ × τ)} {t : Tally κ τ}
    (ht : t ∈ ofEntries entries) :
  measure t = ((entries.filter fun e => e.1 = t.key).map fun e => value e.2).sum
  := by
  rw [← sumOver_key measure (nodup_keys entries) ht, h.sumOver_ofEntries]

end Tally

end SnippetProfiler
