import Mathlib
import SnippetProfiler.Metrics.Basic
import SnippetProfiler.Proofs.Metrics.Tally
import SnippetProfiler.Proofs.Sorting

/-!
# The heatmap of lines

The heatmap of the executions of lines has an entry for each line that was executed more than once.
With exact durations, an entry tells the number and the sum of the executions of its line, whatever
was executed between them, and the entries are in strict order: by their totals, the largest first,
and by their lines when totals are equal.  So the heatmap is determined by the executions of each
line.
-/

namespace SnippetProfiler

/-! ### Heatmaps -/

/-- The executions of a line. -/
def executionsOf {τ : Type} (steps : List (LineExecution τ)) (line : ℤ) : List (LineExecution τ) :=
  steps.filter fun s => s.line = line

/-- The entries of a heatmap are those of the lines that were executed at least twice, and stand in
strict order. -/
structure IsHeatmap (steps : List (LineExecution ℚ)) (heatmap : List (HotLine ℚ)) : Prop where
  lines (line : ℤ) : line ∈ heatmap.map (·.line) ↔ 2 ≤ (executionsOf steps line).length
  nodup : (heatmap.map (·.line)).Nodup
  count : ∀ h ∈ heatmap, h.count = (executionsOf steps h.line).length
  total : ∀ h ∈ heatmap, h.total = ((executionsOf steps h.line).map (·.duration)).sum
  average : ∀ h ∈ heatmap, h.average = h.total / h.count
  text : ∀ h ∈ heatmap, (executionsOf steps h.line).head?.map (·.text) = some h.text
  ordered : heatmap.Pairwise fun g h => h.total < g.total ∨ g.total = h.total ∧ g.line < h.line

/-- A heatmap is determined by the executions of each line. -/
theorem IsHeatmap.eq {steps others : List (LineExecution ℚ)} {heatmap heatmap' : List (HotLine ℚ)}
    (h : IsHeatmap steps heatmap) (h' : IsHeatmap others heatmap')
    (hsame : ∀ line, executionsOf others line = executionsOf steps line) :
  heatmap' = heatmap
  := by
  have heq : ∀ g ∈ heatmap, ∀ g' ∈ heatmap', g'.line = g.line → g' = g := by
    intro g hg g' hg' hline
    have hcount : g'.count = g.count := by rw [h'.count g' hg', h.count g hg, hline, hsame]
    have htotal : g'.total = g.total := by rw [h'.total g' hg', h.total g hg, hline, hsame]
    have haverage : g'.average = g.average := by
      rw [h'.average g' hg', h.average g hg, htotal, hcount]
    have htext : g'.text = g.text := by
      apply Option.some.inj
      rw [← h'.text g' hg', ← h.text g hg, hline, hsame]
    cases g
    cases g'
    simp_all
  have hlines (line : ℤ) : line ∈ heatmap'.map (·.line) ↔ line ∈ heatmap.map (·.line) := by
    rw [h'.lines, h.lines, hsame]
  have hmem (g : HotLine ℚ) : g ∈ heatmap' ↔ g ∈ heatmap := by
    constructor
    · intro hg
      obtain ⟨f, hf, hline⟩ := List.mem_map.mp ((hlines _).mp (List.mem_map_of_mem hg))
      rw [heq f hf g hg hline.symm]
      exact hf
    · intro hg
      obtain ⟨f, hf, hline⟩ := List.mem_map.mp ((hlines _).mpr (List.mem_map_of_mem hg))
      rw [← heq g hg f hf hline]
      exact hf
  apply List.Perm.eq_of_pairwise _ h'.ordered h.ordered
  · exact (List.perm_ext_iff_of_nodup h'.nodup.of_map h.nodup.of_map).mpr hmem
  · rintro a b - - (hab | ⟨hab, hlines⟩) (hba | ⟨hba, hlines'⟩)
    · exact absurd hab hba.asymm
    · exact absurd hab hba.not_lt
    · exact absurd hba hab.not_lt
    · exact absurd hlines hlines'.asymm

/-! ### Entries -/

variable {τ : Type} [Quantity τ]

/-- The durations of executions under their lines. -/
def lineEntries (steps : List (LineExecution τ)) : List (ℤ × τ) :=
  steps.map fun s => (s.line, s.duration)

/-- The entry of a heatmap that a tally stands for. -/
def HotLine.ofTally (steps : List (LineExecution τ)) (t : Tally ℤ τ) : HotLine τ :=
  ⟨t.key, firstText steps t.key, t.count, t.total, t.average⟩

/-- The entries of a heatmap in the order of their lines. -/
def hotLines (steps : List (LineExecution τ)) : List (HotLine τ) :=
  let inOrder := (Tally.ofEntries (lineEntries steps)).mergeSort fun a b => a.key ≤ b.key
  (inOrder.filter fun t => 1 < t.count).map (HotLine.ofTally steps)

theorem lineHeatmap_eq (steps : List (LineExecution τ)) :
  lineHeatmap steps = Sorting.sortDown (fun a b => Quantity.lt a.total b.total)
    (fun h => Quantity.isNumber h.total) (hotLines steps)
  := rfl

/-- The entries stand for the tallies of more than one execution. -/
theorem mem_hotLines {steps : List (LineExecution τ)} {h : HotLine τ} :
  h ∈ hotLines steps
    ↔ ∃ t ∈ Tally.ofEntries (lineEntries steps), 1 < t.count ∧ HotLine.ofTally steps t = h
  := by
  simp only [hotLines, List.mem_map, List.mem_filter, List.mem_mergeSort, decide_eq_true_eq,
    and_assoc]

/-- The lines of the entries increase. -/
theorem pairwise_hotLines (steps : List (LineExecution τ)) :
  (hotLines steps).Pairwise fun g h => g.line < h.line
  := by
  let tallies := Tally.ofEntries (lineEntries steps)
  have hkeys : tallies.Pairwise fun a b => a.key ≠ b.key :=
    List.pairwise_map.mp (Tally.nodup_keys (lineEntries steps))
  have hsorted : (tallies.mergeSort fun a b => a.key ≤ b.key).Pairwise fun a b => a.key < b.key := by
    have hle := List.pairwise_mergeSort (Sorting.decide_rank_le_trans Tally.key)
      (Sorting.decide_rank_le_total Tally.key) tallies
    apply (hle.and _).imp
    · rintro a b ⟨hle, hne⟩
      exact lt_of_le_of_ne (decide_eq_true_eq.mp hle) hne
    · exact hkeys.perm (List.mergeSort_perm _ _).symm fun hne => hne.symm
  exact List.pairwise_map.mpr (hsorted.filter _)

omit [Quantity τ] in
theorem filter_lineEntries (steps : List (LineExecution τ)) (line : ℤ) :
  ((lineEntries steps).filter fun e => e.1 = line)
    = (executionsOf steps line).map fun s => (s.line, s.duration)
  := by
  rw [lineEntries, List.filter_map]
  rfl

/-- A tally counts the executions of its line. -/
theorem count_of_mem {steps : List (LineExecution τ)} {t : Tally ℤ τ}
    (ht : t ∈ Tally.ofEntries (lineEntries steps)) :
  t.count = (executionsOf steps t.key).length
  := by
  have h := Tally.growsBy_count.eq_sum ht
  rw [filter_lineEntries, List.map_map] at h
  simpa only [Function.comp_def, List.map_const', List.sum_replicate, nsmul_one, Nat.cast_inj] using h

/-- The total of a tally is the sum of the executions of its line. -/
theorem total_of_mem {steps : List (LineExecution ℚ)} {t : Tally ℤ ℚ}
    (ht : t ∈ Tally.ofEntries (lineEntries steps)) :
  t.total = ((executionsOf steps t.key).map (·.duration)).sum
  := by
  have h := Tally.growsBy_total.eq_sum ht
  rw [filter_lineEntries, List.map_map] at h
  exact h

omit [Quantity τ] in
/-- The text of a line is that of its first execution. -/
theorem head?_executionsOf {steps : List (LineExecution τ)} {line : ℤ}
    (h : executionsOf steps line ≠ []) :
  (executionsOf steps line).head?.map (·.text) = some (firstText steps line)
  := by
  rw [executionsOf, List.head?_filter, firstText]
  cases hfind : steps.find? fun s => s.line = line with
  | some s => rfl
  | none =>
      exfalso
      apply h
      rw [executionsOf, List.filter_eq_nil_iff]
      exact List.find?_eq_none.mp hfind

/-- The lines of the entries are those that were executed at least twice. -/
theorem mem_lines_iff (steps : List (LineExecution τ)) (line : ℤ) :
  line ∈ (hotLines steps).map (·.line) ↔ 2 ≤ (executionsOf steps line).length
  := by
  rw [List.mem_map]
  constructor
  · rintro ⟨h, hh, rfl⟩
    obtain ⟨t, ht, hcount, rfl⟩ := mem_hotLines.mp hh
    rw [count_of_mem ht] at hcount
    exact hcount
  · intro htwice
    obtain ⟨s, hs⟩ := List.exists_mem_of_length_pos (Nat.zero_lt_of_lt htwice)
    obtain ⟨hs, hline⟩ := List.mem_filter.mp hs
    have hkey : line ∈ (Tally.ofEntries (lineEntries steps)).map Tally.key := by
      rw [Tally.mem_keys, lineEntries, List.map_map]
      exact List.mem_map.mpr ⟨s, hs, of_decide_eq_true hline⟩
    obtain ⟨t, ht, rfl⟩ := List.mem_map.mp hkey
    rw [← count_of_mem ht] at htwice
    exact ⟨HotLine.ofTally steps t, mem_hotLines.mpr ⟨t, ht, htwice, rfl⟩, rfl⟩

/-! ### The heatmap -/

theorem hotLines_hasPlace (steps : List (LineExecution ℚ)) :
  ∀ h ∈ hotLines steps, Quantity.isNumber h.total = true
  := fun _ _ => rfl

theorem lineHeatmap_perm (steps : List (LineExecution ℚ)) :
  (lineHeatmap steps).Perm (hotLines steps)
  := by
  rw [lineHeatmap_eq, Sorting.sortDown_eq_sort (hotLines_hasPlace steps)]
  apply Sorting.sort_perm
  exact hotLines_hasPlace steps

theorem isHeatmap_lineHeatmap (steps : List (LineExecution ℚ)) :
  IsHeatmap steps (lineHeatmap steps)
  := by
  have hperm := lineHeatmap_perm steps
  have hentry : ∀ h ∈ lineHeatmap steps, ∃ t ∈ Tally.ofEntries (lineEntries steps),
      1 < t.count ∧ HotLine.ofTally steps t = h :=
    fun h hh => mem_hotLines.mp (hperm.subset hh)
  constructor
  · intro line
    rw [(hperm.map _).mem_iff]
    apply mem_lines_iff
  · rw [(hperm.map _).nodup_iff]
    apply List.pairwise_map.mpr
    exact (pairwise_hotLines steps).imp fun hlt => hlt.ne
  · intro h hh
    obtain ⟨t, ht, -, rfl⟩ := hentry h hh
    exact congrArg Nat.cast (count_of_mem ht)
  · intro h hh
    obtain ⟨t, ht, -, rfl⟩ := hentry h hh
    exact total_of_mem ht
  · intro h hh
    obtain ⟨t, -, -, rfl⟩ := hentry h hh
    rfl
  · intro h hh
    obtain ⟨t, ht, hcount, rfl⟩ := hentry h hh
    apply head?_executionsOf
    rw [count_of_mem ht] at hcount
    exact List.ne_nil_of_length_pos (Nat.zero_lt_of_lt hcount)
  · have hsorted := Sorting.pairwise_sortDown (·.total) (hotLines_hasPlace steps)
      (fun a _ b _ => decide_eq_true_iff) (pairwise_hotLines steps)
    rw [lineHeatmap_eq]
    apply hsorted.imp
    rintro g h ⟨hle, hties⟩
    obtain hlt | heq := hle.lt_or_eq
    · exact .inl hlt
    · exact .inr ⟨heq.symm, hties heq.ge⟩

/-- With exact durations, the heatmap has an entry for each line that was executed at least twice, with
the number, the sum and the first text of its executions, and its entries stand in strict order; it
does not depend on the order in which executions of different lines come. -/
theorem lineHeatmap_isHeatmap (steps : List (LineExecution ℚ)) :
  IsHeatmap steps (lineHeatmap steps)
    ∧ ∀ others : List (LineExecution ℚ),
      (∀ line, executionsOf others line = executionsOf steps line) →
      lineHeatmap others = lineHeatmap steps
  := by
  have h := isHeatmap_lineHeatmap steps
  refine ⟨h, ?_⟩
  intro others hsame
  exact h.eq (isHeatmap_lineHeatmap others) hsame

/-- Executions of three lines, one after the other, and mixed. -/
def mixedLines : List (LineExecution ℚ) × List (LineExecution ℚ) :=
  ([⟨1, 7, "a", 2⟩, ⟨2, 7, "b", 1⟩, ⟨3, 4, "c", 1⟩, ⟨4, 4, "d", 2⟩, ⟨5, 9, "e", 8⟩],
    [⟨3, 4, "c", 1⟩, ⟨1, 7, "a", 2⟩, ⟨5, 9, "e", 8⟩, ⟨4, 4, "d", 2⟩, ⟨2, 7, "b", 1⟩])

/-- Two of the lines are in the heatmap, whether they are mixed or not. -/
theorem lineHeatmap_isHeatmap_mixed :
  (∀ line, executionsOf mixedLines.2 line = executionsOf mixedLines.1 line)
    ∧ lineHeatmap mixedLines.2 = lineHeatmap mixedLines.1
    ∧ ∀ line, line ∈ (lineHeatmap mixedLines.1).map (·.line) ↔ line ∈ [7, 4]
  := by
  have hsame : ∀ line, executionsOf mixedLines.2 line = executionsOf mixedLines.1 line := by
    intro line
    by_cases h4 : 4 = line
    · subst h4
      rfl
    · by_cases h7 : 7 = line
      · subst h7
        rfl
      · simp [executionsOf, mixedLines, List.filter_cons, h4, h7]
  obtain ⟨hheatmap, heq⟩ := lineHeatmap_isHeatmap mixedLines.1
  refine ⟨hsame, heq mixedLines.2 hsame, ?_⟩
  intro line
  rw [hheatmap.lines, executionsOf, mixedLines]
  by_cases h7 : line = 7
  · subst h7
    decide
  · by_cases h4 : line = 4
    · subst h4
      decide
    · by_cases h9 : line = 9
      · subst h9
        decide
      · simp [Ne.symm h4, Ne.symm h7, Ne.symm h9, h4, h7]

end SnippetProfiler
