import Mathlib
import SnippetProfiler.Metrics.Basic
import SnippetProfiler.Proofs.Metrics.Tally

/-!
# Timelines partition the states of variables

Each state of a variable is a change on one timeline, that of its variable, and the changes of a
timeline stand in the order of the states.  There is a timeline for each name, in the order in which
the names first come, and it has the type of the last state under its name.
-/

namespace SnippetProfiler

variable {τ : Type}

/-! ### Partitions -/

/-- The change on a timeline that a state is. -/
def VariableState.change (s : VariableState τ) : VariableChange τ := ⟨s.time, s.value, s.line⟩

/-- The states of the variable with a name. -/
def statesOf (states : List (VariableState τ)) (name : String) : List (VariableState τ) :=
  states.filter fun s => s.name = name

/-- Timelines that share out states by their names. -/
structure IsPartition (states : List (VariableState τ)) (timelines : List (VariableTimeline τ)) :
    Prop where
  names : timelines.map (·.name) = (states.map (·.name)).eraseDups
  changes : ∀ t ∈ timelines, t.changes = (statesOf states t.name).map VariableState.change
  typeName : ∀ t ∈ timelines, (statesOf states t.name).getLast?.map (·.typeName) = some t.typeName
  length : (timelines.map fun t => t.changes.length).sum = states.length

theorem statesOf_concat (states : List (VariableState τ)) (s : VariableState τ) (name : String) :
  statesOf (states ++ [s]) name
    = if s.name = name then statesOf states name ++ [s] else statesOf states name
  := by
  rw [statesOf, statesOf, List.filter_append]
  by_cases h : s.name = name
  · simp [h]
  · simp [h]

/-- A name that no state has. -/
theorem statesOf_eq_nil {states : List (VariableState τ)} {name : String}
    (h : name ∉ states.map (·.name)) :
  statesOf states name = []
  := by
  rw [statesOf, List.filter_eq_nil_iff]
  intro s hs hname
  apply h
  rw [← of_decide_eq_true hname]
  apply List.mem_map_of_mem hs

/-! ### One more state -/

namespace VariableTimeline

/-- A state puts the name of its variable behind the others, unless it is there. -/
theorem names_extend (timelines : List (VariableTimeline τ)) (s : VariableState τ) :
  (extend timelines s).map (·.name)
    = if s.name ∈ timelines.map (·.name) then timelines.map (·.name)
      else timelines.map (·.name) ++ [s.name]
  := by
  induction timelines with
  | nil => rfl
  | cons t rest ih =>
      rw [extend, List.map_cons]
      by_cases h : t.name = s.name
      · rw [if_pos h, if_pos (List.mem_cons.mpr (.inl h.symm)), List.map_cons]
      · have hmem : s.name ∈ t.name :: rest.map (·.name) ↔ s.name ∈ rest.map (·.name) := by
          rw [List.mem_cons, or_iff_right (Ne.symm h)]
        rw [if_neg h, List.map_cons, ih]
        by_cases hrest : s.name ∈ rest.map (·.name)
        · rw [if_pos hrest, if_pos (hmem.mpr hrest)]
        · rw [if_neg hrest, if_neg (hmem.not.mpr hrest), List.cons_append]

/-- The timelines behind a state: those of other variables, and that of its own, which goes on or
begins with it. -/
theorem mem_extend {timelines : List (VariableTimeline τ)} {s : VariableState τ}
    (h : (timelines.map (·.name)).Nodup) {t : VariableTimeline τ} (ht : t ∈ extend timelines s) :
  (t ∈ timelines ∧ t.name ≠ s.name) ∨
    (t.name = s.name ∧ t.typeName = s.typeName ∧
      ((∃ u ∈ timelines, u.name = s.name ∧ t.changes = u.changes ++ [s.change]) ∨
        (s.name ∉ timelines.map (·.name) ∧ t.changes = [s.change])))
  := by
  induction timelines with
  | nil =>
      cases List.mem_singleton.mp ht
      exact .inr ⟨rfl, rfl, .inr ⟨List.not_mem_nil, rfl⟩⟩
  | cons u rest ih =>
      rw [List.map_cons, List.nodup_cons] at h
      rw [extend] at ht
      by_cases hname : u.name = s.name
      · rw [if_pos hname, List.mem_cons] at ht
        obtain rfl | ht := ht
        · exact .inr ⟨hname, rfl, .inl ⟨u, List.mem_cons_self, hname, rfl⟩⟩
        · refine .inl ⟨List.mem_cons_of_mem _ ht, ?_⟩
          rintro hother
          apply h.1
          rw [hname, ← hother]
          apply List.mem_map_of_mem ht
      · rw [if_neg hname, List.mem_cons] at ht
        obtain rfl | ht := ht
        · exact .inl ⟨List.mem_cons_self, hname⟩
        · obtain ⟨ht, hother⟩ | ⟨hown, htype, ⟨v, hv, hchanges⟩ | ⟨hnew, hchanges⟩⟩ := ih h.2 ht
          · exact .inl ⟨List.mem_cons_of_mem _ ht, hother⟩
          · exact .inr ⟨hown, htype, .inl ⟨v, List.mem_cons_of_mem _ hv, hchanges⟩⟩
          · refine .inr ⟨hown, htype, .inr ⟨?_, hchanges⟩⟩
            rw [List.map_cons, List.mem_cons, not_or]
            exact ⟨Ne.symm hname, hnew⟩

/-- A state adds one change. -/
theorem sum_length_extend (timelines : List (VariableTimeline τ)) (s : VariableState τ) :
  ((extend timelines s).map fun t => t.changes.length).sum
    = (timelines.map fun t => t.changes.length).sum + 1
  := by
  induction timelines with
  | nil => rfl
  | cons t rest ih =>
      rw [extend]
      by_cases h : t.name = s.name
      · rw [if_pos h, List.map_cons, List.sum_cons, List.map_cons, List.sum_cons, List.length_append,
          List.length_singleton]
        omega
      · rw [if_neg h, List.map_cons, List.sum_cons, ih, List.map_cons, List.sum_cons]
        omega

end VariableTimeline

theorem variableTimelines_concat (states : List (VariableState τ)) (s : VariableState τ) :
  variableTimelines (states ++ [s]) = VariableTimeline.extend (variableTimelines states) s
  := by
  rw [variableTimelines, List.foldl_append]
  rfl

/-! ### Timelines -/

/-- Timelines that share out states go on to do so with one more state. -/
theorem IsPartition.extend {states : List (VariableState τ)} {timelines : List (VariableTimeline τ)}
    (h : IsPartition states timelines) (s : VariableState τ) :
  IsPartition (states ++ [s]) (VariableTimeline.extend timelines s)
  := by
  have hnodup : (timelines.map (·.name)).Nodup := by
    rw [h.names]
    apply nodup_eraseDups
  have hnew : s.name ∉ timelines.map (·.name) → statesOf states s.name = [] := by
    rw [h.names, List.mem_eraseDups]
    apply statesOf_eq_nil
  constructor
  case names =>
    rw [VariableTimeline.names_extend, h.names, List.map_append, List.map_singleton,
      eraseDups_concat]
    simp only [List.mem_eraseDups]
  case changes =>
    intro t ht
    rw [statesOf_concat]
    obtain ⟨ht, hother⟩ | ⟨hown, -, ⟨u, hu, hname, hchanges⟩ | ⟨hfirst, hchanges⟩⟩ :=
      VariableTimeline.mem_extend hnodup ht
    · rw [if_neg hother.symm, h.changes t ht]
    · rw [if_pos hown.symm, hown, hchanges, h.changes u hu, hname, List.map_append]
      rfl
    · rw [if_pos hown.symm, hown, hchanges, hnew hfirst]
      rfl
  case typeName =>
    intro t ht
    rw [statesOf_concat]
    obtain ⟨ht, hother⟩ | ⟨hown, htype, -⟩ := VariableTimeline.mem_extend hnodup ht
    · rw [if_neg hother.symm, h.typeName t ht]
    · rw [if_pos hown.symm, List.getLast?_concat, htype]
      rfl
  case length =>
    rw [VariableTimeline.sum_length_extend, h.length, List.length_append, List.length_singleton]

/-- There is one timeline for each variable, in the order in which the variables first come, with
exactly the states of the variable in their order, and with the type of the last one. -/
theorem variableTimelines_isPartition (states : List (VariableState τ)) :
  IsPartition states (variableTimelines states)
  := by
  induction states using List.reverseRecOn with
  | nil =>
      constructor
      · rfl
      · rintro t ⟨⟩
      · rintro t ⟨⟩
      · rfl
  | append_singleton states s ih =>
      rw [variableTimelines_concat]
      apply ih.extend

end SnippetProfiler
