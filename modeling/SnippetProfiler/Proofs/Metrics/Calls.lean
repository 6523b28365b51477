import Mathlib
import SnippetProfiler.Metrics.Basic
import SnippetProfiler.Proofs.Metrics.Tally

/-!
# The calls of a trace in its metrics

The table of functions, the graph of calls and the summary are made from the calls of a trace in
three ways.  With exact durations they agree: the edges to a function add up to its entry in the
table, and all edges to the number of calls in the summary; the nodes of the graph are the root and
the ends of the edges; and the most expensive function is the first entry of the table with the
largest total.
-/

namespace SnippetProfiler

/-- The edges of a graph to a function. -/
def CallGraph.edgesTo {τ : Type} (g : CallGraph τ) (name : String) : List (CallEdge τ) :=
  g.edges.filter fun e => e.target = name

/-- Metrics whose table of functions, graph of calls and summary agree on the calls of a trace. -/
structure ExecutionMetrics.AgreesOnCalls (m : ExecutionMetrics ℚ) (t : Trace ℚ) : Prop where
  nodup_nodes : m.callGraph.nodes.Nodup
  head_nodes : m.callGraph.nodes.head? = some rootNode
  mem_nodes (name : String) : name ∈ m.callGraph.nodes ↔
    name = rootNode ∨ ∃ e ∈ m.callGraph.edges, name = e.source ∨ name = e.target
  nodup_edges : (m.callGraph.edges.map fun e => (e.source, e.target)).Nodup
  names : m.functions.map (·.name) = (t.calls.map (·.name)).eraseDups
  callCount : ∀ f ∈ m.functions, ((m.callGraph.edgesTo f.name).map (·.callCount)).sum = f.callCount
  total : ∀ f ∈ m.functions, ((m.callGraph.edgesTo f.name).map (·.total)).sum = f.total
  targets (name : String) :
    (∃ e ∈ m.callGraph.edges, e.target = name) ↔ ∃ f ∈ m.functions, f.name = name
  sum_edges : (m.callGraph.edges.map (·.callCount)).sum = m.summary.callCount
  calls : m.summary.callCount = t.countP fun e => e.kind = .functionCall
  functionCount : m.summary.functionCount = m.functions.length
  mostExpensive : m.summary.mostExpensive
    = (m.functions.find? fun f => m.functions.all fun g => g.total ≤ f.total).map
        fun f => ⟨f.name, f.total⟩
  no_calls : m.summary.mostExpensive = none ↔ t.calls = []

/-! ### Entries -/

variable {τ M : Type}

/-- The durations of calls under the names of the functions. -/
def functionEntries (calls : List (FunctionCall τ)) : List (String × τ) :=
  calls.map fun c => (c.name, c.duration)

/-- The durations of calls under the ends of their edges. -/
def edgeEntries (calls : List (FunctionCall τ)) : List ((String × String) × τ) :=
  calls.map fun c => ((c.source, c.name), c.duration)

section Table

variable [Quantity τ] (calls : List (FunctionCall τ))

/-- The functions of the table are those that are called, in the order of their first calls. -/
theorem names_functionStats :
  (functionStats calls).map (·.name) = (calls.map (·.name)).eraseDups
  := by
  have h := Tally.keys_ofEntries (functionEntries calls)
  rw [functionEntries, List.map_map] at h
  rw [functionStats, List.map_map]
  exact h

/-- The edges are different. -/
theorem nodup_edges :
  ((callGraph calls).edges.map fun e => (e.source, e.target)).Nodup
  := by
  have h := Tally.nodup_keys (edgeEntries calls)
  rw [callGraph, List.map_map]
  exact h

/-- There is an edge between two names exactly when there is a call. -/
theorem mem_edges_iff (source target : String) :
  (∃ e ∈ (callGraph calls).edges, e.source = source ∧ e.target = target)
    ↔ ∃ c ∈ calls, c.source = source ∧ c.name = target
  := by
  have h : (source, target) ∈ (callGraph calls).edges.map (fun e => (e.source, e.target))
      ↔ (source, target) ∈ calls.map fun c => (c.source, c.name) := by
    have hkeys := Tally.mem_keys (edgeEntries calls) (source, target)
    rw [edgeEntries, List.map_map] at hkeys
    rw [callGraph, List.map_map]
    exact hkeys
  simpa only [List.mem_map, Prod.mk.injEq] using h

/-! ### Nodes -/

theorem addName_eraseDups (names : List String) (name : String) :
  addName names.eraseDups name = (names ++ [name]).eraseDups
  := by
  rw [eraseDups_concat, addName]
  simp only [List.contains_iff_mem, List.mem_eraseDups]

/-- The nodes are the root, the callers and the functions, in the order in which they first come. -/
theorem nodes_callGraph :
  (callGraph calls).nodes = (rootNode :: calls.flatMap fun c => [c.source, c.name]).eraseDups
  := by
  have hfold : ∀ names : List String,
      calls.foldl (fun names c => addName (addName names c.source) c.name) names.eraseDups
        = (names ++ calls.flatMap fun c => [c.source, c.name]).eraseDups := by
    induction calls with
    | nil =>
        intro names
        rw [List.flatMap_nil, List.append_nil]
        rfl
    | cons c calls ih =>
        intro names
        rw [List.foldl_cons, addName_eraseDups, addName_eraseDups, ih, List.flatMap_cons,
          List.append_assoc, List.append_assoc]
        rfl
  exact hfold [rootNode]

theorem mem_nodes_iff (name : String) :
  name ∈ (callGraph calls).nodes ↔
    name = rootNode ∨ ∃ e ∈ (callGraph calls).edges, name = e.source ∨ name = e.target
  := by
  rw [nodes_callGraph, List.mem_eraseDups, List.mem_cons, List.mem_flatMap]
  apply or_congr_right
  constructor
  · rintro ⟨c, hc, hname⟩
    obtain ⟨e, he, hsource, htarget⟩ := (mem_edges_iff calls c.source c.name).mpr ⟨c, hc, rfl, rfl⟩
    use e, he
    rw [hsource, htarget]
    simpa using hname
  · rintro ⟨e, he, hname⟩
    obtain ⟨c, hc, hsource, htarget⟩ := (mem_edges_iff calls e.source e.target).mp ⟨e, he, rfl, rfl⟩
    use c, hc
    rw [hsource, htarget]
    simpa using hname

end Table

/-! ### Sums -/

/-- Over the edges to a function, the graph adds up to the entry of the function. -/
theorem sumOver_edgesTo [Quantity τ] [AddCommMonoid M] {value : τ → M}
    {measure : Tally String τ → M} {measure' : Tally (String × String) τ → M}
    (h : Tally.GrowsBy measure value) (h' : Tally.GrowsBy measure' value)
    (calls : List (FunctionCall τ)) {t : Tally String τ}
    (ht : t ∈ Tally.ofEntries (functionEntries calls)) :
  Tally.sumOver measure' (fun k => k.2 = t.key) (Tally.ofEntries (edgeEntries calls)) = measure t
  := by
  rw [← Tally.sumOver_key measure (Tally.nodup_keys _) ht, h.sumOver_ofEntries,
    h'.sumOver_ofEntries, edgeEntries, functionEntries, List.filter_map, List.filter_map,
    List.map_map, List.map_map]
  rfl

/-- The entries of the table come from tallies. -/
theorem mem_functionStats [Quantity τ] {calls : List (FunctionCall τ)} {f : FunctionStats τ}
    (hf : f ∈ functionStats calls) :
  ∃ t ∈ Tally.ofEntries (functionEntries calls),
    t.key = f.name ∧ (t.count : ℤ) = f.callCount ∧ t.total = f.total
  := by
  obtain ⟨t, ht, rfl⟩ := List.mem_map.mp hf
  use t, ht

/-- The edges to a function, measured, are the tallies under it, measured. -/
theorem sum_edgesTo [Quantity τ] [AddCommMonoid M] (calls : List (FunctionCall τ)) (name : String)
    (measure : CallEdge τ → M) (measure' : Tally (String × String) τ → M)
    (h : ∀ t : Tally (String × String) τ,
      measure ⟨t.key.1, t.key.2, t.count, t.total, t.average⟩ = measure' t) :
  (((callGraph calls).edgesTo name).map measure).sum
    = Tally.sumOver measure' (fun k => k.2 = name) (Tally.ofEntries (edgeEntries calls))
  := by
  rw [CallGraph.edgesTo, callGraph, List.filter_map, List.map_map, Tally.sumOver]
  congr 2
  funext t
  apply h

/-- The edges count all calls. -/
theorem sum_callCount [Quantity τ] (calls : List (FunctionCall τ)) :
  ((callGraph calls).edges.map (·.callCount)).sum = (calls.length : ℤ)
  := by
  have h := Tally.growsBy_count.sumOver_ofEntries (fun _ => true) (edgeEntries calls)
  simp only [Tally.sumOver, List.filter_true, List.map_const', List.sum_replicate, nsmul_one] at h
  rw [callGraph, List.map_map]
  apply Eq.trans h
  rw [edgeEntries, List.length_map]

/-! ### The most expensive function -/

/-- One more entry is the longest only if its total is larger. -/
theorem longest_concat {stats : List (FunctionStats ℚ)} {best : FunctionStats ℚ}
    (h : longest stats = some best) (f : FunctionStats ℚ) :
  longest (stats ++ [f]) = some (if best.total < f.total then f else best)
  := by
  cases stats with
  | nil => cases h
  | cons first rest =>
      cases h
      rw [List.cons_append, longest, List.foldl_append]
      simp only [List.foldl_cons, List.foldl_nil, Quantity.lt, decide_eq_true_eq]

/-- The longest entry has a larger total than the ones in front of it, and no smaller one than
those behind it. -/
theorem eq_append_of_longest {stats : List (FunctionStats ℚ)} {f : FunctionStats ℚ}
    (h : longest stats = some f) :
  ∃ before after, stats = before ++ f :: after ∧ (∀ g ∈ before, g.total < f.total)
    ∧ ∀ g ∈ after, g.total ≤ f.total
  := by
  induction stats using List.reverseRecOn generalizing f with
  | nil => cases h
  | append_singleton stats g ih =>
      cases hbest : longest stats with
      | none =>
          cases stats with
          | nil =>
              cases h
              use [], []
              simp
          | cons first rest => cases hbest
      | some best =>
          obtain ⟨before, after, hstats, hbefore, hafter⟩ := ih hbest
          rw [longest_concat hbest, Option.some.injEq] at h
          split at h
          · rename_i hlt
            subst h
            use stats, [], rfl
            constructor
            · intro k hk
              rw [hstats, List.mem_append, List.mem_cons] at hk
              obtain hk | rfl | hk := hk
              · apply (hbefore k hk).trans hlt
              · exact hlt
              · apply (hafter k hk).trans_lt hlt
            · simp
          · rename_i hle
            subst h
            use before, after ++ [g]
            constructor
            · rw [hstats, List.append_assoc, List.cons_append]
            · use hbefore
              intro k hk
              rw [List.mem_append, List.mem_singleton] at hk
              obtain hk | rfl := hk
              · apply hafter k hk
              · apply not_lt.mp hle

/-- The longest entry is the first one with the largest total. -/
theorem longest_eq_find? (stats : List (FunctionStats ℚ)) :
  longest stats = stats.find? fun f => stats.all fun g => g.total ≤ f.total
  := by
  cases hlongest : longest stats with
  | none =>
      cases stats with
      | nil => rfl
      | cons f rest => cases hlongest
  | some f =>
      obtain ⟨before, after, heq, hbefore, hafter⟩ := eq_append_of_longest hlongest
      symm
      rw [List.find?_eq_some_iff_append]
      constructor
      · simp only [List.all_eq_true, decide_eq_true_eq, heq, List.mem_append, List.mem_cons]
        rintro g (hg | rfl | hg)
        · apply (hbefore g hg).le
        · apply le_refl
        · apply hafter g hg
      · use before, after, heq
        intro g hg
        rw [Bool.not_eq_true', List.all_eq_false]
        use f
        rw [heq, decide_eq_true_eq, not_le]
        exact ⟨by simp, hbefore g hg⟩

/-! ### Agreement -/

/-- The calls of a trace are its events of that kind. -/
theorem length_calls (t : Trace τ) :
  t.calls.length = t.countP fun e => e.kind = .functionCall
  := by
  rw [Trace.calls, List.length_filterMap_eq_countP]
  congr 1
  funext e
  cases e with
  | _ => rfl

/-- With exact durations, the table of functions, the graph of calls and the summary of a trace
agree. -/
theorem aggregate_agreesOnCalls (trace : Trace ℚ) (duration : ℚ) (hint : Option GrowthHint) :
  (aggregate trace duration hint).AgreesOnCalls trace
  where
  nodup_nodes := by
    rw [aggregate, metricsWith, nodes_callGraph]
    apply nodup_eraseDups
  head_nodes := by
    rw [aggregate, metricsWith, nodes_callGraph, List.eraseDups_cons]
    rfl
  mem_nodes := mem_nodes_iff trace.calls
  nodup_edges := nodup_edges trace.calls
  names := names_functionStats trace.calls
  callCount f hf := by
    obtain ⟨t, ht, hname, hcount, -⟩ := mem_functionStats hf
    rw [← hname, ← hcount]
    apply (sum_edgesTo trace.calls t.key _ (fun t => (t.count : ℤ)) fun _ => rfl).trans
    apply sumOver_edgesTo Tally.growsBy_count Tally.growsBy_count trace.calls ht
  total f hf := by
    obtain ⟨t, ht, hname, -, htotal⟩ := mem_functionStats hf
    rw [← hname, ← htotal]
    apply (sum_edgesTo trace.calls t.key _ (fun t => t.total) fun _ => rfl).trans
    apply sumOver_edgesTo Tally.growsBy_total Tally.growsBy_total trace.calls ht
  targets name := by
    have htable : name ∈ (functionStats trace.calls).map (·.name)
        ↔ name ∈ trace.calls.map (·.name) := by
      rw [names_functionStats, List.mem_eraseDups]
    rw [List.mem_map, List.mem_map] at htable
    apply Iff.trans _ htable.symm
    constructor
    · rintro ⟨e, he, htarget⟩
      obtain ⟨c, hc, -, hname⟩ := (mem_edges_iff trace.calls e.source e.target).mp ⟨e, he, rfl, rfl⟩
      use c, hc
      rw [hname, htarget]
    · rintro ⟨c, hc, hname⟩
      obtain ⟨e, he, -, htarget⟩ := (mem_edges_iff trace.calls c.source c.name).mpr ⟨c, hc, rfl, rfl⟩
      use e, he
      rw [htarget, hname]
  sum_edges := sum_callCount trace.calls
  calls := congrArg Nat.cast (length_calls trace)
  functionCount := rfl
  mostExpensive := congrArg (Option.map _) (longest_eq_find? (functionStats trace.calls))
  no_calls := by
    have hnone : (functionStats trace.calls) = [] ↔ trace.calls = [] := by
      rw [← List.map_eq_nil_iff (f := (·.name)), names_functionStats]
      cases trace.calls with
      | nil => simp
      | cons c calls => simp [List.eraseDups_cons]
    rw [← hnone]
    change (longest _).map _ = none ↔ _
    rw [Option.map_eq_none_iff]
    cases functionStats trace.calls with
    | nil => simp [longest]
    | cons f rest => simp [longest]

end SnippetProfiler
