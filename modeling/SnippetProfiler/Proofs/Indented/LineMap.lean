import Mathlib.Data.List.Induction
import SnippetProfiler.Indented.Program
import SnippetProfiler.Proofs.Indented.Walk

/-!
# Lines of statements

The map of lines is read off two walks side by side, through a program and through its printed form.  The
first pair of nodes that says something about a line counts.

In a walk a statement stands in front of its parts.  So it is the first node on its line where no other
node but its parts is on that line, and the map takes the line to that of the statement it was printed
from.
-/

namespace SnippetProfiler.Indented

/-! ### Lines of their own -/

/-- On the line of a statement there is nothing but the statement and what is below it. -/
def Shape.KeepsLines (s : Shape) : Prop :=
  ∀ p a, s.at? p = some a → a.kind.isStatement = true →
    ∀ q b, s.at? q = some b → ∀ line, a.line = some line → b.line = some line → p <+: q

/-- The walks through two trees come to nodes of the same kinds. -/
def Shape.WalksLike (s t : Shape) : Prop := s.walk.map Shape.kind = t.walk.map Shape.kind

instance (s t : Shape) : Decidable (s.WalksLike t) := inferInstanceAs (Decidable (_ = _))

theorem keepsLines_iff {s : Shape} :
  s.KeepsLines ↔ ∀ a ∈ s.nodes, a.shape.kind.isStatement = true → ∀ b ∈ s.nodes,
    a.shape.line.isSome = true → a.shape.line = b.shape.line → a.address <+: b.address
  := by
  constructor
  · intro h a ha hstatement b hb hsome heq
    obtain ⟨line, hline⟩ := Option.isSome_iff_exists.mp hsome
    exact h _ _ (mem_nodes.mp ha) hstatement _ _ (mem_nodes.mp hb) line hline (heq ▸ hline)
  · intro h p a ha hstatement q b hb line hline heq
    have hsome : a.line.isSome = true := by rw [hline]; rfl
    exact h ⟨p, a⟩ (mem_nodes.mpr ha) hstatement ⟨q, b⟩ (mem_nodes.mpr hb) hsome
      (hline.trans heq.symm)

instance (s : Shape) : Decidable s.KeepsLines := decidable_of_iff _ keepsLines_iff.symm

/-! ### The first pair counts -/

/-- What a pair of nodes says: the line of the second one, behind the offset, comes from the line of the
first one. -/
def lineEntry (offset : Nat) (pair : Shape × Shape) : Option (Nat × Nat) :=
  match pair.1.line, pair.2.line with
  | some original, some emitted => if original = 0 then none else some (emitted + offset, original)
  | _, _ => none

theorem lineEntry_eq_some {offset l n : Nat} {pair : Shape × Shape} :
  lineEntry offset pair = some (l, n)
    ↔ n ≠ 0 ∧ pair.1.line = some n ∧ ∃ emitted, pair.2.line = some emitted ∧ l = emitted + offset
  := by
  cases horiginal : pair.1.line with
  | none => simp [lineEntry, horiginal]
  | some original =>
      cases hemitted : pair.2.line with
      | none => simp [lineEntry, horiginal, hemitted]
      | some emitted =>
          by_cases hzero : original = 0
          · simp only [lineEntry, horiginal, hemitted, if_pos hzero]
            constructor
            · rintro ⟨⟩
            · rintro ⟨hne, heq, -⟩
              cases heq
              cases hne hzero
          · simp only [lineEntry, horiginal, hemitted, if_neg hzero, Option.some_inj, Prod.mk.injEq]
            constructor
            · rintro ⟨rfl, rfl⟩
              exact ⟨hzero, rfl, emitted, rfl, rfl⟩
            · rintro ⟨-, rfl, _, rfl, rfl⟩
              exact ⟨rfl, rfl⟩

/-- Pairs say nothing about a line on which none of them ends. -/
theorem lookup_eq_none {offset line : Nat} {pairs : List (Shape × Shape)}
    (h : ∀ pair ∈ pairs, pair.2.line ≠ some line) :
  (pairs.filterMap (lineEntry offset)).lookup (line + offset) = none
  := by
  rw [List.lookup_eq_none_iff]
  rintro ⟨l, n⟩ hentry
  obtain ⟨pair, hpair, hentry⟩ := List.mem_filterMap.mp hentry
  obtain ⟨-, -, emitted, hemitted, rfl⟩ := lineEntry_eq_some.mp hentry
  rw [bne_iff_ne]
  intro heq
  obtain rfl := Nat.add_right_cancel heq
  exact h pair hpair hemitted

theorem addPair_eq (offset : Nat) (mapping : List (Nat × Nat)) (pair : Shape × Shape) :
  addPair offset mapping pair
    = (lineEntry offset pair).elim mapping fun entry => setDefault mapping entry.1 entry.2
  := by
  cases horiginal : pair.1.line with
  | none => simp only [addPair, lineEntry, horiginal, Option.elim_none]
  | some original =>
      cases hemitted : pair.2.line with
      | none => simp only [addPair, lineEntry, horiginal, hemitted, Option.elim_none]
      | some emitted =>
          simp only [addPair, lineEntry, horiginal, hemitted]
          split
          · rfl
          · rfl

theorem mem_setDefault {mapping : List (Nat × Nat)} {l n emitted original : Nat} :
  (l, n) ∈ setDefault mapping emitted original
    ↔ (l, n) ∈ mapping ∨ ((∀ k, (emitted, k) ∉ mapping) ∧ l = emitted ∧ n = original)
  := by
  have hany : (mapping.any fun entry => entry.1 = emitted) = true ↔ ∃ k, (emitted, k) ∈ mapping := by
    rw [List.any_eq_true]
    constructor
    · rintro ⟨⟨_, k⟩, hmem, hk⟩
      obtain rfl := of_decide_eq_true hk
      exact ⟨k, hmem⟩
    · rintro ⟨k, hmem⟩
      exact ⟨_, hmem, decide_eq_true rfl⟩
  rw [setDefault]
  split
  · rename_i hset
    obtain ⟨k, hk⟩ := hany.mp hset
    rw [or_iff_left]
    rintro ⟨hnone, -⟩
    exact hnone k hk
  · rename_i hset
    rw [hany, not_exists] at hset
    rw [List.mem_append, List.mem_singleton, Prod.mk.injEq, and_iff_right hset]

/-- A line gets its counterpart from the first pair that says something about it. -/
theorem mem_foldl_addPair {offset : Nat} {pairs : List (Shape × Shape)} {l n : Nat} :
  (l, n) ∈ pairs.foldl (addPair offset) []
    ↔ (pairs.filterMap (lineEntry offset)).lookup l = some n
  := by
  induction pairs using List.reverseRecOn generalizing l n with
  | nil => simp
  | append_singleton pairs pair ih =>
      rw [List.foldl_append, List.foldl_cons, List.foldl_nil, addPair_eq, List.filterMap_append,
        List.lookup_append]
      cases hentry : lineEntry offset pair with
      | none =>
          rw [Option.elim_none, ih, List.filterMap_cons_none hentry, List.filterMap_nil, List.lookup_nil,
            Option.or_none]
      | some entry =>
          obtain ⟨emitted, original⟩ := entry
          rw [Option.elim_some, mem_setDefault, ih, List.filterMap_cons_some hentry, List.filterMap_nil,
            List.lookup_cons, List.lookup_nil]
          simp only [ih]
          cases hl : (pairs.filterMap (lineEntry offset)).lookup l with
          | none =>
              rw [Option.none_or, or_iff_right (Option.some_ne_none n).symm]
              by_cases heq : l = emitted
              · subst heq
                simp [hl, eq_comm]
              · simp [heq, beq_false_of_ne heq]
          | some k =>
              rw [Option.some_or, or_iff_left]
              rintro ⟨hnone, rfl, -⟩
              exact hnone k hl

/-! ### Walks side by side -/

theorem kind_eq_of_mem_alongside (ss ts : List Shape) :
  ∀ pair ∈ alongside ss ts, pair.1.kind = pair.2.kind
  := by
  fun_induction alongside ss ts with
  | case1 s ss t ts hkind ih => exact List.forall_mem_cons.mpr ⟨hkind, ih⟩
  | case2 =>
      intro pair hpair
      cases hpair
  | case3 =>
      intro pair hpair
      cases hpair

/-- Walks that come to nodes of the same kinds go on side by side to their ends. -/
theorem alongside_eq_zip {ss ts : List Shape} (h : ss.map Shape.kind = ts.map Shape.kind) :
  alongside ss ts = ss.zip ts
  := by
  induction ss generalizing ts with
  | nil => rfl
  | cons s ss ih =>
      cases ts with
      | nil => rfl
      | cons t ts =>
          rw [List.map_cons, List.map_cons, List.cons.injEq] at h
          rw [alongside, if_pos h.1, ih h.2, List.zip_cons_cons]

theorem Shape.WalksLike.length_eq {s t : Shape} (h : s.WalksLike t) :
  s.walk.length = t.walk.length
  := by
  have hlength := congrArg List.length h
  rwa [List.length_map, List.length_map] at hlength

/-- What stands in front of a pair of two lists, the second one in order, is in order with it. -/
theorem exists_split_zip {α β : Type} {R : β → β → Prop} {ss : List α} {ts : List β}
    (hts : ts.Pairwise R) (hlength : ts.length ≤ ss.length) {x : α × β} (hx : x ∈ ss.zip ts) :
  ∃ before after, ss.zip ts = before ++ x :: after ∧ ∀ y ∈ before, R y.2 x.2
  := by
  obtain ⟨before, after, hsplit⟩ := List.append_of_mem hx
  rw [← List.map_snd_zip hlength, List.pairwise_map, hsplit, List.pairwise_append] at hts
  exact ⟨before, after, hsplit, fun y hy => hts.2.2 y hy x List.mem_cons_self⟩

/-- What stands in front of a statement in a walk is on other lines. -/
theorem Shape.KeepsLines.line_ne {s : Shape} (h : s.KeepsLines) {a b : Node} (ha : a ∈ s.nodes)
    (hb : b ∈ s.nodes) (hstatement : a.shape.kind.isStatement = true) (hbefore : b.MayPrecede a)
    {line : Nat} (hline : a.shape.line = some line) :
  b.shape.line ≠ some line
  := by
  intro heq
  apply hbefore.not_below
  exact h _ _ (mem_nodes.mp ha) hstatement _ _ (mem_nodes.mp hb) line hline heq

/-- The line of a statement that keeps it comes from the line of its partner in the other walk. -/
theorem mem_lineMap {wrapped reread : Shape} {offset : Nat} (hkinds : wrapped.WalksLike reread)
    (hkeeps : reread.KeepsLines) {s t : Shape} (h : (s, t) ∈ wrapped.walk.zip reread.walk)
    (hstatement : t.kind.isStatement = true) {original emitted : Nat} (hs : s.line = some original)
    (ht : t.line = some emitted) (hpos : 1 ≤ original) {n : Nat} :
  (emitted + offset, n) ∈ lineMap wrapped reread offset ↔ n = original
  := by
  -- equal nodes of the second walk are told apart by their addresses
  have hmap : wrapped.walk.zip reread.walk
      = (wrapped.walk.zip reread.nodes).map (Prod.map id Node.shape) := by
    rw [← map_shape_nodes reread, List.zip_map_right]
  have hlength : reread.nodes.length ≤ wrapped.walk.length := by
    apply Nat.le_of_eq
    rw [hkinds.length_eq, ← map_shape_nodes reread, List.length_map]
  rw [hmap] at h
  obtain ⟨⟨_, a⟩, ha, heq⟩ := List.mem_map.mp h
  obtain ⟨rfl, rfl⟩ := Prod.mk.inj heq
  obtain ⟨before, after, hsplit, hbefore⟩ := exists_split_zip (pairwise_nodes reread) hlength ha
  have hfirst : ∀ pair ∈ before.map (Prod.map id Node.shape), pair.2.line ≠ some emitted := by
    rw [List.forall_mem_map]
    intro b hb
    have hmem : b ∈ wrapped.walk.zip reread.nodes := hsplit ▸ List.mem_append_left _ hb
    exact hkeeps.line_ne (List.of_mem_zip ha).2 (List.of_mem_zip hmem).2 hstatement (hbefore b hb) ht
  have hentry : lineEntry offset (Prod.map id Node.shape (_, a)) = some (emitted + offset, original) :=
    lineEntry_eq_some.mpr ⟨Nat.ne_of_gt hpos, hs, emitted, ht, rfl⟩
  rw [lineMap, alongside_eq_zip hkinds, mem_foldl_addPair, hmap, hsplit, List.map_append, List.map_cons,
    List.filterMap_append, List.lookup_append, lookup_eq_none hfirst, List.filterMap_cons_some hentry,
    Option.none_or, List.lookup_cons, beq_self_eq_true, Option.some_inj, eq_comm]

/-! ### Programs -/

theorem exists_stmt_of_mem_walk {body : Block} {s : Shape} (hs : s ∈ (moduleShape body).walk)
    (hstatement : s.kind.isStatement = true) :
  ∃ x : Stmt, s = x.shape
  := by
  rw [← map_shape_nodes, List.mem_map] at hs
  obtain ⟨a, ha, rfl⟩ := hs
  exact moduleShape_isGenuine body _ _ (mem_nodes.mp ha) hstatement

/-- Where each statement of the printed program keeps its line, the line of a statement is taken to the
line of the statement that it was printed from, and to no other. -/
theorem lineMap_takesStatements (body reread : Block) (offset : Nat)
    (hkinds : (moduleShape (wrap body)).WalksLike (moduleShape reread))
    (hkeeps : (moduleShape reread).KeepsLines) :
  ∀ s t, (s, t) ∈ (moduleShape (wrap body)).walk.zip (moduleShape reread).walk →
    s.kind.isStatement = true →
    ∃ original emitted : Stmt, s = original.shape ∧ t = emitted.shape
      ∧ (1 ≤ original.line → ∀ n,
        (emitted.line + offset, n) ∈ lineMap (moduleShape (wrap body)) (moduleShape reread) offset
          ↔ n = original.line)
  := by
  intro s t h hstatement
  have hkind : s.kind = t.kind := by
    rw [← alongside_eq_zip hkinds] at h
    exact kind_eq_of_mem_alongside _ _ _ h
  have hstatement' : t.kind.isStatement = true := hkind ▸ hstatement
  obtain ⟨hs, ht⟩ := List.of_mem_zip h
  obtain ⟨original, rfl⟩ := exists_stmt_of_mem_walk hs hstatement
  obtain ⟨emitted, rfl⟩ := exists_stmt_of_mem_walk ht hstatement'
  refine ⟨original, emitted, rfl, rfl, ?_⟩
  intro hpos n
  exact mem_lineMap hkinds hkeeps h hstatement' original.line_shape emitted.line_shape hpos

/-- A function with a decorator and a chain of conditions. -/
def chained : Block :=
  [.functionDef 2 false "f" { positional := [⟨2, "x", none⟩] }
    [.ifElse 3 (.name 3 "x") [.assign 4 [.name 4 "y"] (.name 4 "x")]
      [.ifElse 5 (.name 5 "f") [.pass 6] []]]
    [.name 1 "d"] none]

/-- The lines in which the function is printed with its hooks. -/
def chainedLines : List String :=
  ["try:\n", "\n", "    @d\n", "    @__probe__.traced\n", "    def f(x):\n", "        if x:\n",
    "            with __probe__.line(4):\n", "                y = x\n",
    "            __probe__.var('y', y, 4)\n", "        elif f:\n",
    "            with __probe__.line(6):\n", "                pass\n",
    "except BaseException as __probe_exc__:\n", "    __probe__.finish(__probe_exc__)\n", "else:\n",
    "    __probe__.finish()"]

/-- What is read in those lines. -/
def chainedReread : Block :=
  [.tryExcept 1 false
    [.functionDef 5 false "f" { positional := [⟨5, "x", none⟩] }
      [.ifElse 6 (.name 6 "x")
        [.withItems 7 false [(hookCall 7 "line" [.constant 7 (.int 4)], none)]
          [.assign 8 [.name 8 "y"] (.name 8 "x")],
        .expression 9 (hookCall 9 "var" [textAt 9 "y", .name 9 "y", .constant 9 (.int 4)])]
        [.ifElse 10 (.name 10 "f")
          [.withItems 11 false [(hookCall 11 "line" [.constant 11 (.int 6)], none)] [.pass 12]] []]]
      [.name 3 "d", hook 4 "traced"] none]
    [.handler 13 (some (.name 13 "BaseException")) (some exceptionName)
      [.expression 14 (hookCall 14 "finish" [.name 14 exceptionName])]]
    [.expression 16 (hookCall 16 "finish" [])] []]

theorem print_chained :
  print (wrap (injectBlock chained)) = some (String.join chainedLines)
  := by decide +kernel

set_option maxRecDepth 2000 in
theorem parse_chained :
  parse (String.join chainedLines).toList = some chainedReread
  := by
  -- each line is read into characters on its own, as a long text is slow to read
  rw [String.toList_join]
  simp only [chainedLines, List.flatMap_cons, List.flatMap_nil, String.reduceToList]
  rfl

/-- The assignment in line 4 is printed in line 8. -/
theorem lineMap_takesStatements_chained :
  print (wrap (injectBlock chained)) = some (String.join chainedLines)
    ∧ parse (String.join chainedLines).toList = some chainedReread
    ∧ (moduleShape (wrap (injectBlock chained))).WalksLike (moduleShape chainedReread)
    ∧ (moduleShape chainedReread).KeepsLines
    ∧ ∀ n, (8 + headerLines, n) ∈ lineMap (moduleShape (wrap (injectBlock chained)))
        (moduleShape chainedReread) headerLines ↔ n = 4
  := by
  have hkinds : (moduleShape (wrap (injectBlock chained))).WalksLike (moduleShape chainedReread) := by
    decide +kernel
  have hkeeps : (moduleShape chainedReread).KeepsLines := by decide +kernel
  have hassign : ((Stmt.assign 4 [.name 4 "y"] (.name 4 "x")).shape,
      (Stmt.assign 8 [.name 8 "y"] (.name 8 "x")).shape)
      ∈ (moduleShape (wrap (injectBlock chained))).walk.zip (moduleShape chainedReread).walk := by
    apply List.mem_of_getElem? (i := 25)
    rfl
  refine ⟨print_chained, parse_chained, hkinds, hkeeps, ?_⟩
  obtain ⟨original, emitted, hs, ht, hline⟩ :=
    lineMap_takesStatements _ _ headerLines hkinds hkeeps _ _ hassign rfl
  have horiginal : original.line = 4 := by
    have hline := original.line_shape
    rw [← hs] at hline
    exact (Option.some_inj.mp hline).symm
  have hemitted : emitted.line = 8 := by
    have hline := emitted.line_shape
    rw [← ht] at hline
    exact (Option.some_inj.mp hline).symm
  rw [horiginal, hemitted] at hline
  exact hline (by decide)

end SnippetProfiler.Indented
