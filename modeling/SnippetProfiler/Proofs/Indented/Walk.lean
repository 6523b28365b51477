import Mathlib.Tactic.Common
import SnippetProfiler.Indented.Shape

/-!
# The walk through a tree

An address says for each level of a tree which child to take.  Two nodes of a tree may look the same, but
they differ in their addresses, and what is below a node has an address that goes on from the address of
the node.

`Shape.nodes` is the walk with the addresses.  It lists each node once, and a node stands in front of
whatever is below it.

A node counts as a statement by its kind.  In the tree of a program these nodes are the trees of its
statements, and none of them lacks a line.
-/

namespace SnippetProfiler.Indented

/-! ### Addresses -/

/-- The node of a tree at an address. -/
def Shape.at? : Shape → List Nat → Option Shape
  | s, [] => some s
  | s, i :: p => s.children[i]?.bind fun c => c.at? p

/-- A node at its address. -/
structure Node where
  address : List Nat
  shape : Shape

/-- The nodes right below a node. -/
def Node.children (a : Node) : List Node := a.shape.children.mapIdx fun i s => ⟨a.address ++ [i], s⟩

/-- The nodes of `n` levels below some nodes, level by level. -/
def nodeLevels : (n : Nat) → List Node → List Node
  | 0, _ => []
  | n + 1, as => as ++ nodeLevels n (as.flatMap Node.children)

/-- The nodes of a tree, level by level. -/
def Shape.nodes (s : Shape) : List Node := nodeLevels s.height [⟨[], s⟩]

variable {s : Shape} {as : List Node} {n : Nat}

theorem mem_children {a b : Node} :
  b ∈ a.children ↔ ∃ i, b.address = a.address ++ [i] ∧ a.shape.children[i]? = some b.shape
  := by
  rw [Node.children, List.mem_mapIdx]
  constructor
  · rintro ⟨i, hi, rfl⟩
    exact ⟨i, rfl, List.getElem?_eq_getElem hi⟩
  · rintro ⟨i, haddress, hshape⟩
    obtain ⟨hi, hshape⟩ := List.getElem?_eq_some_iff.mp hshape
    obtain ⟨address, shape⟩ := b
    cases haddress
    cases hshape
    exact ⟨i, hi, rfl⟩

theorem at?_append (s : Shape) (p q : List Nat) :
  s.at? (p ++ q) = (s.at? p).bind fun c => c.at? q
  := by
  induction p generalizing s with
  | nil => rfl
  | cons i p ih =>
      rw [List.cons_append, Shape.at?, Shape.at?, Option.bind_assoc]
      congr
      funext c
      exact ih c

theorem at?_concat {p : List Nat} {c : Shape} (h : s.at? p = some c) (i : Nat) :
  s.at? (p ++ [i]) = c.children[i]?
  := by
  rw [at?_append, h, Option.bind_some, Shape.at?]
  exact Option.bind_fun_some _

/-! ### The walk lists the nodes -/

/-- Without the addresses it is the walk. -/
theorem map_shape_nodeLevels (n : Nat) (as : List Node) :
  (nodeLevels n as).map Node.shape = Shape.levels n (as.map Node.shape)
  := by
  induction n generalizing as with
  | zero => rfl
  | succ n ih =>
      have hbelow : (as.flatMap Node.children).map Node.shape
          = (as.map Node.shape).flatMap Shape.children := by
        rw [List.map_flatMap, List.flatMap_map]
        congr
        funext a
        rw [Node.children, List.mapIdx_eq_zipIdx_map, List.map_map]
        exact List.zipIdx_map_fst 0 a.shape.children
      rw [nodeLevels, Shape.levels, List.map_append, ih, hbelow]

theorem map_shape_nodes (s : Shape) :
  s.nodes.map Node.shape = s.walk
  := map_shape_nodeLevels s.height [⟨[], s⟩]

/-- Nodes that are listed stand at their addresses. -/
theorem at?_of_mem_nodeLevels (has : ∀ a ∈ as, s.at? a.address = some a.shape) :
  ∀ a ∈ nodeLevels n as, s.at? a.address = some a.shape
  := by
  induction n generalizing as with
  | zero =>
      intro a ha
      cases ha
  | succ n ih =>
      rw [nodeLevels, List.forall_mem_append]
      use has
      apply ih
      intro b hb
      obtain ⟨a, ha, hb⟩ := List.mem_flatMap.mp hb
      obtain ⟨i, haddress, hshape⟩ := mem_children.mp hb
      rw [haddress, at?_concat (has a ha), hshape]

theorem height_le_of_mem {c : Shape} {cs : List Shape} (h : c ∈ cs) :
  c.height ≤ Shape.maxHeight cs
  := by
  induction cs with
  | nil => cases h
  | cons d cs ih =>
      rw [Shape.maxHeight]
      rw [List.mem_cons] at h
      obtain rfl | h := h
      · apply Nat.le_max_left
      · apply Nat.le_trans (ih h) (Nat.le_max_right _ _)

/-- An address is shorter than the tree is high. -/
theorem length_lt_height {p : List Nat} {c : Shape} (h : s.at? p = some c) :
  p.length < s.height
  := by
  induction p generalizing s with
  | nil =>
      obtain ⟨kind, line, children⟩ := s
      rw [Shape.height]
      apply Nat.succ_pos
  | cons i p ih =>
      obtain ⟨kind, line, children⟩ := s
      obtain ⟨d, hd, hc⟩ := Option.bind_eq_some_iff.mp h
      have hle := height_le_of_mem (List.mem_of_getElem? hd)
      have hlt := ih hc
      rw [Shape.height, List.length_cons]
      simp only [Shape.children] at hle
      omega

/-- The nodes below a node are listed, as far down as the levels go. -/
theorem mem_nodeLevels {a : Node} (ha : a ∈ as) {p : List Nat} {c : Shape}
    (hc : a.shape.at? p = some c) (hp : p.length < n) :
  ⟨a.address ++ p, c⟩ ∈ nodeLevels n as
  := by
  induction n generalizing as a p with
  | zero => cases hp
  | succ n ih =>
      rw [nodeLevels, List.mem_append]
      cases p with
      | nil =>
          cases hc
          rw [List.append_nil]
          exact .inl ha
      | cons i p =>
          right
          obtain ⟨d, hd, hc⟩ := Option.bind_eq_some_iff.mp hc
          have hchild : (⟨a.address ++ [i], d⟩ : Node) ∈ as.flatMap Node.children :=
            List.mem_flatMap.mpr ⟨a, ha, mem_children.mpr ⟨i, rfl, hd⟩⟩
          have hmem := ih hchild hc (Nat.lt_of_succ_lt_succ hp)
          rw [List.append_assoc] at hmem
          exact hmem

/-- The nodes of a tree are what stands at its addresses. -/
theorem mem_nodes {a : Node} :
  a ∈ s.nodes ↔ s.at? a.address = some a.shape
  := by
  constructor
  · apply at?_of_mem_nodeLevels
    rw [List.forall_mem_singleton]
    rfl
  · intro h
    exact mem_nodeLevels List.mem_cons_self h (length_lt_height h)

/-! ### The order of the walk -/

/-- A node may stand in front of another one: it has another address, which is not longer. -/
def Node.MayPrecede (a b : Node) : Prop := a.address.length ≤ b.address.length ∧ a.address ≠ b.address

/-- A node that may stand in front of another one is not below it. -/
theorem Node.MayPrecede.not_below {a b : Node} (h : a.MayPrecede b) :
  ¬ b.address <+: a.address
  := by
  intro hbelow
  exact h.2 (hbelow.eq_of_length_le h.1).symm

/-- The addresses on the level below are longer by one. -/
theorem length_of_mem_children {m : Nat} (has : ∀ a ∈ as, a.address.length = m) :
  ∀ b ∈ as.flatMap Node.children, b.address.length = m + 1
  := by
  intro b hb
  obtain ⟨a, ha, hb⟩ := List.mem_flatMap.mp hb
  obtain ⟨i, haddress, -⟩ := mem_children.mp hb
  rw [haddress, List.length_append, has a ha, List.length_singleton]

theorem le_length_of_mem_nodeLevels {m : Nat} (has : ∀ a ∈ as, a.address.length = m) :
  ∀ a ∈ nodeLevels n as, m ≤ a.address.length
  := by
  induction n generalizing as m with
  | zero =>
      intro a ha
      cases ha
  | succ n ih =>
      rw [nodeLevels, List.forall_mem_append]
      constructor
      · intro a ha
        exact Nat.le_of_eq (has a ha).symm
      · intro a ha
        exact Nat.le_of_succ_le (ih (length_of_mem_children has) a ha)

/-- The nodes right below a node have different addresses. -/
theorem pairwise_children (a : Node) :
  a.children.Pairwise fun b c => b.address ≠ c.address
  := by
  rw [List.pairwise_iff_getElem]
  intro i j hi hj hlt heq
  simp only [Node.children, List.getElem_mapIdx, List.append_cancel_left_eq, List.cons.injEq] at heq
  omega

/-- The nodes below different nodes have different addresses. -/
theorem pairwise_flatMap_children (h : as.Pairwise fun a b => a.address ≠ b.address) :
  (as.flatMap Node.children).Pairwise fun a b => a.address ≠ b.address
  := by
  rw [List.pairwise_flatMap]
  constructor
  · intro a _
    exact pairwise_children a
  · refine h.imp ?_
    intro a b hne c hc d hd heq
    obtain ⟨i, hi, -⟩ := mem_children.mp hc
    obtain ⟨j, hj, -⟩ := mem_children.mp hd
    rw [hi, hj] at heq
    exact hne (List.append_inj' heq rfl).1

theorem pairwise_nodeLevels {m : Nat} (has : ∀ a ∈ as, a.address.length = m)
    (h : as.Pairwise fun a b => a.address ≠ b.address) :
  (nodeLevels n as).Pairwise Node.MayPrecede
  := by
  induction n generalizing as m with
  | zero => exact .nil
  | succ n ih =>
      have hbelow := length_of_mem_children has
      rw [nodeLevels, List.pairwise_append]
      refine ⟨?_, ih hbelow (pairwise_flatMap_children h), ?_⟩
      · refine h.imp_of_mem ?_
        intro a b ha hb hne
        exact ⟨Nat.le_of_eq ((has a ha).trans (has b hb).symm), hne⟩
      · intro a ha b hb
        have hlt := le_length_of_mem_nodeLevels hbelow b hb
        rw [← has a ha] at hlt
        use Nat.le_of_succ_le hlt
        intro heq
        rw [heq] at hlt
        exact Nat.not_succ_le_self _ hlt

/-- The walk goes down level by level and comes to no node twice. -/
theorem pairwise_nodes (s : Shape) :
  s.nodes.Pairwise Node.MayPrecede
  := by
  apply pairwise_nodeLevels (m := 0)
  · rw [List.forall_mem_singleton]
    rfl
  · exact List.pairwise_singleton _ _

/-! ### Statements -/

/-- Whether the nodes of a kind are statements. -/
def NodeKind.isStatement : NodeKind → Bool
  | .functionDef | .asyncFunctionDef | .classDef | .ret | .delete | .assign | .augAssign | .annAssign
  | .forIn | .asyncFor | .whileLoop | .ifElse | .withItems | .asyncWith | .matchOn | .raise | .tryExcept
  | .tryGroup | .assert | .importNames | .importFrom | .globalNames | .nonlocalNames | .expression | .pass
  | .break | .continue => true
  | _ => false

/-- The nodes of a tree that count as statements are trees of statements. -/
def Shape.IsGenuine (s : Shape) : Prop :=
  ∀ p a, s.at? p = some a → a.kind.isStatement = true → ∃ x : Stmt, a = x.shape

/-- The trees are genuine. -/
def AreGenuine (ss : List Shape) : Prop := ∀ s ∈ ss, s.IsGenuine

@[simp]
theorem areGenuine_nil :
  AreGenuine []
  := List.forall_mem_nil _

@[simp]
theorem areGenuine_cons {s : Shape} {ss : List Shape} :
  AreGenuine (s :: ss) ↔ s.IsGenuine ∧ AreGenuine ss
  := List.forall_mem_cons

@[simp]
theorem areGenuine_append {ss ts : List Shape} :
  AreGenuine (ss ++ ts) ↔ AreGenuine ss ∧ AreGenuine ts
  := List.forall_mem_append

theorem areGenuine_toList_map {α : Type} {f : α → Shape} (hf : ∀ x, (f x).IsGenuine) (x : Option α) :
  AreGenuine (x.map f).toList
  := by
  cases x with
  | none => exact areGenuine_nil
  | some x => exact areGenuine_cons.mpr ⟨hf x, areGenuine_nil⟩

theorem areGenuine_map {α : Type} {f : α → Shape} (hf : ∀ x, (f x).IsGenuine) (xs : List α) :
  AreGenuine (xs.map f)
  := List.forall_mem_map.mpr fun x _ => hf x

/-- A tree is genuine if its root and the trees below are. -/
theorem isGenuine_iff {s : Shape} :
  s.IsGenuine ↔ (s.kind.isStatement = true → ∃ x : Stmt, s = x.shape) ∧ AreGenuine s.children
  := by
  constructor
  · intro h
    use h [] s rfl
    intro c hc p a ha
    obtain ⟨i, hi⟩ := List.mem_iff_getElem?.mp hc
    apply h (i :: p)
    rw [Shape.at?, hi]
    exact ha
  · rintro ⟨hroot, hbelow⟩ p a ha
    cases p with
    | nil =>
        cases ha
        exact hroot
    | cons i p =>
        obtain ⟨c, hc, ha⟩ := Option.bind_eq_some_iff.mp ha
        exact hbelow c (List.mem_of_getElem? hc) p a ha

theorem isGenuine_node {kind : NodeKind} {line : Option Nat} {cs : List Shape} :
  (Shape.node kind line cs).IsGenuine
    ↔ (kind.isStatement = true → ∃ x : Stmt, .node kind line cs = x.shape) ∧ AreGenuine cs
  := isGenuine_iff

@[simp]
theorem isGenuine_use (ctx : Context) :
  ctx.shape.IsGenuine
  := by
  cases ctx with
  | load => exact isGenuine_node.mpr ⟨nofun, areGenuine_nil⟩
  | store => exact isGenuine_node.mpr ⟨nofun, areGenuine_nil⟩
  | del => exact isGenuine_node.mpr ⟨nofun, areGenuine_nil⟩

@[simp]
theorem isGenuine_name (x : Name) :
  x.shape.IsGenuine
  := isGenuine_node.mpr ⟨nofun, areGenuine_nil⟩

/-! ### Expressions and patterns -/

mutual

theorem Expr.isGenuine_shape (ctx : Context) (e : Expr) :
  (e.shape ctx).IsGenuine
  := by
  -- the root is no statement, so it is the parts that count
  cases e <;> simp [Expr.shape, isGenuine_node, NodeKind.isStatement, Shape.leaf, areGenuine_map,
    areGenuine_toList_map, Expr.isGenuine_shape, areGenuine_optionalShape, areGenuine_exprShapes,
    areGenuine_optionalShapes, areGenuine_keywordShapes, areGenuine_clauseShapes]

theorem areGenuine_optionalShape (e : Option Expr) :
  AreGenuine (optionalShape e)
  := by
  cases e with
  | none => exact areGenuine_nil
  | some e => simp [optionalShape, e.isGenuine_shape]

theorem areGenuine_exprShapes (ctx : Context) (es : List Expr) :
  AreGenuine (exprShapes ctx es)
  := by
  cases es with
  | nil => exact areGenuine_nil
  | cons e es => simp [exprShapes, e.isGenuine_shape, areGenuine_exprShapes ctx es]

theorem areGenuine_optionalShapes (es : List (Option Expr)) :
  AreGenuine (optionalShapes es)
  := by
  cases es with
  | nil => exact areGenuine_nil
  | cons e es => simp [optionalShapes, areGenuine_optionalShape e, areGenuine_optionalShapes es]

theorem areGenuine_keywordShapes (ks : List Keyword) :
  AreGenuine (keywordShapes ks)
  := by
  match ks with
  | [] => exact areGenuine_nil
  | .keyword _ _ value :: ks =>
      simp [keywordShapes, isGenuine_node, NodeKind.isStatement, value.isGenuine_shape,
        areGenuine_keywordShapes ks]

theorem areGenuine_clauseShapes (cs : List Clause) :
  AreGenuine (clauseShapes cs)
  := by
  match cs with
  | [] => exact areGenuine_nil
  | .clause _ target iterable conditions :: cs =>
      simp [clauseShapes, isGenuine_node, NodeKind.isStatement, target.isGenuine_shape,
        iterable.isGenuine_shape, areGenuine_exprShapes _ conditions, areGenuine_clauseShapes cs]

end

theorem isGenuine_param (x : Param) :
  x.shape.IsGenuine
  := isGenuine_node.mpr ⟨nofun, areGenuine_optionalShape x.note⟩

theorem isGenuine_params (ps : Params) :
  ps.shape.IsGenuine
  := by
  simp [Params.shape, isGenuine_node, NodeKind.isStatement, areGenuine_map, areGenuine_toList_map,
    isGenuine_param, areGenuine_optionalShapes, areGenuine_exprShapes]

theorem isGenuine_alias (a : Alias) :
  a.shape.IsGenuine
  := isGenuine_node.mpr ⟨nofun, areGenuine_nil⟩

mutual

theorem Pattern.isGenuine_shape (p : Pattern) :
  p.shape.IsGenuine
  := by
  cases p with
  | capture _ inner _ =>
      cases inner with
      | none => simp [Pattern.shape, isGenuine_node, NodeKind.isStatement]
      | some p => simp [Pattern.shape, isGenuine_node, NodeKind.isStatement, p.isGenuine_shape]
  | _ => simp [Pattern.shape, isGenuine_node, NodeKind.isStatement, Expr.isGenuine_shape,
      areGenuine_exprShapes, areGenuine_patternShapes]

theorem areGenuine_patternShapes (ps : List Pattern) :
  AreGenuine (patternShapes ps)
  := by
  cases ps with
  | nil => exact areGenuine_nil
  | cons p ps => simp [patternShapes, p.isGenuine_shape, areGenuine_patternShapes ps]

end

theorem isGenuine_context (item : Expr × Option Expr) :
  (contextShape item).IsGenuine
  := by
  simp [contextShape, isGenuine_node, NodeKind.isStatement, areGenuine_toList_map, Expr.isGenuine_shape]

/-! ### Blocks -/

theorem Stmt.line_shape (x : Stmt) :
  x.shape.line = some x.line
  := by
  cases x <;> rfl

theorem Stmt.isGenuine_of_children {x : Stmt} (h : AreGenuine x.shape.children) :
  x.shape.IsGenuine
  := isGenuine_iff.mpr ⟨fun _ => ⟨x, rfl⟩, h⟩

mutual

theorem Stmt.isGenuine_shape (x : Stmt) :
  x.shape.IsGenuine
  := by
  apply Stmt.isGenuine_of_children
  cases x <;> simp [Stmt.shape, Shape.children, Shape.leaf, isGenuine_node, NodeKind.isStatement,
    areGenuine_map, isGenuine_params, isGenuine_alias, isGenuine_context, Expr.isGenuine_shape,
    areGenuine_optionalShape, areGenuine_exprShapes, areGenuine_keywordShapes, areGenuine_blockShapes,
    areGenuine_handlerShapes, areGenuine_caseShapes]

theorem areGenuine_blockShapes (body : Block) :
  AreGenuine (blockShapes body)
  := by
  cases body with
  | nil => exact areGenuine_nil
  | cons x body => simp [blockShapes, x.isGenuine_shape, areGenuine_blockShapes body]

theorem areGenuine_handlerShapes (hs : List Handler) :
  AreGenuine (handlerShapes hs)
  := by
  match hs with
  | [] => exact areGenuine_nil
  | .handler _ exception _ body :: hs =>
      simp [handlerShapes, isGenuine_node, NodeKind.isStatement, areGenuine_optionalShape exception,
        areGenuine_blockShapes body, areGenuine_handlerShapes hs]

theorem areGenuine_caseShapes (cs : List Case) :
  AreGenuine (caseShapes cs)
  := by
  match cs with
  | [] => exact areGenuine_nil
  | .case p guard body :: cs =>
      simp [caseShapes, isGenuine_node, NodeKind.isStatement, p.isGenuine_shape,
        areGenuine_optionalShape guard, areGenuine_blockShapes body, areGenuine_caseShapes cs]

end

/-- The nodes of a program that count as statements are trees of statements. -/
theorem moduleShape_isGenuine (body : Block) :
  (moduleShape body).IsGenuine
  := isGenuine_node.mpr ⟨nofun, areGenuine_blockShapes body⟩

end SnippetProfiler.Indented
