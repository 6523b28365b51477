import Mathlib
import SnippetProfiler.Metrics.Dot
import SnippetProfiler.Proofs.Json.Scalars
import SnippetProfiler.Proofs.Metrics.Calls

/-!
# Drawings of call graphs can be read back

A drawing declares nodes and draws edges between numbers.  Whoever reads it looks up the names of
the ends of an edge among the declarations, and the count of its calls at the beginning of its label.
The nodes of a graph of calls are different, and have the ends of all edges among them; so its
drawing numbers them in order, an edge gives no number to a new name, and the reader finds the nodes
and edges of the graph.
-/

namespace SnippetProfiler.Dot

/-! ### Reading drawings -/

/-- A node as it is declared: its number, its name, and whether it has the colour of the root. -/
structure Declaration where
  id : ℕ
  name : String
  isRoot : Bool
  deriving DecidableEq, Repr

/-- The node that a statement declares. -/
def Statement.declaration? : Statement → Option Declaration
  | .node id label isRoot => some ⟨id, label, isRoot⟩
  | .edge .. => none

/-- An edge as it is drawn: the numbers of its ends, and its label. -/
structure Stroke where
  source : ℕ
  target : ℕ
  label : String
  deriving DecidableEq, Repr

/-- The edge that a statement draws. -/
def Statement.stroke? : Statement → Option Stroke
  | .node .. => none
  | .edge source target label => some ⟨source, target, label⟩

/-- The nodes that statements declare. -/
def declarations (statements : List Statement) : List Declaration :=
  statements.filterMap Statement.declaration?

/-- The edges that statements draw. -/
def strokes (statements : List Statement) : List Stroke := statements.filterMap Statement.stroke?

/-- The name that is declared with a number. -/
def nameOf? (statements : List Statement) (id : ℕ) : Option String :=
  ((declarations statements).find? (·.id = id)).map (·.name)

/-- The number at the beginning of a label. -/
def countOf (label : String) : ℕ := Decimal.ofDigits (label.toList.takeWhile Char.isDigit)

/-- What a reader finds in a drawing: the names of the nodes, and for each edge the names of its ends
and its count. -/
def readBack (statements : List Statement) :
    List String × List (Option String × Option String × ℤ) :=
  ((declarations statements).map (·.name), (strokes statements).map fun s =>
    (nameOf? statements s.source, nameOf? statements s.target, (countOf s.label : ℤ)))

/-- Statements that draw a graph. -/
structure Encodes (statements : List Statement) (g : CallGraph Float) : Prop where
  /-- Each node is declared, in order, with the numbers 0, 1, 2 and so on; the root alone has its
  colour. -/
  declared : declarations statements
    = g.nodes.zipIdx.map fun (name, id) => ⟨id, name, name = rootNode⟩
  /-- No name is declared twice. -/
  nodup : ((declarations statements).map (·.name)).Nodup
  /-- Each edge is drawn, in order, between the numbers of its ends and with its count. -/
  drawn : List.Forall₂
    (fun (e : CallEdge Float) (s : Stroke) => nameOf? statements s.source = some e.source ∧
      nameOf? statements s.target = some e.target ∧ (countOf s.label : ℤ) = e.callCount)
    g.edges (strokes statements)
  /-- No two edges are drawn between the same numbers. -/
  distinct : ((strokes statements).map fun s => (s.source, s.target)).Nodup
  /-- The graph can be read back. -/
  read : readBack statements
    = (g.nodes, g.edges.map fun e => (some e.source, some e.target, e.callCount))

/-! ### Numbers of names -/

theorem numberOf_of_mem {names : List String} {name : String} (h : name ∈ names) :
  numberOf names name = (names.idxOf name, names)
  := by
  have hfind : names.findIdx? (· = name) = some (names.idxOf name) :=
    List.findIdx?_eq_some_iff_findIdx_eq.mpr ⟨List.idxOf_lt_length_of_mem h, rfl⟩
  rw [numberOf, hfind]

theorem numberOf_of_notMem {names : List String} {name : String} (h : name ∉ names) :
  numberOf names name = (names.length, names ++ [name])
  := by
  have hfind : names.findIdx? (· = name) = none := by
    rw [List.findIdx?_eq_none_iff]
    rintro other hother
    rw [decide_eq_false_iff_not]
    rintro rfl
    exact h hother
  rw [numberOf, hfind]

/-- New names are numbered one after another. -/
theorem nodeStatements_eq {names rest : List String} (h : (names ++ rest).Nodup) :
  nodeStatements names rest
    = ((rest.zipIdx names.length).map fun (name, id) => .node id name (name = rootNode),
        names ++ rest)
  := by
  induction rest generalizing names with
  | nil => rw [nodeStatements, List.append_nil, List.zipIdx_nil, List.map_nil]
  | cons name rest ih =>
      have hnew : name ∉ names := fun hname =>
        (List.nodup_append.mp h).2.2 name hname name List.mem_cons_self rfl
      rw [List.append_cons] at h ⊢
      rw [nodeStatements, numberOf_of_notMem hnew]
      simp only
      rw [ih h, List.length_append, List.length_singleton, List.zipIdx_cons, List.map_cons]

/-- An edge between names that have numbers gives none to a new name. -/
theorem edgeStatements_eq {names : List String} {edges : List (CallEdge Float)}
    (h : ∀ e ∈ edges, e.source ∈ names ∧ e.target ∈ names) :
  edgeStatements names edges
    = edges.map fun e => .edge (names.idxOf e.source) (names.idxOf e.target) (edgeLabel e)
  := by
  induction edges with
  | nil => rfl
  | cons e edges ih =>
      obtain ⟨hsource, htarget⟩ := h e List.mem_cons_self
      rw [edgeStatements, numberOf_of_mem hsource]
      simp only
      rw [numberOf_of_mem htarget]
      simp only
      rw [ih fun e he => h e (List.mem_cons_of_mem _ he), List.map_cons]

/-! ### Labels -/

/-- The label of an edge begins with its count. -/
theorem countOf_edgeLabel {e : CallEdge Float} (h : 0 ≤ e.callCount) :
  (countOf (edgeLabel e) : ℤ) = e.callCount
  := by
  have hinteger : (Decimal.integer e.callCount).toList = Decimal.digits e.callCount.natAbs := by
    rw [Decimal.integer, if_neg (not_lt.mpr h), String.toList_ofList]
  have hdigits : ∀ c ∈ Decimal.digits e.callCount.natAbs, c.isDigit = true := fun c hc =>
    Json.isDigit_of_mem_digits hc
  have htake : (edgeLabel e).toList.takeWhile Char.isDigit = Decimal.digits e.callCount.natAbs := by
    rw [edgeLabel, String.toList_append, String.toList_append, String.toList_append, hinteger,
      List.append_assoc, List.append_assoc, List.takeWhile_append_of_pos hdigits]
    apply List.append_nil
  rw [countOf, htake, Json.ofDigits_digits, Int.natCast_natAbs, abs_of_nonneg h]

/-! ### Closed graphs -/

/-- A graph whose nodes are different and have the ends of the edges among them. -/
structure IsClosed (g : CallGraph Float) : Prop where
  nodes : g.nodes.Nodup
  ends : ∀ e ∈ g.edges, e.source ∈ g.nodes ∧ e.target ∈ g.nodes
  edges : (g.edges.map fun e => (e.source, e.target)).Nodup
  counts : ∀ e ∈ g.edges, 0 ≤ e.callCount

theorem isClosed_callGraph (calls : List (FunctionCall Float)) :
  IsClosed (callGraph calls)
  := by
  constructor
  · rw [nodes_callGraph]
    apply nodup_eraseDups
  · intro e he
    constructor
    · exact (mem_nodes_iff calls e.source).mpr (.inr ⟨e, he, .inl rfl⟩)
    · exact (mem_nodes_iff calls e.target).mpr (.inr ⟨e, he, .inr rfl⟩)
  · apply nodup_edges
  · intro e he
    obtain ⟨t, -, rfl⟩ := List.mem_map.mp he
    exact Int.natCast_nonneg t.count

section Closed

variable {g : CallGraph Float} (h : IsClosed g)
include h

/-- The drawing of a closed graph: its nodes with their places, and its edges between them. -/
theorem IsClosed.drawing_eq :
  drawing g = (g.nodes.zipIdx.map fun (name, id) => .node id name (name = rootNode))
    ++ g.edges.map fun e => .edge (g.nodes.idxOf e.source) (g.nodes.idxOf e.target) (edgeLabel e)
  := by
  rw [drawing, nodeStatements_eq (by rw [List.nil_append]; exact h.nodes)]
  simp only [List.nil_append, List.length_nil]
  rw [edgeStatements_eq h.ends]

theorem IsClosed.declarations_eq :
  declarations (drawing g) = g.nodes.zipIdx.map fun (name, id) => ⟨id, name, name = rootNode⟩
  := by
  rw [declarations, h.drawing_eq, List.filterMap_append, List.filterMap_map, List.filterMap_map]
  have hnodes : Statement.declaration? ∘ (fun (name, id) => .node id name (name = rootNode))
      = fun p : String × ℕ => some ⟨p.2, p.1, p.1 = rootNode⟩ := rfl
  have hedges : Statement.declaration? ∘ (fun e : CallEdge Float =>
      .edge (g.nodes.idxOf e.source) (g.nodes.idxOf e.target) (edgeLabel e)) = fun _ => none := rfl
  rw [hnodes, hedges, List.filterMap_none, List.append_nil, List.filterMap_eq_map']

theorem IsClosed.strokes_eq :
  strokes (drawing g)
    = g.edges.map fun e => ⟨g.nodes.idxOf e.source, g.nodes.idxOf e.target, edgeLabel e⟩
  := by
  rw [strokes, h.drawing_eq, List.filterMap_append, List.filterMap_map, List.filterMap_map]
  have hnodes : Statement.stroke? ∘ (fun (name, id) => .node id name (name = rootNode))
      = fun _ : String × ℕ => none := rfl
  have hedges : Statement.stroke? ∘ (fun e : CallEdge Float =>
      .edge (g.nodes.idxOf e.source) (g.nodes.idxOf e.target) (edgeLabel e))
        = fun e => some ⟨g.nodes.idxOf e.source, g.nodes.idxOf e.target, edgeLabel e⟩ := rfl
  rw [hnodes, hedges, List.filterMap_none, List.nil_append, List.filterMap_eq_map']

/-- A node is declared with its place. -/
theorem IsClosed.nameOf?_idxOf {name : String} (hname : name ∈ g.nodes) :
  nameOf? (drawing g) (g.nodes.idxOf name) = some name
  := by
  have hplace : (name, g.nodes.idxOf name) ∈ g.nodes.zipIdx := by
    rw [List.mem_zipIdx_iff_getElem?]
    exact List.getElem?_idxOf hname
  have hunique : ∀ p ∈ g.nodes.zipIdx, p.2 = g.nodes.idxOf name → p.1 = name := by
    rintro ⟨other, id⟩ hp rfl
    rw [List.mem_zipIdx_iff_getElem?, List.getElem?_idxOf hname] at hp
    exact (Option.some.inj hp).symm
  rw [nameOf?, h.declarations_eq, List.find?_map, Option.map_map]
  cases hfind : g.nodes.zipIdx.find? _ with
  | none =>
      have hnone := List.find?_eq_none.mp hfind _ hplace
      simp at hnone
  | some p =>
      have hid := List.find?_some hfind
      have hname' := hunique p (List.mem_of_find?_eq_some hfind) (of_decide_eq_true hid)
      exact congrArg some hname'

/-- What is drawn for an edge is read as the edge. -/
theorem IsClosed.read_edge {e : CallEdge Float} (he : e ∈ g.edges) :
  nameOf? (drawing g) (g.nodes.idxOf e.source) = some e.source ∧
    nameOf? (drawing g) (g.nodes.idxOf e.target) = some e.target ∧
    (countOf (edgeLabel e) : ℤ) = e.callCount
  := by
  obtain ⟨hsource, htarget⟩ := h.ends e he
  exact ⟨h.nameOf?_idxOf hsource, h.nameOf?_idxOf htarget, countOf_edgeLabel (h.counts e he)⟩

/-- A closed graph is encoded by its drawing. -/
theorem IsClosed.encodes :
  Encodes (drawing g) g
  := by
  have hnames : (declarations (drawing g)).map (·.name) = g.nodes := by
    rw [h.declarations_eq, List.map_map]
    exact List.zipIdx_map_fst 0 g.nodes
  constructor
  case declared => exact h.declarations_eq
  case nodup =>
    rw [hnames]
    exact h.nodes
  case drawn =>
    rw [h.strokes_eq, List.forall₂_map_right_iff, List.forall₂_same]
    exact fun e he => h.read_edge he
  case distinct =>
    -- different ends have different places
    rw [h.strokes_eq, List.map_map]
    apply List.Nodup.of_map fun ids : ℕ × ℕ => (nameOf? (drawing g) ids.1, nameOf? (drawing g) ids.2)
    have hends : (g.edges.map fun e => (some e.source, some e.target)).Nodup := by
      have hmap := h.edges.map (f := fun p : String × String => (some p.1, some p.2))
        fun p q hpq => by simpa [Prod.ext_iff] using hpq
      rwa [List.map_map] at hmap
    rw [List.map_map]
    convert hends using 1
    apply List.map_congr_left
    intro e he
    obtain ⟨hsource, htarget, -⟩ := h.read_edge he
    exact Prod.ext hsource htarget
  case read =>
    rw [readBack, hnames, h.strokes_eq, List.map_map]
    congr 1
    apply List.map_congr_left
    intro e he
    obtain ⟨hsource, htarget, hcount⟩ := h.read_edge he
    exact Prod.ext hsource (Prod.ext htarget hcount)

end Closed

/-- The drawing of the graph of any calls encodes the graph: its nodes with their numbers, and its
edges with their ends and counts. -/
theorem drawing_encodes (calls : List (FunctionCall Float)) :
  Encodes (drawing (callGraph calls)) (callGraph calls)
  := (isClosed_callGraph calls).encodes

end SnippetProfiler.Dot
