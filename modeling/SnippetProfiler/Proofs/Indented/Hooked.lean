import SnippetProfiler.Indented.Nesting
import SnippetProfiler.Proofs.Indented.Erasure

/-!
# Where hooks stand

A block is hooked when each of its simple statements stands in a timing statement of its own
line, behind which the names that it assigns are reported, each of them once and in the order
in which they occur first, and when the blocks of its other statements are hooked.  The block
of a function or a class may start with a documentation text, which is not timed; a function
has its hook behind its own decorators; and each pass of a `for` loop starts with reports of
the names of its target.

`injectBlock_transparent` says that the block with hooks is hooked, and that the block itself
is left when the hooks are erased.

Putting hooks into blocks takes less room on the stack than printing them, except that a chain of
conditions is printed in a loop.  So only programs with long chains of conditions can be printed but
lack the room for hooks.
-/

namespace SnippetProfiler.Indented

/-! ### Room for hooks -/

mutual

/-- What takes no more room than two other things on each level takes no more room in all. -/
theorem Shape.depth_le_add {room first second : NodeKind → NodeKind → Nat}
    (h : ∀ above kind, room above kind ≤ first above kind + second above kind) (above : NodeKind) :
  (s : Shape) → s.depth room above ≤ s.depth first above + s.depth second above
  | .node kind line children => by
      have hnode := h above kind
      have hchildren := greatestDepth_le_add h kind children
      simp only [Shape.depth]
      omega

theorem greatestDepth_le_add {room first second : NodeKind → NodeKind → Nat}
    (h : ∀ above kind, room above kind ≤ first above kind + second above kind) (above : NodeKind) :
  (ss : List Shape) → greatestDepth room above ss
    ≤ greatestDepth first above ss + greatestDepth second above ss
  | [] => Nat.zero_le _
  | s :: ss => by
      have hfirst := s.depth_le_add h above
      have hrest := greatestDepth_le_add h above ss
      simp only [greatestDepth]
      omega

end

/-- The room that is missing for a condition right below another one when it is printed in a loop. -/
def chainRoom : NodeKind → NodeKind → Nat
  | .ifElse, .ifElse => hookRoom .ifElse
  | _, _ => 0

/-- Hooks take no more room than printing, outside chains of conditions. -/
theorem hookRoom_le (above kind : NodeKind) :
  hookRoom kind ≤ printRoom above kind + chainRoom above kind
  := by
  have halone : hookRoom kind ≤ printRoomAlone kind := by
    cases kind with
    | connective op | operator op | sign op | relation op => exact Nat.le_refl 0
    | _ => decide
  rw [printRoom.eq_def]
  split
  · exact Nat.le_add_left _ _
  · exact Nat.le_trans halone (Nat.le_add_right _ _)

/-- A program that can be printed has room for its hooks, if its chains of conditions leave some. -/
theorem hasHookRoom_of_depth {program : Shape}
    (h : program.depth printRoom .module + program.depth chainRoom .module + 8 ≤ stackRoom) :
  isPrinted program = true ∧ hasHookRoom program = true
  := by
  have hdepth : program.depth (fun _ kind => hookRoom kind) .module
      ≤ program.depth printRoom .module + program.depth chainRoom .module :=
    program.depth_le_add hookRoom_le .module
  constructor
  · apply decide_eq_true
    omega
  · apply decide_eq_true
    omega

/-! ### First occurrences -/

theorem firstOccurrences_filter (p : String → Bool) (ids : List String) :
  firstOccurrences (ids.filter p) = (firstOccurrences ids).filter p
  := by
  induction ids with
  | nil => rfl
  | cons id ids ih =>
      cases hp : p id with
      | true =>
          rw [List.filter_cons_of_pos hp, firstOccurrences, firstOccurrences,
            List.filter_cons_of_pos hp, ih, List.filter_filter, List.filter_filter]
          simp only [Bool.and_comm]
      | false =>
          rw [List.filter_cons_of_neg (by simp [hp]), firstOccurrences,
            List.filter_cons_of_neg (by simp [hp]), ih, List.filter_filter]
          apply List.filter_congr
          intro k _
          by_cases hk : k = id
          · rw [hk, hp]
            rfl
          · simp [hk]

/-- The first occurrences are what is left when duplicates are erased. -/
theorem firstOccurrences_eq_eraseDups (ids : List String) :
  firstOccurrences ids = ids.eraseDups
  := by
  match ids with
  | [] => rfl
  | id :: ids =>
      rw [List.eraseDups_cons, ← firstOccurrences_eq_eraseDups, firstOccurrences_filter,
        firstOccurrences]
      congr 2
      funext k
      by_cases hk : k = id
      · simp [hk]
      · simp [hk]
  termination_by ids.length
  decreasing_by
    apply Nat.lt_succ_of_le
    apply List.length_filter_le

/-! ### Hooked blocks -/

/-- The reports of the distinct names among `ids`, at a line. -/
def reports (l : Nat) (ids : List String) : Block := ids.eraseDups.map (varHook l)

theorem varHooks_eq_reports (l : Nat) (ids : List String) :
  varHooks l ids = reports l ids
  := by
  rw [varHooks, firstOccurrences_eq_eraseDups]
  rfl

mutual

/-- A block in which each simple statement is timed and followed by its reports. -/
inductive Hooked : Block → Prop where
  | nil : Hooked []
  | simple {s : Stmt} {b : Block} (hs : s.IsSimple) (hb : Hooked b) :
      Hooked (timed s :: reports s.line s.assignedNames ++ b)
  | compound {s : Stmt} {b : Block} (hs : HookedStmt s) (hb : Hooked b) : Hooked (s :: b)

/-- A statement that is not timed itself, and whose blocks are hooked. -/
inductive HookedStmt : Stmt → Prop where
  | functionDef {l : Nat} {isAsync : Bool} {id : String} {ps : Params} {body : Block}
      {decorators : List Expr} {returns : Option Expr} (h : HookedBody body) :
      HookedStmt (.functionDef l isAsync id ps body (decorators ++ [hook l "traced"]) returns)
  | classDef {l : Nat} {id : String} {bases : List Expr} {ks : List Keyword} {body : Block}
      {decorators : List Expr} (h : HookedBody body) :
      HookedStmt (.classDef l id bases ks body decorators)
  | forIn {l : Nat} {isAsync : Bool} {target iterable : Expr} {body orelse : Block}
      (hb : Hooked body) (ho : Hooked orelse) :
      HookedStmt (.forIn l isAsync target iterable (reports l target.targetNames ++ body) orelse)
  | whileLoop {l : Nat} {test : Expr} {body orelse : Block} (hb : Hooked body)
      (ho : Hooked orelse) : HookedStmt (.whileLoop l test body orelse)
  | ifElse {l : Nat} {test : Expr} {body orelse : Block} (hb : Hooked body)
      (ho : Hooked orelse) : HookedStmt (.ifElse l test body orelse)
  | withItems {l : Nat} {isAsync : Bool} {items : List (Expr × Option Expr)} {body : Block}
      (hi : timesLine items = false) (h : Hooked body) :
      HookedStmt (.withItems l isAsync items body)
  | tryExcept {l : Nat} {isGroup : Bool} {body orelse finalbody : Block}
      {handlers : List Handler} (hb : Hooked body) (hh : ∀ k ∈ handlers, Hooked k.body)
      (ho : Hooked orelse) (hf : Hooked finalbody) :
      HookedStmt (.tryExcept l isGroup body handlers orelse finalbody)
  | matchOn {l : Nat} {subject : Expr} {cases : List Case} (h : ∀ c ∈ cases, Hooked c.body) :
      HookedStmt (.matchOn l subject cases)
  | globalNames {l : Nat} {ids : List String} : HookedStmt (.globalNames l ids)
  | nonlocalNames {l : Nat} {ids : List String} : HookedStmt (.nonlocalNames l ids)

/-- The block of a definition, in which a documentation text that comes first is not
timed. -/
inductive HookedBody : Block → Prop where
  | nil : HookedBody []
  | text {s : Stmt} {b : Block} (hs : s.isText = true) (h : Hooked b) : HookedBody (s :: b)
  | simple {s : Stmt} {b : Block} (ht : s.isText = false) (hs : s.IsSimple) (hb : Hooked b) :
      HookedBody (timed s :: reports s.line s.assignedNames ++ b)
  | compound {s : Stmt} {b : Block} (hs : HookedStmt s) (hb : Hooked b) : HookedBody (s :: b)

end

mutual

/-- A statement is simple, or it gives a single hooked statement. -/
theorem Stmt.isSimple_or_hooked (s : Stmt) (h : ¬ s.Mentions hookName) :
  s.IsSimple ∨ ∃ t, s.inject = [t] ∧ HookedStmt t
  := by
  have hblocks : ∀ b ∈ s.blocks, Avoids hookName b := fun b => avoids_of_mem_blocks h
  cases s with
  | functionDef l isAsync id ps body decorators returns =>
      simp only [Stmt.blocks, List.forall_mem_singleton] at hblocks
      right
      refine ⟨_, rfl, ?_⟩
      apply HookedStmt.functionDef
      apply hookedBody_injectBody body hblocks
  | classDef l id bases ks body decorators =>
      simp only [Stmt.blocks, List.forall_mem_singleton] at hblocks
      right
      refine ⟨_, rfl, ?_⟩
      apply HookedStmt.classDef
      apply hookedBody_injectBody body hblocks
  | forIn l isAsync target iterable body orelse =>
      simp only [Stmt.blocks, List.forall_mem_cons] at hblocks
      obtain ⟨hbody, horelse, -⟩ := hblocks
      right
      refine ⟨_, rfl, ?_⟩
      rw [varHooks_eq_reports]
      apply HookedStmt.forIn
      · apply hooked_injectBlock body hbody
      · apply hooked_injectBlock orelse horelse
  | whileLoop l test body orelse =>
      simp only [Stmt.blocks, List.forall_mem_cons] at hblocks
      obtain ⟨hbody, horelse, -⟩ := hblocks
      right
      refine ⟨_, rfl, ?_⟩
      apply HookedStmt.whileLoop
      · apply hooked_injectBlock body hbody
      · apply hooked_injectBlock orelse horelse
  | ifElse l test body orelse =>
      simp only [Stmt.blocks, List.forall_mem_cons] at hblocks
      obtain ⟨hbody, horelse, -⟩ := hblocks
      right
      refine ⟨_, rfl, ?_⟩
      apply HookedStmt.ifElse
      · apply hooked_injectBlock body hbody
      · apply hooked_injectBlock orelse horelse
  | withItems l isAsync items body =>
      simp only [Stmt.blocks, List.forall_mem_singleton] at hblocks
      right
      refine ⟨_, rfl, ?_⟩
      apply HookedStmt.withItems
      · apply timesLine_eq_false h
      · apply hooked_injectBlock body hblocks
  | tryExcept l isGroup body handlers orelse finalbody =>
      simp only [Stmt.blocks, List.cons_append, List.forall_mem_cons, List.forall_mem_append,
        List.forall_mem_map] at hblocks
      obtain ⟨hbody, hhandlers, horelse, hfinal, -⟩ := hblocks
      right
      refine ⟨_, rfl, ?_⟩
      apply HookedStmt.tryExcept
      · apply hooked_injectBlock body hbody
      · apply hooked_injectHandlers handlers hhandlers
      · apply hooked_injectBlock orelse horelse
      · apply hooked_injectBlock finalbody hfinal
  | matchOn l subject cases =>
      simp only [Stmt.blocks, List.forall_mem_map] at hblocks
      right
      refine ⟨_, rfl, ?_⟩
      apply HookedStmt.matchOn
      apply hooked_injectCases cases hblocks
  | globalNames l ids =>
      right
      exact ⟨_, rfl, .globalNames⟩
  | nonlocalNames l ids =>
      right
      exact ⟨_, rfl, .nonlocalNames⟩
  | _ =>
      left
      constructor

/-- A block with hooks is hooked. -/
theorem hooked_injectBlock (b : Block) (h : Avoids hookName b) :
  Hooked (injectBlock b)
  := by
  cases b with
  | nil => apply Hooked.nil
  | cons s b =>
      have hrest := hooked_injectBlock b h.tail
      rw [injectBlock]
      obtain hs | ⟨t, ht, hs⟩ := s.isSimple_or_hooked h.head
      · rw [inject_of_isSimple hs, varHooks_eq_reports]
        apply Hooked.simple hs hrest
      · rw [ht]
        apply Hooked.compound hs hrest

/-- The block of a definition with hooks is hooked. -/
theorem hookedBody_injectBody (b : Block) (h : Avoids hookName b) :
  HookedBody (injectBody b)
  := by
  cases b with
  | nil => apply HookedBody.nil
  | cons s b =>
      have hrest := hooked_injectBlock b h.tail
      rw [injectBody]
      cases htext : s.isText with
      | true => apply HookedBody.text htext hrest
      | false =>
          obtain hs | ⟨t, ht, hs⟩ := s.isSimple_or_hooked h.head
          · rw [inject_of_isSimple hs, varHooks_eq_reports]
            apply HookedBody.simple htext hs hrest
          · rw [ht]
            apply HookedBody.compound hs hrest

/-- The blocks of `except` clauses with hooks are hooked. -/
theorem hooked_injectHandlers (hs : List Handler) (h : ∀ k ∈ hs, Avoids hookName k.body) :
  ∀ k ∈ injectHandlers hs, Hooked k.body
  := by
  match hs with
  | [] => rintro k ⟨⟩
  | .handler l exception id body :: hs =>
      rw [List.forall_mem_cons] at h
      rw [injectHandlers, List.forall_mem_cons]
      constructor
      · apply hooked_injectBlock body h.1
      · apply hooked_injectHandlers hs h.2

/-- The blocks of `case` clauses with hooks are hooked. -/
theorem hooked_injectCases (cs : List Case) (h : ∀ c ∈ cs, Avoids hookName c.body) :
  ∀ c ∈ injectCases cs, Hooked c.body
  := by
  match cs with
  | [] => rintro c ⟨⟩
  | .case p guard body :: cs =>
      rw [List.forall_mem_cons] at h
      rw [injectCases, List.forall_mem_cons]
      constructor
      · apply hooked_injectBlock body h.1
      · apply hooked_injectCases cs h.2

end

/-! ### Transparency -/

/-- Hooks are transparent: the block with hooks is the block with its hooks where they belong
and nothing else. -/
theorem injectBlock_transparent (b : Block) (h : Avoids hookName b) :
  eraseBlock (injectBlock b) = b ∧ Hooked (injectBlock b)
  := by
  constructor
  · apply eraseBlock_injectBlock b h
  · apply hooked_injectBlock b h

/-- A loop that assigns three times to two names. -/
def sampleLoop : Stmt :=
  .whileLoop 1 (.name 1 "a")
    [.assign 2 [.tuple 2 [.name 2 "x", .name 2 "y", .name 2 "x"]] (.name 2 "a")] []

/-- The hooks of the sample loop are transparent. -/
theorem injectBlock_transparent_sampleLoop :
  eraseBlock (injectBlock [sampleLoop]) = [sampleLoop] ∧ Hooked (injectBlock [sampleLoop])
  := by
  apply injectBlock_transparent
  intro s hs hm
  obtain rfl := List.mem_singleton.mp hs
  rcases hm with _ | _ | ⟨hb, ht, h⟩
  simp only [sampleLoop, Stmt.blocks, List.mem_cons, List.not_mem_nil, or_false] at hb
  rcases hb with rfl | rfl
  · obtain rfl := List.mem_singleton.mp ht
    rcases h with _ | _ | ⟨hb, -, -⟩
    cases hb
  · cases ht

end SnippetProfiler.Indented
