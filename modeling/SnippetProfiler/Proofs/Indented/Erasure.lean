import Mathlib.Tactic.Common
import SnippetProfiler.Indented.Inject

/-!
# Hooks can be erased

The hooks of a program are its timing `with` statements, the calls that report the values of
names, and the decorators behind those of functions.  `eraseBlock` takes them out of a block.

* `eraseBlock_injectBlock`: erasing the hooks of `injectBlock b` gives `b` back.
* `hooked_injectBlock`: in `injectBlock b` each simple statement stands in a timing statement
  of its own line and is followed by the reports of the names that it assigns, each of them
  once; only the documentation texts of definitions are not timed.
-/

namespace SnippetProfiler.Indented

/-! ### Erasing hooks -/

/-- Whether an expression is the hook `member`. -/
def Expr.isHook (member : String) : Expr → Bool
  | .attribute _ (.name _ id) m => id = hookName && m = member
  | _ => false

/-- Whether an expression is a call of the hook `member`. -/
def Expr.isHookCall (member : String) : Expr → Bool
  | .call _ f _ _ => f.isHook member
  | _ => false

/-- Whether the items of a `with` statement time a line. -/
def timesLine : List (Expr × Option Expr) → Bool
  | [(e, none)] => e.isHookCall "line"
  | _ => false

/-- Decorators without the last one, if that is a hook. -/
def untraced (decorators : List Expr) : List Expr :=
  match decorators.getLast? with
  | some d => if d.isHook "traced" then decorators.dropLast else decorators
  | none => decorators

mutual

/-- A statement without its hooks; there is nothing left of a report. -/
def Stmt.erase : Stmt → List Stmt
  | .functionDef l isAsync id ps body decorators returns =>
    [.functionDef l isAsync id ps (eraseBlock body) (untraced decorators) returns]
  | .classDef l id bases ks body decorators => [.classDef l id bases ks (eraseBlock body) decorators]
  | .forIn l isAsync target iterable body orelse =>
    [.forIn l isAsync target iterable (eraseBlock body) (eraseBlock orelse)]
  | .whileLoop l test body orelse => [.whileLoop l test (eraseBlock body) (eraseBlock orelse)]
  | .ifElse l test body orelse => [.ifElse l test (eraseBlock body) (eraseBlock orelse)]
  | .withItems l isAsync items body =>
    if timesLine items then eraseBlock body else [.withItems l isAsync items (eraseBlock body)]
  | .tryExcept l isGroup body handlers orelse finalbody =>
    [.tryExcept l isGroup (eraseBlock body) (eraseHandlers handlers) (eraseBlock orelse)
      (eraseBlock finalbody)]
  | .matchOn l subject cases => [.matchOn l subject (eraseCases cases)]
  | .expression l e => if e.isHookCall "var" then [] else [.expression l e]
  | s => [s]

/-- A block without its hooks. -/
def eraseBlock : List Stmt → List Stmt
  | [] => []
  | s :: ss => s.erase ++ eraseBlock ss

/-- `except` clauses without their hooks. -/
def eraseHandlers : List Handler → List Handler
  | [] => []
  | .handler l exception id body :: hs => .handler l exception id (eraseBlock body) :: eraseHandlers hs

/-- `case` clauses without their hooks. -/
def eraseCases : List Case → List Case
  | [] => []
  | .case p guard body :: cs => .case p guard (eraseBlock body) :: eraseCases cs

end

/-! ### Programs that do not mention a name -/

/-- The block of an `except` clause. -/
def Handler.body : Handler → Block
  | .handler _ _ _ body => body

/-- The block of a `case` clause. -/
def Case.body : Case → Block
  | .case _ _ body => body

/-- The blocks of a statement. -/
def Stmt.blocks : Stmt → List Block
  | .functionDef _ _ _ _ body _ _ | .classDef _ _ _ _ body _ | .withItems _ _ _ body => [body]
  | .forIn _ _ _ _ body orelse | .whileLoop _ _ body orelse | .ifElse _ _ body orelse => [body, orelse]
  | .tryExcept _ _ body handlers orelse finalbody =>
    body :: handlers.map Handler.body ++ [orelse, finalbody]
  | .matchOn _ _ cases => cases.map Case.body
  | _ => []

/-- A statement that stands in a block, at any depth. -/
inductive Stmt.StandsIn (s : Stmt) : Block → Prop where
  | here {b : Block} (h : s ∈ b) : StandsIn s b
  | inside {t : Stmt} {b c : Block} (ht : t ∈ b) (hc : c ∈ t.blocks) (h : StandsIn s c) :
      StandsIn s b

/-- An expression that is a name, a member of what mentions the name, or a call of it. -/
inductive Expr.Mentions (id : String) : Expr → Prop where
  | name {l : Nat} : Mentions id (.name l id)
  | attribute {l : Nat} {e : Expr} {member : String} (h : Mentions id e) :
      Mentions id (.attribute l e member)
  | call {l : Nat} {f : Expr} {args : List Expr} {ks : List Keyword} (h : Mentions id f) :
      Mentions id (.call l f args ks)

/-- A statement that mentions a name: in the expression that it is, in what it enters, or in
one of its blocks.  A name that is mentioned anywhere else does no harm. -/
inductive Stmt.Mentions (id : String) : Stmt → Prop where
  | value {l : Nat} {e : Expr} (h : e.Mentions id) : Mentions id (.expression l e)
  | item {l : Nat} {isAsync : Bool} {items : List (Expr × Option Expr)} {body : Block}
      {e : Expr} {v : Option Expr} (hi : (e, v) ∈ items) (h : e.Mentions id) :
      Mentions id (.withItems l isAsync items body)
  | inner {s t : Stmt} {b : Block} (hb : b ∈ s.blocks) (ht : t ∈ b) (h : Mentions id t) :
      Mentions id s

/-- A block that does not mention a name. -/
def Avoids (id : String) (b : Block) : Prop := ∀ s ∈ b, ¬ s.Mentions id

theorem Avoids.head {id : String} {s : Stmt} {b : Block} (h : Avoids id (s :: b)) :
  ¬ s.Mentions id
  := h s (List.mem_cons_self ..)

theorem Avoids.tail {id : String} {s : Stmt} {b : Block} (h : Avoids id (s :: b)) :
  Avoids id b
  := fun t ht => h t (List.mem_cons_of_mem _ ht)

/-- The blocks of a statement that does not mention a name do not mention it. -/
theorem avoids_of_mem_blocks {id : String} {s : Stmt} {b : Block} (h : ¬ s.Mentions id)
    (hb : b ∈ s.blocks) :
  Avoids id b
  := fun _ ht hm => h (.inner hb ht hm)

theorem mentions_of_isHook {e : Expr} {member : String} (h : e.isHook member = true) :
  e.Mentions hookName
  := by
  simp only [Expr.isHook] at h
  split at h
  · rw [Bool.and_eq_true, decide_eq_true_eq] at h
    obtain ⟨rfl, -⟩ := h
    apply Expr.Mentions.attribute
    apply Expr.Mentions.name
  · cases h

/-- A call of a hook mentions the name of the hooks. -/
theorem mentions_of_isHookCall {e : Expr} {member : String} (h : e.isHookCall member = true) :
  e.Mentions hookName
  := by
  cases e with
  | call l f args ks =>
      apply Expr.Mentions.call
      apply mentions_of_isHook h
  | _ => cases h

/-- The items of a `with` statement that does not mention the name of the hooks do not time a
line. -/
theorem timesLine_eq_false {l : Nat} {isAsync : Bool} {items : List (Expr × Option Expr)}
    {body : Block} (h : ¬ (Stmt.withItems l isAsync items body).Mentions hookName) :
  timesLine items = false
  := by
  by_contra ht
  rw [Bool.not_eq_false] at ht
  match items, h, ht with
  | [(e, none)], h, ht =>
      apply h
      apply Stmt.Mentions.item (List.mem_cons_self ..)
      apply mentions_of_isHookCall ht

/-! ### Simple statements -/

/-- The statements that are timed. -/
inductive Stmt.IsSimple : Stmt → Prop where
  | expression {l : Nat} {e : Expr} : IsSimple (.expression l e)
  | assign {l : Nat} {targets : List Expr} {value : Expr} : IsSimple (.assign l targets value)
  | augAssign {l : Nat} {target : Expr} {op : BinaryOp} {value : Expr} :
      IsSimple (.augAssign l target op value)
  | annAssign {l : Nat} {target note : Expr} {value : Option Expr} {simple : Bool} :
      IsSimple (.annAssign l target note value simple)
  | ret {l : Nat} {value : Option Expr} : IsSimple (.ret l value)
  | raise {l : Nat} {exception cause : Option Expr} : IsSimple (.raise l exception cause)
  | assert {l : Nat} {test : Expr} {message : Option Expr} : IsSimple (.assert l test message)
  | delete {l : Nat} {targets : List Expr} : IsSimple (.delete l targets)
  | importNames {l : Nat} {names : List Alias} : IsSimple (.importNames l names)
  | importFrom {l : Nat} {module : Option String} {names : List Alias} {level : Nat} :
      IsSimple (.importFrom l module names level)
  | break {l : Nat} : IsSimple (.break l)
  | continue {l : Nat} : IsSimple (.continue l)
  | pass {l : Nat} : IsSimple (.pass l)

/-- A simple statement is timed, and the names that it assigns are reported. -/
theorem inject_of_isSimple {s : Stmt} (h : s.IsSimple) :
  s.inject = timed s :: varHooks s.line s.assignedNames
  := by
  cases h with
  | _ => rfl

/-- A simple statement that does not mention the name of the hooks has no hooks. -/
theorem erase_of_isSimple {s : Stmt} (hs : s.IsSimple) (h : ¬ s.Mentions hookName) :
  s.erase = [s]
  := by
  cases hs with
  | @expression l e =>
      have he : e.isHookCall "var" = false := by
        by_contra hc
        apply h
        apply Stmt.Mentions.value
        apply mentions_of_isHookCall (Bool.of_not_eq_false hc)
      rw [Stmt.erase, he]
      rfl
  | _ => rfl

/-- A documentation text has no hooks. -/
theorem erase_of_isText {s : Stmt} (h : s.isText = true) :
  s.erase = [s]
  := by
  simp only [Stmt.isText] at h
  split at h
  · rfl
  · cases h

/-! ### Hooks are erased -/

theorem eraseBlock_append (a b : Block) :
  eraseBlock (a ++ b) = eraseBlock a ++ eraseBlock b
  := by
  induction a with
  | nil => rfl
  | cons s a ih => rw [List.cons_append, eraseBlock, eraseBlock, ih, List.append_assoc]

/-- Nothing is left of reports. -/
theorem eraseBlock_varHooks (l : Nat) (ids : List String) :
  eraseBlock (varHooks l ids) = []
  := by
  rw [varHooks]
  induction firstOccurrences ids with
  | nil => rfl
  | cons id ids ih =>
      rw [List.map_cons, eraseBlock, ih]
      rfl

/-- What is left of a timing statement is what is left of the timed one. -/
theorem erase_timed (s : Stmt) :
  (timed s).erase = s.erase
  := by
  have h : (timed s).erase = eraseBlock [s] := rfl
  rw [h, eraseBlock, eraseBlock, List.append_nil]

theorem untraced_concat (l : Nat) (decorators : List Expr) :
  untraced (decorators ++ [hook l "traced"]) = decorators
  := by
  rw [untraced, List.getLast?_concat]
  exact List.dropLast_concat

/-- The hooks of a simple statement are erased. -/
theorem eraseBlock_inject_of_isSimple {s : Stmt} (hs : s.IsSimple) (h : ¬ s.Mentions hookName) :
  eraseBlock s.inject = [s]
  := by
  rw [inject_of_isSimple hs, eraseBlock, erase_timed, erase_of_isSimple hs h, eraseBlock_varHooks]
  rfl

mutual

/-- The hooks of a statement are erased. -/
theorem Stmt.eraseBlock_inject (s : Stmt) (h : ¬ s.Mentions hookName) :
  eraseBlock s.inject = [s]
  := by
  have hblocks : ∀ b ∈ s.blocks, Avoids hookName b := fun b => avoids_of_mem_blocks h
  cases s with
  | functionDef l isAsync id ps body decorators returns =>
      simp only [Stmt.blocks, List.forall_mem_singleton] at hblocks
      simp only [Stmt.inject, eraseBlock, Stmt.erase, untraced_concat,
        eraseBlock_injectBody body hblocks, List.append_nil]
  | classDef l id bases ks body decorators =>
      simp only [Stmt.blocks, List.forall_mem_singleton] at hblocks
      simp only [Stmt.inject, eraseBlock, Stmt.erase, eraseBlock_injectBody body hblocks,
        List.append_nil]
  | forIn l isAsync target iterable body orelse =>
      simp only [Stmt.blocks, List.forall_mem_cons] at hblocks
      obtain ⟨hbody, horelse, -⟩ := hblocks
      simp only [Stmt.inject, eraseBlock, Stmt.erase, eraseBlock_append, eraseBlock_varHooks,
        eraseBlock_injectBlock body hbody, eraseBlock_injectBlock orelse horelse,
        List.nil_append, List.append_nil]
  | whileLoop l test body orelse =>
      simp only [Stmt.blocks, List.forall_mem_cons] at hblocks
      obtain ⟨hbody, horelse, -⟩ := hblocks
      simp only [Stmt.inject, eraseBlock, Stmt.erase, eraseBlock_injectBlock body hbody,
        eraseBlock_injectBlock orelse horelse, List.append_nil]
  | ifElse l test body orelse =>
      simp only [Stmt.blocks, List.forall_mem_cons] at hblocks
      obtain ⟨hbody, horelse, -⟩ := hblocks
      simp only [Stmt.inject, eraseBlock, Stmt.erase, eraseBlock_injectBlock body hbody,
        eraseBlock_injectBlock orelse horelse, List.append_nil]
  | withItems l isAsync items body =>
      simp only [Stmt.blocks, List.forall_mem_singleton] at hblocks
      simp only [Stmt.inject, eraseBlock, Stmt.erase, timesLine_eq_false h,
        eraseBlock_injectBlock body hblocks, Bool.false_eq_true, if_false, List.append_nil]
  | tryExcept l isGroup body handlers orelse finalbody =>
      simp only [Stmt.blocks, List.cons_append, List.forall_mem_cons, List.forall_mem_append,
        List.forall_mem_map] at hblocks
      obtain ⟨hbody, hhandlers, horelse, hfinal, -⟩ := hblocks
      simp only [Stmt.inject, eraseBlock, Stmt.erase, eraseBlock_injectBlock body hbody,
        eraseHandlers_injectHandlers handlers hhandlers, eraseBlock_injectBlock orelse horelse,
        eraseBlock_injectBlock finalbody hfinal, List.append_nil]
  | matchOn l subject cases =>
      simp only [Stmt.blocks, List.forall_mem_map] at hblocks
      simp only [Stmt.inject, eraseBlock, Stmt.erase, eraseCases_injectCases cases hblocks,
        List.append_nil]
  | globalNames l ids => rfl
  | nonlocalNames l ids => rfl
  | _ =>
      apply eraseBlock_inject_of_isSimple _ h
      constructor

/-- The hooks of a block are erased. -/
theorem eraseBlock_injectBlock (b : Block) (h : Avoids hookName b) :
  eraseBlock (injectBlock b) = b
  := by
  cases b with
  | nil => rfl
  | cons s b =>
      rw [injectBlock, eraseBlock_append, s.eraseBlock_inject h.head,
        eraseBlock_injectBlock b h.tail]
      rfl

/-- The hooks of the block of a definition are erased. -/
theorem eraseBlock_injectBody (b : Block) (h : Avoids hookName b) :
  eraseBlock (injectBody b) = b
  := by
  cases b with
  | nil => rfl
  | cons s b =>
      rw [injectBody, eraseBlock_append, eraseBlock_injectBlock b h.tail]
      cases ht : s.isText with
      | true =>
          rw [if_pos rfl, eraseBlock, erase_of_isText ht]
          rfl
      | false =>
          rw [if_neg Bool.false_ne_true, s.eraseBlock_inject h.head]
          rfl

/-- The hooks of `except` clauses are erased. -/
theorem eraseHandlers_injectHandlers (hs : List Handler) (h : ∀ k ∈ hs, Avoids hookName k.body) :
  eraseHandlers (injectHandlers hs) = hs
  := by
  match hs with
  | [] => rfl
  | .handler l exception id body :: hs =>
      rw [List.forall_mem_cons] at h
      rw [injectHandlers, eraseHandlers, eraseBlock_injectBlock body h.1,
        eraseHandlers_injectHandlers hs h.2]

/-- The hooks of `case` clauses are erased. -/
theorem eraseCases_injectCases (cs : List Case) (h : ∀ c ∈ cs, Avoids hookName c.body) :
  eraseCases (injectCases cs) = cs
  := by
  match cs with
  | [] => rfl
  | .case p guard body :: cs =>
      rw [List.forall_mem_cons] at h
      rw [injectCases, eraseCases, eraseBlock_injectBlock body h.1, eraseCases_injectCases cs h.2]

end

end SnippetProfiler.Indented
