import SnippetProfiler.Indented.Syntax

/-!
# Hooks in indented programs

`inject` puts hooks into the statements of a block.  A simple statement is timed by a
`with` statement around it, which names the line of the statement, and is followed by
a call for each name that it assigns.  A function gets a decorator behind its own, a
loop reports the names of its target at the start of each pass, and the documentation
text of a function or class stays the first statement of its block.

All blocks get their hooks here, as in every program with room for them (`hasHookRoom`).
-/

namespace SnippetProfiler.Indented

/-- The name under which a program reaches its hooks. -/
def hookName : String := "__probe__"

/-- A hook, at a line. -/
def hook (line : Nat) (member : String) : Expr :=
  .attribute line (.name line hookName) member

/-- A call of a hook, at a line. -/
def hookCall (line : Nat) (member : String) (args : List Expr) : Expr :=
  .call line (hook line member) args []

/-- The codes of a name as a text. -/
def codes (s : String) : List Nat := s.toList.map Char.toNat

/-- A text as an expression, at a line. -/
def textAt (line : Nat) (s : String) : Expr := .constant line (.text (codes s) false)

mutual

/-- The plain names that an assignment to a target assigns, in order. -/
def Expr.targetNames : Expr → List String
  | .name _ id => [id]
  | .starred _ e => e.targetNames
  | .list _ es | .tuple _ es => allTargetNames es
  | _ => []

/-- The plain names that an assignment to targets assigns, in order. -/
def allTargetNames : List Expr → List String
  | [] => []
  | e :: es => e.targetNames ++ allTargetNames es

end

/-- The plain names that a statement assigns when it runs, in order. -/
def Stmt.assignedNames : Stmt → List String
  | .assign _ targets _ => allTargetNames targets
  | .augAssign _ target _ _ => target.targetNames
  | .annAssign _ target _ (some _) _ => target.targetNames
  | _ => []

/-- The elements of a list, each where it occurs first. -/
def firstOccurrences : List String → List String
  | [] => []
  | id :: ids => id :: (firstOccurrences ids).filter (· ≠ id)

/-- The call that reports the value of a name. -/
def varHook (line : Nat) (id : String) : Stmt :=
  .expression line (hookCall line "var"
    [textAt line id, .name line id, .constant line (.int line)])

/-- The calls that report the values of names, one for each distinct name. -/
def varHooks (line : Nat) (ids : List String) : List Stmt :=
  (firstOccurrences ids).map (varHook line)

/-- A statement inside the `with` statement that times it. -/
def timed (s : Stmt) : Stmt :=
  .withItems s.line false [(hookCall s.line "line" [.constant s.line (.int s.line)], none)] [s]

/-- Whether a statement is a documentation text when it comes first. -/
def Stmt.isText : Stmt → Bool
  | .expression _ (.constant _ (.text ..)) => true
  | _ => false

mutual

/-- A statement with its hooks. -/
def Stmt.inject : Stmt → List Stmt
  | .functionDef l isAsync id ps body decorators returns =>
    [.functionDef l isAsync id ps (injectBody body) (decorators ++ [hook l "traced"]) returns]
  | .classDef l id bases ks body decorators => [.classDef l id bases ks (injectBody body) decorators]
  | .forIn l isAsync target iterable body orelse =>
    [.forIn l isAsync target iterable (varHooks l target.targetNames ++ injectBlock body)
      (injectBlock orelse)]
  | .whileLoop l test body orelse => [.whileLoop l test (injectBlock body) (injectBlock orelse)]
  | .ifElse l test body orelse => [.ifElse l test (injectBlock body) (injectBlock orelse)]
  | .withItems l isAsync items body => [.withItems l isAsync items (injectBlock body)]
  | .tryExcept l isGroup body handlers orelse finalbody =>
    [.tryExcept l isGroup (injectBlock body) (injectHandlers handlers) (injectBlock orelse)
      (injectBlock finalbody)]
  | .matchOn l subject cases => [.matchOn l subject (injectCases cases)]
  | .globalNames l ids => [.globalNames l ids]
  | .nonlocalNames l ids => [.nonlocalNames l ids]
  | s => timed s :: varHooks s.line s.assignedNames

/-- A block with hooks. -/
def injectBlock : List Stmt → List Stmt
  | [] => []
  | s :: ss => s.inject ++ injectBlock ss

/-- The block of a definition with hooks behind its documentation text. -/
def injectBody : List Stmt → List Stmt
  | [] => []
  | s :: ss => (if s.isText then [s] else s.inject) ++ injectBlock ss

/-- `except` clauses with hooks. -/
def injectHandlers : List Handler → List Handler
  | [] => []
  | .handler l exception id body :: hs => .handler l exception id (injectBlock body) :: injectHandlers hs

/-- `case` clauses with hooks. -/
def injectCases : List Case → List Case
  | [] => []
  | .case p guard body :: cs => .case p guard (injectBlock body) :: injectCases cs

end

end SnippetProfiler.Indented
