import SnippetProfiler.Indented.Shape

/-!
# How deeply programs may be nested

Going through a program takes room on a stack for each level of nesting, and the stack is bounded.
A program that is nested more deeply than the stack allows is not built, not gone through, or not
printed.  How much room a level takes depends on what is done and on the kind of its node.

Hooks are put into all blocks of a program as far as `hasHookRoom` goes.  Where a chain of conditions
is so long that there is no room for the hooks of its last ones, these stay as they are, which is
not followed here: `injectBlock` puts hooks into them too.
-/

namespace SnippetProfiler.Indented

mutual

/-- The most room that the way from a node to a leaf takes, where a node takes `room` below a
node of the kind `above`. -/
def Shape.depth (room : NodeKind → NodeKind → Nat) (above : NodeKind) : Shape → Nat
  | .node kind _ children => room above kind + greatestDepth room kind children

/-- The most room that any of some trees takes. -/
def greatestDepth (room : NodeKind → NodeKind → Nat) (above : NodeKind) : List Shape → Nat
  | [] => 0
  | s :: ss => max (s.depth room above) (greatestDepth room above ss)

end

/-- The room on the stack. -/
def stackRoom : Nat := 995

/-- The levels of the deepest program that is built. -/
def builtLevels : Nat := 2980

/-- Why a program is refused for its nesting. -/
inductive NestingError where
  | notBuilt
  | notWalked
  deriving DecidableEq, Repr

/-- The wording of an error. -/
def NestingError.message : NestingError → String
  | notBuilt => "maximum recursion depth exceeded during ast construction"
  | notWalked => "maximum recursion depth exceeded"

/-- Whether a program is built. -/
def isBuilt (program : Shape) : Bool := program.height ≤ builtLevels

/-- Whether places can be given to all nodes of a program. -/
def isPlaced (program : Shape) : Bool := program.height + 4 ≤ stackRoom

/-- The room for putting hooks into a node: that of a statement with its block, or of a target inside
another one. -/
def hookRoom : NodeKind → Nat
  | .list | .tuple | .starred => 1
  | .functionDef | .asyncFunctionDef | .classDef | .ret | .delete | .assign | .augAssign | .annAssign
  | .forIn | .asyncFor | .whileLoop | .ifElse | .withItems | .asyncWith | .matchOn | .raise
  | .tryExcept | .tryGroup | .assert | .importNames | .importFrom | .globalNames | .nonlocalNames
  | .expression | .pass | .break | .continue => 2
  | _ => 0

/-- Whether there is room for the hooks of all blocks of a program. -/
def hasHookRoom (program : Shape) : Bool :=
  program.depth (fun _ kind => hookRoom kind) .module + 8 ≤ stackRoom

/-- The room for a look at a node. -/
def lookRoom : NodeKind → Nat
  | .call | .functionDef | .asyncFunctionDef => 3
  | .forIn | .asyncFor | .whileLoop => 4
  | _ => 2

/-- Whether all nodes of a program can be looked at. -/
def isVisited (program : Shape) : Bool :=
  program.depth (fun _ kind => lookRoom kind) .module + 3 ≤ stackRoom

/-- The room for printing a node that begins anew. -/
def printRoomAlone : NodeKind → Nat
  | .load | .store | .del | .connective _ | .operator _ | .sign _ | .relation _ => 0
  | .list | .set | .tuple | .ifElse | .whileLoop | .withItems | .asyncWith => 4
  | .boolean | .forIn | .asyncFor | .classDef | .tryExcept | .tryGroup => 5
  | .dict | .functionDef | .asyncFunctionDef => 6
  | _ => 3

/-- The room for printing a node below another.  A chain of conditions is printed in a loop, so
that a condition right below another takes no room of its own. -/
def printRoom : NodeKind → NodeKind → Nat
  | .ifElse, .ifElse => 0
  | _, kind => printRoomAlone kind

/-- Whether a program can be printed. -/
def isPrinted (program : Shape) : Bool := program.depth printRoom .module + 8 ≤ stackRoom

end SnippetProfiler.Indented
