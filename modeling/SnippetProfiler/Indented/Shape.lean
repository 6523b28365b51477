import SnippetProfiler.Indented.Syntax

/-!
# Shapes of programs

The shape of a program is the tree of its nodes with their kinds and lines.  Nodes
without a line of their own, such as operators, lists of parameters and the way in
which a target is used, are nodes too.  `Shape.walk` lists the nodes level by level.

A rewritten program is printed and read again.  Where both trees have the same shape,
walking them side by side pairs each node with its copy, and `lineMap` takes the first
line of the original that comes with each line of the copy.  Nodes on line 0 belong
to the wrapper and count for nothing.
-/

namespace SnippetProfiler.Indented

/-- The kinds of nodes. -/
inductive NodeKind where
  | module
  | functionDef | asyncFunctionDef | classDef | ret | delete | assign | augAssign | annAssign
  | forIn | asyncFor | whileLoop | ifElse | withItems | asyncWith | matchOn | raise | tryExcept
  | tryGroup | assert | importNames | importFrom | globalNames | nonlocalNames | expression | pass
  | break | continue
  | boolean | named | binary | unary | lambda | conditional | dict | set | listOf | setOf | dictOf
  | generator | await | yield | yieldFrom | compare | call | formatted | joined | constant
  | attribute | subscript | starred | name | list | tuple | slice
  | load | store | del
  | connective (op : Connective) | operator (op : BinaryOp) | sign (op : UnaryOp)
  | relation (op : CompareOp)
  | clause | handler | params | param | keyword | imported | context | case
  | value | singleton | sequence | mapping | object | star | capture | alternatives
  deriving DecidableEq, Repr

/-- The tree of the nodes of a program.  A node has a line if its kind has one. -/
inductive Shape where
  | node (kind : NodeKind) (line : Option Nat) (children : List Shape)

namespace Shape

/-- The kind of the root. -/
def kind : Shape → NodeKind
  | .node k _ _ => k

/-- The line of the root. -/
def line : Shape → Option Nat
  | .node _ l _ => l

/-- The trees below the root. -/
def children : Shape → List Shape
  | .node _ _ cs => cs

mutual

/-- The number of levels of a tree. -/
def height : Shape → Nat
  | .node _ _ cs => maxHeight cs + 1

/-- The number of levels of the highest tree of a list. -/
def maxHeight : List Shape → Nat
  | [] => 0
  | s :: ss => max s.height (maxHeight ss)

end

/-- The nodes of `n` levels of some trees, level by level. -/
def levels : (n : Nat) → List Shape → List Shape
  | 0, _ => []
  | n + 1, ss => ss ++ levels n (ss.flatMap children)

/-- The nodes of a tree, level by level. -/
def walk (s : Shape) : List Shape := levels s.height [s]

/-- A node without line and children. -/
def leaf (kind : NodeKind) : Shape := .node kind none []

end Shape

/-- How an expression is used. -/
inductive Context where
  | load | store | del
  deriving DecidableEq, Repr

/-- The node of a use. -/
def Context.shape : Context → Shape
  | .load => .leaf .load
  | .store => .leaf .store
  | .del => .leaf .del

/-- The shape of a parameter without annotation. -/
def Name.shape (p : Name) : Shape := .node .param (some p.line) []

mutual

/-- The shape of an expression in a use. -/
def Expr.shape (ctx : Context) : Expr → Shape
  | .boolean l op values => .node .boolean (some l) (.leaf (.connective op) :: exprShapes .load values)
  | .named l target value => .node .named (some l) [target.shape .store, value.shape .load]
  | .binary l left op right =>
    .node .binary (some l) [left.shape .load, .leaf (.operator op), right.shape .load]
  | .unary l op operand => .node .unary (some l) [.leaf (.sign op), operand.shape .load]
  | .lambda l ps defaults keywordDefaults body =>
    .node .lambda (some l)
      [.node .params none
        (ps.positionalOnly.map Name.shape ++ ps.positional.map Name.shape
          ++ (ps.rest.map Name.shape).toList ++ ps.keywordOnly.map Name.shape
          ++ optionalShapes keywordDefaults ++ (ps.keywords.map Name.shape).toList
          ++ exprShapes .load defaults),
       body.shape .load]
  | .conditional l test body orelse =>
    .node .conditional (some l) [test.shape .load, body.shape .load, orelse.shape .load]
  | .dict l keys values => .node .dict (some l) (optionalShapes keys ++ exprShapes .load values)
  | .set l items => .node .set (some l) (exprShapes .load items)
  | .listOf l element cs => .node .listOf (some l) (element.shape .load :: clauseShapes cs)
  | .setOf l element cs => .node .setOf (some l) (element.shape .load :: clauseShapes cs)
  | .dictOf l key value cs =>
    .node .dictOf (some l) (key.shape .load :: value.shape .load :: clauseShapes cs)
  | .generator l element cs => .node .generator (some l) (element.shape .load :: clauseShapes cs)
  | .await l value => .node .await (some l) [value.shape .load]
  | .yield l value => .node .yield (some l) (optionalShape value)
  | .yieldFrom l value => .node .yieldFrom (some l) [value.shape .load]
  | .compare l left ops comparators =>
    .node .compare (some l)
      (left.shape .load :: ops.map (fun op => .leaf (.relation op)) ++ exprShapes .load comparators)
  | .call l function args ks =>
    .node .call (some l) (function.shape .load :: exprShapes .load args ++ keywordShapes ks)
  | .formatted l value _ spec => .node .formatted (some l) (value.shape .load :: optionalShape spec)
  | .joined l parts => .node .joined (some l) (exprShapes .load parts)
  | .constant l _ => .node .constant (some l) []
  | .attribute l value _ => .node .attribute (some l) [value.shape .load, ctx.shape]
  | .subscript l value index =>
    .node .subscript (some l) [value.shape .load, index.shape .load, ctx.shape]
  | .starred l value => .node .starred (some l) [value.shape ctx, ctx.shape]
  | .name l _ => .node .name (some l) [ctx.shape]
  | .list l items => .node .list (some l) (exprShapes ctx items ++ [ctx.shape])
  | .tuple l items => .node .tuple (some l) (exprShapes ctx items ++ [ctx.shape])
  | .slice l lower upper step =>
    .node .slice (some l) (optionalShape lower ++ optionalShape upper ++ optionalShape step)

/-- The shape of an expression that may be missing. -/
def optionalShape : Option Expr → List Shape
  | none => []
  | some e => [e.shape .load]

/-- The shapes of expressions in the same use. -/
def exprShapes (ctx : Context) : List Expr → List Shape
  | [] => []
  | e :: es => e.shape ctx :: exprShapes ctx es

/-- The shapes of those expressions that are not missing. -/
def optionalShapes : List (Option Expr) → List Shape
  | [] => []
  | e :: es => optionalShape e ++ optionalShapes es

/-- The shapes of keyword arguments. -/
def keywordShapes : List Keyword → List Shape
  | [] => []
  | .keyword l _ value :: ks => .node .keyword (some l) [value.shape .load] :: keywordShapes ks

/-- The shapes of the clauses of a comprehension. -/
def clauseShapes : List Clause → List Shape
  | [] => []
  | .clause _ target iterable conditions :: cs =>
    .node .clause none (target.shape .store :: iterable.shape .load :: exprShapes .load conditions)
      :: clauseShapes cs

end

/-- The shape of a parameter. -/
def Param.shape (p : Param) : Shape := .node .param (some p.line) (optionalShape p.note)

/-- The shape of the parameters of a function. -/
def Params.shape (ps : Params) : Shape :=
  .node .params none
    (ps.positionalOnly.map Param.shape ++ ps.positional.map Param.shape
      ++ (ps.rest.map Param.shape).toList ++ ps.keywordOnly.map Param.shape
      ++ optionalShapes ps.keywordDefaults ++ (ps.keywords.map Param.shape).toList
      ++ exprShapes .load ps.defaults)

/-- The shape of something imported. -/
def Alias.shape (a : Alias) : Shape := .node .imported (some a.line) []

mutual

/-- The shape of a pattern. -/
def Pattern.shape : Pattern → Shape
  | .value l e => .node .value (some l) [e.shape .load]
  | .singleton l _ => .node .singleton (some l) []
  | .sequence l items => .node .sequence (some l) (patternShapes items)
  | .mapping l keys items _ => .node .mapping (some l) (exprShapes .load keys ++ patternShapes items)
  | .object l cls positional _ named =>
    .node .object (some l) (cls.shape .load :: patternShapes positional ++ patternShapes named)
  | .star l _ => .node .star (some l) []
  | .capture l (some p) _ => .node .capture (some l) [p.shape]
  | .capture l none _ => .node .capture (some l) []
  | .alternatives l choices => .node .alternatives (some l) (patternShapes choices)

/-- The shapes of patterns. -/
def patternShapes : List Pattern → List Shape
  | [] => []
  | p :: ps => p.shape :: patternShapes ps

end

/-- The shape of a context of a `with` statement. -/
def contextShape (item : Expr × Option Expr) : Shape :=
  .node .context none (item.1.shape .load :: (item.2.map (Expr.shape .store)).toList)

mutual

/-- The shape of a statement. -/
def Stmt.shape : Stmt → Shape
  | .functionDef l isAsync _ ps body decorators returns =>
    .node (if isAsync then .asyncFunctionDef else .functionDef) (some l)
      (ps.shape :: blockShapes body ++ exprShapes .load decorators ++ optionalShape returns)
  | .classDef l _ bases ks body decorators =>
    .node .classDef (some l)
      (exprShapes .load bases ++ keywordShapes ks ++ blockShapes body ++ exprShapes .load decorators)
  | .ret l value => .node .ret (some l) (optionalShape value)
  | .delete l targets => .node .delete (some l) (exprShapes .del targets)
  | .assign l targets value => .node .assign (some l) (exprShapes .store targets ++ [value.shape .load])
  | .augAssign l target op value =>
    .node .augAssign (some l) [target.shape .store, .leaf (.operator op), value.shape .load]
  | .annAssign l target note value _ =>
    .node .annAssign (some l) (target.shape .store :: note.shape .load :: optionalShape value)
  | .forIn l isAsync target iterable body orelse =>
    .node (if isAsync then .asyncFor else .forIn) (some l)
      (target.shape .store :: iterable.shape .load :: blockShapes body ++ blockShapes orelse)
  | .whileLoop l test body orelse =>
    .node .whileLoop (some l) (test.shape .load :: blockShapes body ++ blockShapes orelse)
  | .ifElse l test body orelse =>
    .node .ifElse (some l) (test.shape .load :: blockShapes body ++ blockShapes orelse)
  | .withItems l isAsync items body =>
    .node (if isAsync then .asyncWith else .withItems) (some l)
      (items.map contextShape ++ blockShapes body)
  | .matchOn l subject cs => .node .matchOn (some l) (subject.shape .load :: caseShapes cs)
  | .raise l exception cause => .node .raise (some l) (optionalShape exception ++ optionalShape cause)
  | .tryExcept l isGroup body hs orelse finalbody =>
    .node (if isGroup then .tryGroup else .tryExcept) (some l)
      (blockShapes body ++ handlerShapes hs ++ blockShapes orelse ++ blockShapes finalbody)
  | .assert l test message => .node .assert (some l) (test.shape .load :: optionalShape message)
  | .importNames l names => .node .importNames (some l) (names.map Alias.shape)
  | .importFrom l _ names _ => .node .importFrom (some l) (names.map Alias.shape)
  | .globalNames l _ => .node .globalNames (some l) []
  | .nonlocalNames l _ => .node .nonlocalNames (some l) []
  | .expression l e => .node .expression (some l) [e.shape .load]
  | .pass l => .node .pass (some l) []
  | .break l => .node .break (some l) []
  | .continue l => .node .continue (some l) []

/-- The shapes of the statements of a block. -/
def blockShapes : List Stmt → List Shape
  | [] => []
  | s :: ss => s.shape :: blockShapes ss

/-- The shapes of `except` clauses. -/
def handlerShapes : List Handler → List Shape
  | [] => []
  | .handler l exception _ body :: hs =>
    .node .handler (some l) (optionalShape exception ++ blockShapes body) :: handlerShapes hs

/-- The shapes of `case` clauses. -/
def caseShapes : List Case → List Shape
  | [] => []
  | .case p guard body :: cs =>
    .node .case none (p.shape :: optionalShape guard ++ blockShapes body) :: caseShapes cs

end

/-- The shape of a program. -/
def moduleShape (body : Block) : Shape := .node .module none (blockShapes body)

/-! ### Lines of the printed program -/

/-- The pairs of nodes of two walks up to the first that differ in kind. -/
def alongside : List Shape → List Shape → List (Shape × Shape)
  | s :: ss, t :: ts => if s.kind = t.kind then (s, t) :: alongside ss ts else []
  | _, _ => []

/-- Gives a line a counterpart, unless it has one. -/
def setDefault (mapping : List (Nat × Nat)) (emitted original : Nat) : List (Nat × Nat) :=
  if mapping.any fun entry => entry.1 = emitted then mapping else mapping ++ [(emitted, original)]

/-- Adds what a pair of nodes says about a line. -/
def addPair (offset : Nat) (mapping : List (Nat × Nat)) (pair : Shape × Shape) :
    List (Nat × Nat) :=
  match pair.1.line, pair.2.line with
  | some original, some emitted =>
    if original = 0 then mapping else setDefault mapping (emitted + offset) original
  | _, _ => mapping

/-- The original line for each line of the printed program behind `offset` lines, in
the order of the walk. -/
def lineMap (wrapped reread : Shape) (offset : Nat) : List (Nat × Nat) :=
  (alongside wrapped.walk reread.walk).foldl (addPair offset) []

end SnippetProfiler.Indented
