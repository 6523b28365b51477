import SnippetProfiler.Indented.Syntax

/-!
# Outlines of programs

The outline of a program keeps its definitions of functions, its loops, and its calls of
functions by name, in the order in which they are written and nested as they are.  A loop
is scaling if a statement in it multiplies, divides or shifts a variable in place.
-/

namespace SnippetProfiler.Indented

/-- A part of an outline.  A call is slicing if a slice is among its arguments. -/
inductive Outline where
  | definition (name : String) (inside : List Outline)
  | loop (scaling : Bool) (inside : List Outline)
  | call (name : String) (slicing : Bool)
  deriving Repr

/-- Whether an expression takes a slice. -/
def Expr.isSlice : Expr → Bool
  | .subscript _ _ (.slice ..) => true
  | _ => false

/-- The call of a function by name. -/
def callOutline (function : Expr) (args : List Expr) : List Outline :=
  match function with
  | .name _ id => [.call id (args.any Expr.isSlice)]
  | _ => []

mutual

/-- The calls in an expression. -/
def Expr.outline : Expr → List Outline
  | .boolean _ _ values => exprsOutline values
  | .named _ target value => target.outline ++ value.outline
  | .binary _ left _ right => left.outline ++ right.outline
  | .unary _ _ operand => operand.outline
  | .lambda _ _ defaults keywordDefaults body =>
    optionalsOutline keywordDefaults ++ exprsOutline defaults ++ body.outline
  | .conditional _ test body orelse => test.outline ++ body.outline ++ orelse.outline
  | .dict _ keys values => optionalsOutline keys ++ exprsOutline values
  | .set _ items => exprsOutline items
  | .listOf _ element cs => element.outline ++ clausesOutline cs
  | .setOf _ element cs => element.outline ++ clausesOutline cs
  | .dictOf _ key value cs => key.outline ++ value.outline ++ clausesOutline cs
  | .generator _ element cs => element.outline ++ clausesOutline cs
  | .await _ value => value.outline
  | .yield _ value => optionalOutline value
  | .yieldFrom _ value => value.outline
  | .compare _ left _ comparators => left.outline ++ exprsOutline comparators
  | .call _ function args ks =>
    callOutline function args ++ function.outline ++ exprsOutline args ++ keywordsOutline ks
  | .formatted _ value _ spec => value.outline ++ optionalOutline spec
  | .joined _ parts => exprsOutline parts
  | .constant .. => []
  | .attribute _ value _ => value.outline
  | .subscript _ value index => value.outline ++ index.outline
  | .starred _ value => value.outline
  | .name .. => []
  | .list _ items => exprsOutline items
  | .tuple _ items => exprsOutline items
  | .slice _ lower upper step =>
    optionalOutline lower ++ optionalOutline upper ++ optionalOutline step

/-- The calls in an expression that may be missing. -/
def optionalOutline : Option Expr → List Outline
  | none => []
  | some e => e.outline

/-- The calls in expressions. -/
def exprsOutline : List Expr → List Outline
  | [] => []
  | e :: es => e.outline ++ exprsOutline es

/-- The calls in those expressions that are not missing. -/
def optionalsOutline : List (Option Expr) → List Outline
  | [] => []
  | e :: es => optionalOutline e ++ optionalsOutline es

/-- The calls in keyword arguments. -/
def keywordsOutline : List Keyword → List Outline
  | [] => []
  | .keyword _ _ value :: ks => value.outline ++ keywordsOutline ks

/-- The calls in the clauses of a comprehension. -/
def clausesOutline : List Clause → List Outline
  | [] => []
  | .clause _ target iterable conditions :: cs =>
    target.outline ++ iterable.outline ++ exprsOutline conditions ++ clausesOutline cs

end

/-- The calls in the parameters of a function. -/
def Params.outline (ps : Params) : List Outline :=
  let notes (params : List Param) := params.flatMap fun p => optionalOutline p.note
  notes ps.positionalOnly ++ notes ps.positional ++ notes ps.rest.toList ++ notes ps.keywordOnly
    ++ optionalsOutline ps.keywordDefaults ++ notes ps.keywords.toList ++ exprsOutline ps.defaults

/-- The calls in the contexts of a `with` statement. -/
def contextsOutline (items : List (Expr × Option Expr)) : List Outline :=
  items.flatMap fun item => item.1.outline ++ optionalOutline item.2

/-- Whether an operator changes a number by a factor. -/
def BinaryOp.scales : BinaryOp → Bool
  | .mult | .div | .floorDiv | .rightShift | .leftShift => true
  | _ => false

mutual

/-- Whether a statement, or one in it, multiplies, divides or shifts in place. -/
def Stmt.scales : Stmt → Bool
  | .augAssign _ _ op _ => op.scales
  | .functionDef _ _ _ _ body _ _ => blockScales body
  | .classDef _ _ _ _ body _ => blockScales body
  | .forIn _ _ _ _ body orelse => blockScales body || blockScales orelse
  | .whileLoop _ _ body orelse => blockScales body || blockScales orelse
  | .ifElse _ _ body orelse => blockScales body || blockScales orelse
  | .withItems _ _ _ body => blockScales body
  | .matchOn _ _ cs => casesScale cs
  | .tryExcept _ _ body hs orelse finalbody =>
    blockScales body || handlersScale hs || blockScales orelse || blockScales finalbody
  | _ => false

/-- Whether a statement of a block scales. -/
def blockScales : List Stmt → Bool
  | [] => false
  | s :: ss => s.scales || blockScales ss

/-- Whether a statement of an `except` clause scales. -/
def handlersScale : List Handler → Bool
  | [] => false
  | .handler _ _ _ body :: hs => blockScales body || handlersScale hs

/-- Whether a statement of a `case` clause scales. -/
def casesScale : List Case → Bool
  | [] => false
  | .case _ _ body :: cs => blockScales body || casesScale cs

end

mutual

/-- The outline of a statement.  Patterns hold no calls. -/
def Stmt.outline : Stmt → List Outline
  | .functionDef _ _ name ps body decorators returns =>
    [.definition name
      (ps.outline ++ blockOutline body ++ exprsOutline decorators ++ optionalOutline returns)]
  | .classDef _ _ bases ks body decorators =>
    exprsOutline bases ++ keywordsOutline ks ++ blockOutline body ++ exprsOutline decorators
  | .ret _ value => optionalOutline value
  | .delete _ targets => exprsOutline targets
  | .assign _ targets value => exprsOutline targets ++ value.outline
  | .augAssign _ target _ value => target.outline ++ value.outline
  | .annAssign _ target note value _ => target.outline ++ note.outline ++ optionalOutline value
  | .forIn _ _ target iterable body orelse =>
    [.loop false (target.outline ++ iterable.outline ++ blockOutline body ++ blockOutline orelse)]
  | .whileLoop _ test body orelse =>
    [.loop (blockScales body || blockScales orelse)
      (test.outline ++ blockOutline body ++ blockOutline orelse)]
  | .ifElse _ test body orelse => test.outline ++ blockOutline body ++ blockOutline orelse
  | .withItems _ _ items body => contextsOutline items ++ blockOutline body
  | .matchOn _ subject cs => subject.outline ++ casesOutline cs
  | .raise _ exception cause => optionalOutline exception ++ optionalOutline cause
  | .tryExcept _ _ body hs orelse finalbody =>
    blockOutline body ++ handlersOutline hs ++ blockOutline orelse ++ blockOutline finalbody
  | .assert _ test message => test.outline ++ optionalOutline message
  | .expression _ e => e.outline
  | _ => []

/-- The outline of a block. -/
def blockOutline : List Stmt → List Outline
  | [] => []
  | s :: ss => s.outline ++ blockOutline ss

/-- The outline of `except` clauses. -/
def handlersOutline : List Handler → List Outline
  | [] => []
  | .handler _ exception _ body :: hs =>
    optionalOutline exception ++ blockOutline body ++ handlersOutline hs

/-- The outline of `case` clauses. -/
def casesOutline : List Case → List Outline
  | [] => []
  | .case _ guard body :: cs => optionalOutline guard ++ blockOutline body ++ casesOutline cs

end

end SnippetProfiler.Indented
