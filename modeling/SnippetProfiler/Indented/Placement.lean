import SnippetProfiler.Indented.Scope
import SnippetProfiler.Decimal.Binary

/-!
# Where phrases may stand

A program that is well formed may still hold a phrase in a place where it means
nothing: `return` outside functions, `break` outside loops, `await` outside
asynchronous functions, two starred targets side by side, a pattern that makes the
patterns behind it useless, and so on.  `Placement.block` tells whether every phrase
of a block stands where it may, and `compiles` whether a program can be run at all.
-/

namespace SnippetProfiler.Indented

namespace Placement

/-! ### Suspension -/

mutual

/-- Whether evaluating an expression in its own scope may await. -/
def awaits : Expr → Bool
  | .await .. => true
  | .boolean _ _ values => anyAwaits values
  | .named _ _ value => awaits value
  | .binary _ left _ right => awaits left || awaits right
  | .unary _ _ operand => awaits operand
  | .lambda _ _ defaults keywordDefaults _ => anyAwaits defaults || anyOptionalAwaits keywordDefaults
  | .conditional _ test body orelse => awaits test || awaits body || awaits orelse
  | .dict _ keys values => anyOptionalAwaits keys || anyAwaits values
  | .set _ items | .joined _ items | .list _ items | .tuple _ items => anyAwaits items
  | .listOf _ element cs | .setOf _ element cs =>
    firstIterableAwaits cs || awaits element || clausesAwait cs
  | .dictOf _ key value cs =>
    firstIterableAwaits cs || awaits key || awaits value || clausesAwait cs
  | .generator _ _ cs => firstIterableAwaits cs
  | .yield _ value => optionalAwaits value
  | .yieldFrom _ value => awaits value
  | .compare _ left _ comparators => awaits left || anyAwaits comparators
  | .call _ function args ks => awaits function || anyAwaits args || keywordsAwait ks
  | .formatted _ value _ spec => awaits value || optionalAwaits spec
  | .constant .. | .name .. => false
  | .attribute _ value _ => awaits value
  | .subscript _ value index => awaits value || awaits index
  | .starred _ value => awaits value
  | .slice _ lower upper step => optionalAwaits lower || optionalAwaits upper || optionalAwaits step

/-- Whether an expression that may be missing may await. -/
def optionalAwaits : Option Expr → Bool
  | none => false
  | some e => awaits e

/-- Whether one of some expressions may await. -/
def anyAwaits : List Expr → Bool
  | [] => false
  | e :: es => awaits e || anyAwaits es

/-- Whether one of some expressions that may be missing may await. -/
def anyOptionalAwaits : List (Option Expr) → Bool
  | [] => false
  | e :: es => optionalAwaits e || anyOptionalAwaits es

/-- Whether one of some keyword arguments may await. -/
def keywordsAwait : List Keyword → Bool
  | [] => false
  | .keyword _ _ value :: ks => awaits value || keywordsAwait ks

/-- Whether the first iterable of a comprehension, which belongs to the scope around
it, may await. -/
def firstIterableAwaits : List Clause → Bool
  | [] => false
  | .clause _ _ iterable _ :: _ => awaits iterable

/-- Whether the clauses of a comprehension suspend it, the first iterable apart. -/
def clausesAwait : List Clause → Bool
  | [] => false
  | .clause isAsync target _ conditions :: rest =>
    isAsync || awaits target || anyAwaits conditions || laterClausesAwait rest

/-- Whether the clauses behind the first one suspend a comprehension. -/
def laterClausesAwait : List Clause → Bool
  | [] => false
  | .clause isAsync target iterable conditions :: rest =>
    isAsync || awaits target || awaits iterable || anyAwaits conditions || laterClausesAwait rest

end

mutual

/-- Whether evaluating an expression in its own scope may yield. -/
def yields : Expr → Bool
  | .yield .. | .yieldFrom .. => true
  | .boolean _ _ values => anyYields values
  | .named _ _ value | .await _ value => yields value
  | .binary _ left _ right => yields left || yields right
  | .unary _ _ operand => yields operand
  | .lambda _ _ defaults keywordDefaults _ => anyYields defaults || anyOptionalYields keywordDefaults
  | .conditional _ test body orelse => yields test || yields body || yields orelse
  | .dict _ keys values => anyOptionalYields keys || anyYields values
  | .set _ items | .joined _ items | .list _ items | .tuple _ items => anyYields items
  | .listOf _ _ cs | .setOf _ _ cs | .dictOf _ _ _ cs | .generator _ _ cs => firstIterableYields cs
  | .compare _ left _ comparators => yields left || anyYields comparators
  | .call _ function args ks => yields function || anyYields args || keywordsYield ks
  | .formatted _ value _ spec => yields value || optionalYields spec
  | .constant .. | .name .. => false
  | .attribute _ value _ => yields value
  | .subscript _ value index => yields value || yields index
  | .starred _ value => yields value
  | .slice _ lower upper step => optionalYields lower || optionalYields upper || optionalYields step

/-- Whether an expression that may be missing may yield. -/
def optionalYields : Option Expr → Bool
  | none => false
  | some e => yields e

/-- Whether one of some expressions may yield. -/
def anyYields : List Expr → Bool
  | [] => false
  | e :: es => yields e || anyYields es

/-- Whether one of some expressions that may be missing may yield. -/
def anyOptionalYields : List (Option Expr) → Bool
  | [] => false
  | e :: es => optionalYields e || anyOptionalYields es

/-- Whether one of some keyword arguments may yield. -/
def keywordsYield : List Keyword → Bool
  | [] => false
  | .keyword _ _ value :: ks => yields value || keywordsYield ks

/-- Whether the first iterable of a comprehension may yield. -/
def firstIterableYields : List Clause → Bool
  | [] => false
  | .clause _ _ iterable _ :: _ => yields iterable

end

/-- Whether an expression that may be missing has a property. -/
def has (p : Expr → Bool) (e : Option Expr) : Bool := e.any p

/-- Whether a keyword argument has a property. -/
def keywordHas (p : Expr → Bool) : Keyword → Bool
  | .keyword _ _ value => p value

/-- Whether the defaults or annotations of parameters have a property. -/
def paramsHave (p : Expr → Bool) (asText : Bool) (ps : Params) : Bool :=
  ps.defaults.any p || ps.keywordDefaults.any (has p)
    || (!asText && (Scope.allParams ps).any fun q => has p q.note)

mutual

/-- Whether an expression that belongs to the scope of a statement has a property;
annotations that are kept as text belong to no scope. -/
def stmtHas (p : Expr → Bool) (asText : Bool) : Stmt → Bool
  | .functionDef _ _ _ ps _ decorators returns =>
    paramsHave p asText ps || decorators.any p || (!asText && has p returns)
  | .classDef _ _ bases ks _ decorators => bases.any p || ks.any (keywordHas p) || decorators.any p
  | .ret _ value => has p value
  | .delete _ targets => targets.any p
  | .assign _ targets value => targets.any p || p value
  | .augAssign _ target _ value => p target || p value
  | .annAssign _ target note value _ => p target || (!asText && p note) || has p value
  | .forIn _ _ target iterable body orelse =>
    p target || p iterable || blockHas p asText body || blockHas p asText orelse
  | .whileLoop _ test body orelse | .ifElse _ test body orelse =>
    p test || blockHas p asText body || blockHas p asText orelse
  | .withItems _ _ items body =>
    items.any (fun item => p item.1 || has p item.2) || blockHas p asText body
  | .matchOn _ subject cs => p subject || casesHave p asText cs
  | .raise _ exception cause => has p exception || has p cause
  | .tryExcept _ _ body hs orelse finalbody =>
    blockHas p asText body || handlersHave p asText hs || blockHas p asText orelse
      || blockHas p asText finalbody
  | .assert _ test message => p test || has p message
  | .expression _ value => p value
  | _ => false

/-- Whether an expression that belongs to the scope of a block has a property. -/
def blockHas (p : Expr → Bool) (asText : Bool) : List Stmt → Bool
  | [] => false
  | s :: ss => stmtHas p asText s || blockHas p asText ss

/-- Whether an expression that belongs to the scope of some `except` clauses has a
property. -/
def handlersHave (p : Expr → Bool) (asText : Bool) : List Handler → Bool
  | [] => false
  | .handler _ exception _ body :: hs =>
    has p exception || blockHas p asText body || handlersHave p asText hs

/-- Whether an expression that belongs to the scope of some `case` clauses has a
property. -/
def casesHave (p : Expr → Bool) (asText : Bool) : List Case → Bool
  | [] => false
  | .case _ guard body :: cs =>
    has p guard || blockHas p asText body || casesHave p asText cs

end

/-! ### Places -/

/-- What a phrase is inside of. -/
inductive Scene where
  | module
  | classBody
  | function
  | asyncFunction
  | lambda
  | comprehension
  deriving DecidableEq, Repr

/-- A construct that control leaves in a way of its own. -/
inductive Barrier where
  | loop
  | group
  | other
  deriving DecidableEq, Repr

/-- The place of a phrase: its scene, the constructs around it in the same scene with
the innermost first, whether the scene is an asynchronous generator, and whether
annotations are kept as text. -/
structure Place where
  scene : Scene
  barriers : List Barrier := []
  isAsyncGenerator : Bool := false
  asText : Bool := false

/-- Whether a scene is inside a function. -/
def Scene.isFunction : Scene → Bool
  | .module | .classBody => false
  | _ => true

/-- A place in a scene inside another place. -/
def Place.entering (pl : Place) (scene : Scene) : Place := { scene, asText := pl.asText }

/-- The most constructs that may stand inside each other in a scene. -/
def barrierLimit : Nat := 20

/-- Whether a place is not too deep inside other constructs. -/
def Place.fits (pl : Place) : Bool := pl.barriers.length ≤ barrierLimit

/-- The place inside a construct. -/
def Place.within (pl : Place) (b : Barrier) : Place := { pl with barriers := b :: pl.barriers }

/-- Whether control may leave every construct around a place. -/
def Place.canReturn (pl : Place) : Bool := !pl.barriers.contains .group

/-- Whether control may leave the innermost loop around a place. -/
def canLeaveLoop : List Barrier → Bool
  | [] => false
  | .loop :: _ => true
  | .group :: _ => false
  | .other :: rest => canLeaveLoop rest

/-- The name that no program can assign. -/
def reserved : String := "__debug__"

/-- How an expression is used. -/
inductive Use where
  | load
  | store
  | delete
  deriving DecidableEq, Repr

/-- Whether an expression is starred. -/
def isStarred : Expr → Bool
  | .starred .. => true
  | _ => false

/-- Whether at most one of the targets of a list is starred, and is not too far from
its start. -/
def starsFit (targets : List Expr) : Bool :=
  let stars := (targets.filter isStarred).length
  stars ≤ 1 && (stars = 0 || (targets.takeWhile (fun t => !isStarred t)).length < 256)

/-- The names of keyword arguments. -/
def keywordNames (ks : List Keyword) : List String :=
  ks.filterMap fun
    | .keyword _ id _ => id

/-- Whether no name occurs twice. -/
def distinct : List String → Bool
  | [] => true
  | id :: ids => !ids.contains id && distinct ids

/-- Whether names may be those of keyword arguments. -/
def keywordsFit (ids : List String) : Bool := distinct ids && !ids.contains reserved

/-- The names of the parameters of a lambda expression. -/
def lambdaNames (ps : NameList) : List String :=
  (ps.positionalOnly ++ ps.positional ++ ps.keywordOnly ++ ps.rest.toList ++ ps.keywords.toList).map
    Name.id

mutual

/-- Whether every phrase of an expression stands where it may. -/
def expr (pl : Place) (use : Use) : Expr → Bool
  | .boolean _ _ values => exprs pl values
  | .named _ target value => expr pl .store target && expr pl .load value
  | .binary _ left _ right => expr pl .load left && expr pl .load right
  | .unary _ _ operand => expr pl .load operand
  | .lambda _ params defaults keywordDefaults body =>
    exprs pl defaults && optionals pl keywordDefaults && !(lambdaNames params).contains reserved
      && expr (pl.entering .lambda) .load body
  | .conditional _ test body orelse => expr pl .load test && expr pl .load body && expr pl .load orelse
  | .dict _ keys values => optionals pl keys && exprs pl values
  | .set _ items => displayed pl items
  | .joined _ items => exprs pl items
  | .listOf _ element cs | .setOf _ element cs =>
    suspends pl (awaits element || clausesAwait cs) && firstIterable pl cs
      && expr (pl.entering .comprehension) .load element && clauses (pl.entering .comprehension) cs
  | .dictOf _ key value cs =>
    suspends pl (awaits key || awaits value || clausesAwait cs) && firstIterable pl cs
      && expr (pl.entering .comprehension) .load key && expr (pl.entering .comprehension) .load value
      && clauses (pl.entering .comprehension) cs
  | .generator _ element cs =>
    firstIterable pl cs && expr (pl.entering .comprehension) .load element
      && clauses (pl.entering .comprehension) cs
  | .await _ value =>
    (pl.scene = .asyncFunction || pl.scene = .comprehension) && expr pl .load value
  | .yield _ value => pl.scene.isFunction && optional pl value
  | .yieldFrom _ value =>
    pl.scene.isFunction && pl.scene ≠ .asyncFunction && expr pl .load value
  | .compare _ left _ comparators => expr pl .load left && exprs pl comparators
  | .call _ function args ks =>
    expr pl .load function && displayed pl args && keywordsFit (keywordNames ks) && keywords pl ks
  | .formatted _ value _ spec => expr pl .load value && optional pl spec
  | .constant .. => true
  | .attribute _ value id => expr pl .load value && (use ≠ .store || id ≠ reserved)
  | .subscript _ value index => expr pl .load value && expr pl .load index
  | .starred .. => false
  | .name _ id => use = .load || id ≠ reserved
  | .list _ items | .tuple _ items =>
    match use with
    | .load => displayed pl items
    | use => starsFit items && targets pl use items
  | .slice _ lower upper step => optional pl lower && optional pl upper && optional pl step

/-- Whether a comprehension that suspends stands where it may. -/
def suspends (pl : Place) (condition : Bool) : Bool :=
  !condition || pl.scene = .asyncFunction || pl.scene = .comprehension

/-- Whether an expression that may be missing is placed well. -/
def optional (pl : Place) : Option Expr → Bool
  | none => true
  | some e => expr pl .load e

/-- Whether expressions are placed well. -/
def exprs (pl : Place) : List Expr → Bool
  | [] => true
  | e :: es => expr pl .load e && exprs pl es

/-- Whether the items of a display or the arguments of a call, which may be starred,
are placed well. -/
def displayed (pl : Place) : List Expr → Bool
  | [] => true
  | .starred _ e :: es => expr pl .load e && displayed pl es
  | e :: es => expr pl .load e && displayed pl es

/-- Whether the targets of a list, which may be starred, are placed well. -/
def targets (pl : Place) (use : Use) : List Expr → Bool
  | [] => true
  | .starred _ e :: es => expr pl use e && targets pl use es
  | e :: es => expr pl use e && targets pl use es

/-- Whether expressions that may be missing are placed well. -/
def optionals (pl : Place) : List (Option Expr) → Bool
  | [] => true
  | e :: es => optional pl e && optionals pl es

/-- Whether keyword arguments are placed well. -/
def keywords (pl : Place) : List Keyword → Bool
  | [] => true
  | .keyword _ _ value :: ks => expr pl .load value && keywords pl ks

/-- Whether the first iterable of a comprehension is placed well around it. -/
def firstIterable (pl : Place) : List Clause → Bool
  | [] => true
  | .clause _ _ iterable _ :: _ => expr pl .load iterable

/-- Whether the clauses of a comprehension are placed well in it, the first iterable
apart. -/
def clauses (pl : Place) : List Clause → Bool
  | [] => true
  | .clause _ target _ conditions :: rest =>
    expr pl .store target && exprs pl conditions && laterClauses pl rest

/-- Whether the clauses behind the first one are placed well. -/
def laterClauses (pl : Place) : List Clause → Bool
  | [] => true
  | .clause _ target iterable conditions :: rest =>
    expr pl .store target && expr pl .load iterable && exprs pl conditions && laterClauses pl rest

end

/-! ### Patterns -/

/-- A constant that a key of a mapping pattern denotes, numbers by their exact value
when they are finite: real and imaginary part as multiples of a power of two. -/
inductive KeyValue where
  | number (real imaginary : Int)
  | float (x : Float)
  | other (value : Constant)
  deriving DecidableEq, Repr

/-- A finite float as a multiple of `2 ^ (-1074)`. -/
def scaledFloat? (x : Float) : Option Int :=
  match Decimal.decompose x with
  | .finite negative m q => some (Decimal.scaledInt (-1074) negative m q)
  | _ => none

/-- What a literal denotes as a key. -/
def keyOf : Constant → KeyValue
  | .int n => .number (n * twoTo 1074) 0
  | .true => .number (twoTo 1074) 0
  | .false => .number 0 0
  | .float x => match scaledFloat? x with
    | some v => .number v 0
    | none => .float x
  | .imaginary x => match scaledFloat? x with
    | some v => .number 0 v
    | none => .other (.imaginary x)
  | .text codes _ => .other (.text codes false)
  | c => .other c

/-- The negative of a key. -/
def KeyValue.negated : KeyValue → KeyValue
  | .number r i => .number (-r) (-i)
  | .float x => .float (-x)
  | k => k

/-- What an expression denotes as a key, if it is a literal. -/
def literalKey? : Expr → Option KeyValue
  | .constant _ c => some (keyOf c)
  | .unary _ .minus (.constant _ c) => some (keyOf c).negated
  | .binary _ left op (.constant _ c) =>
    match literalKey? left, keyOf c, op with
    | some (.number r i), .number s j, .add => some (.number (r + s) (i + j))
    | some (.number r i), .number s j, .sub => some (.number (r - s) (i - j))
    | some k, _, _ => some k
    | none, _, _ => none
  | _ => none

/-- Whether an expression can be matched by value. -/
def isMatchable : Expr → Bool
  | .attribute .. => true
  | e => (literalKey? e).isSome

/-- Whether no key of a mapping pattern occurs twice. -/
def distinctKeys : List KeyValue → Bool
  | [] => true
  | k :: ks => !ks.contains k && distinctKeys ks

/-- Whether a pattern matches anything and binds nothing. -/
def isWildcard : Pattern → Bool
  | .capture _ none none => true
  | _ => false

/-- Whether a pattern takes the rest of a sequence. -/
def isStar : Pattern → Bool
  | .star .. => true
  | _ => false

/-- Adds a bound name to those bound before, none of which it may repeat. -/
def store (id : String) (stores : List String) : Option (List String) :=
  if stores.contains id || id = reserved then none else some (stores ++ [id])

mutual

/-- The names bound by a pattern behind those of `stores`, `none` when the pattern is
not allowed: `open_` tells that it may match anything. -/
def bindings (pl : Place) (mayMatchAll : Bool) (stores : List String) :
    Pattern → Option (List String)
  | .value _ value => if isMatchable value && expr pl .load value then some stores else none
  | .singleton .. => some stores
  | .sequence _ items =>
    if (items.filter isStar).length ≤ 1 && (items.takeWhile (fun p => !isStar p)).length < 256 then
      subpatterns pl stores items
    else none
  | .mapping _ keys items rest => do
    if !(keys.all isMatchable && distinctKeys (keys.filterMap literalKey?)
        && keys.all (expr pl .load)) then none
    let stores ← subpatterns pl stores items
    match rest with
    | some id => store id stores
    | none => some stores
  | .object _ cls positional ids named => do
    if !(keywordsFit ids && expr pl .load cls) then none
    let stores ← subpatterns pl stores positional
    subpatterns pl stores named
  | .star _ id => match id with
    | some id => store id stores
    | none => some stores
  | .capture _ none id =>
    if !mayMatchAll then none
    else match id with
      | some id => store id stores
      | none => some stores
  | .capture _ (some inner) id => do
    let stores ← bindings pl mayMatchAll stores inner
    match id with
    | some id => store id stores
    | none => some stores
  | .alternatives _ choices => do
    let bound ← alternatives pl mayMatchAll none choices
    if bound.any stores.contains then none else some (stores ++ bound)

/-- The names bound by the parts of a pattern, each of which may match anything. -/
def subpatterns (pl : Place) (stores : List String) : List Pattern → Option (List String)
  | [] => some stores
  | p :: ps => do
    let stores ← bindings pl true stores p
    subpatterns pl stores ps

/-- The names that each of some alternatives binds, which must be the same; only the
last one may match anything. -/
def alternatives (pl : Place) (mayMatchAll : Bool) (control : Option (List String)) :
    List Pattern → Option (List String)
  | [] => control
  | p :: ps => do
    let bound ← bindings pl (ps.isEmpty && mayMatchAll) [] p
    match control with
    | none => alternatives pl mayMatchAll (some bound) ps
    | some ids =>
      if bound.length = ids.length && ids.all bound.contains then
        alternatives pl mayMatchAll (some ids) ps
      else none

end

/-! ### Statements -/

/-- Whether the annotation of a parameter is placed well; that of the rest of the
arguments may be starred. -/
def note (pl : Place) : Option Expr → Bool
  | none => true
  | some (.starred _ e) => pl.asText || expr pl .load e
  | some e => pl.asText || expr pl .load e

/-- Whether contexts are placed well, each inside those before it. -/
def contexts (pl : Place) : List (Expr × Option Expr) → Bool
  | [] => true
  | (e, target) :: rest =>
    expr pl .load e && (pl.within .other).fits
      && (match target with
        | some t => expr (pl.within .other) .store t
        | none => true)
      && contexts (pl.within .other) rest

/-- The place inside `n` contexts. -/
def Place.inContexts (pl : Place) : Nat → Place
  | 0 => pl
  | n + 1 => (pl.within .other).inContexts n

mutual

/-- Whether the index of a target that gets no value is placed well.  Its parts are looked at one
by one, so that none of them may be starred. -/
def index (pl : Place) : Expr → Bool
  | .tuple _ items => indices pl items
  | e => expr pl .load e

/-- Whether the parts of such an index are placed well. -/
def indices (pl : Place) : List Expr → Bool
  | [] => true
  | e :: es => index pl e && indices pl es

end

/-- Whether an annotated assignment is placed well. -/
def annotated (pl : Place) (target note : Expr) (value : Option Expr) : Bool :=
  let evaluated := !pl.asText && (pl.scene = .module || pl.scene = .classBody)
  let noteFits := !evaluated || expr pl .load note
  let targetFits := match target with
    | .name _ id => id ≠ reserved
    | .attribute _ e id => id ≠ reserved && (value.isSome || expr pl .load e)
    | .subscript _ e i => value.isSome || (expr pl .load e && index pl i)
    | _ => true
  let valueFits := match value with
    | some v => expr pl .load v && expr pl .store target
    | none => true
  targetFits && valueFits && noteFits

/-- The target of an augmented assignment: the part of an attribute that is assigned
may have any name. -/
def augmented (pl : Place) : Expr → Bool
  | .attribute _ e _ => expr pl .load e
  | e => expr pl .store e

/-- Whether no import binds a name that no program can assign. -/
def importsFit (names : List Alias) : Bool :=
  names.all fun a => Scope.importedName a ≠ some reserved

/-- The first lines of a program that import features of the language: the last of
these lines, 0 if there is none, for a block behind the documentation text. -/
def futureLine : Block → Nat → Nat
  | .importFrom l (some "__future__") _ _ :: rest, _ => futureLine rest l
  | _, line => line

/-- The features of the language that can be imported. -/
def features : List String :=
  ["nested_scopes", "generators", "division", "absolute_import", "with_statement", "print_function",
   "unicode_literals", "barry_as_FLUFL", "generator_stop", "annotations"]

/-- The features that the first lines of a program import. -/
def imported : Block → List String
  | .importFrom _ (some "__future__") names _ :: rest => names.map Alias.name ++ imported rest
  | _ => []

mutual

/-- Whether every phrase of a statement stands where it may; `first` is the last line
on which features of the language can be imported. -/
def stmt (first : Nat) (pl : Place) : Stmt → Bool
  | .functionDef _ isAsync id ps body decorators returns =>
    let suspended := isAsync || blockHas awaits pl.asText body
    let inner : Place :=
      { scene := if isAsync then .asyncFunction else .function, asText := pl.asText,
        isAsyncGenerator := suspended && blockHas yields pl.asText body }
    id ≠ reserved && exprs pl decorators && exprs pl ps.defaults && optionals pl ps.keywordDefaults
      && (Scope.allParams ps).all (fun p => note pl p.note && p.name ≠ reserved)
      && note pl returns && block first inner body
  | .classDef _ id bases ks body decorators =>
    id ≠ reserved && exprs pl decorators && displayed pl bases && keywordsFit (keywordNames ks)
      && keywords pl ks && block first (pl.entering .classBody) body
  | .ret _ value =>
    pl.scene.isFunction && pl.canReturn && (value.isNone || !pl.isAsyncGenerator) && optional pl value
  | .delete _ ts => targets pl .delete ts
  | .assign _ ts value =>
    expr pl .load value && assigned pl ts
  | .augAssign _ target _ value => augmented pl target && expr pl .load value
  | .annAssign _ target note value _ => annotated pl target note value
  | .forIn _ isAsync target iterable body orelse =>
    (!isAsync || pl.scene = .asyncFunction) && expr pl .load iterable && (pl.within .loop).fits
      && expr (pl.within .loop) .store target && block first (pl.within .loop) body
      && block first pl orelse
  | .whileLoop _ test body orelse =>
    expr pl .load test && (pl.within .loop).fits && block first (pl.within .loop) body
      && block first pl orelse
  | .ifElse _ test body orelse =>
    expr pl .load test && block first pl body && block first pl orelse
  | .withItems _ isAsync items body =>
    (!isAsync || pl.scene = .asyncFunction) && contexts pl items
      && block first (pl.inContexts items.length) body
  | .matchOn _ subject cs => expr pl .load subject && cases first pl (1 < cs.length) cs
  | .raise _ exception cause => optional pl exception && optional pl cause
  | .tryExcept _ isGroup body hs orelse finalbody =>
    let outer := if finalbody.isEmpty then pl else pl.within .other
    let guarded := if hs.isEmpty then outer else outer.within .other
    outer.fits && guarded.fits && block first guarded body && block first outer orelse
      && handlers first (outer.within (if isGroup then .group else .other)) hs
      && block first (pl.within .other) finalbody
  | .assert _ test message => expr pl .load test && optional pl message
  | .importNames _ names => importsFit names
  | .importFrom l module names _ =>
    importsFit names && (module ≠ some "__future__" || l ≤ first)
  | .expression _ value => expr pl .load value
  | .break _ | .continue _ => canLeaveLoop pl.barriers
  | .globalNames .. | .nonlocalNames .. | .pass _ => true

/-- Whether the statements of a block are placed well. -/
def block (first : Nat) (pl : Place) : List Stmt → Bool
  | [] => true
  | s :: ss => stmt first pl s && block first pl ss

/-- Whether `except` clauses are placed well; only the last one may catch
everything. -/
def handlers (first : Nat) (pl : Place) : List Handler → Bool
  | [] => true
  | .handler _ exception id body :: hs =>
    (exception.isSome || hs.isEmpty) && optional pl exception && id ≠ some reserved
      && (pl.within .other).fits && block first (pl.within .other) body && handlers first pl hs

/-- Whether `case` clauses are placed well: one without guard must leave something to
the clauses behind it. -/
def cases (first : Nat) (pl : Place) (several : Bool) : List Case → Bool
  | [] => true
  | .case p guard body :: cs =>
    ((several && cs.isEmpty && isWildcard p) || (bindings pl (guard.isSome || cs.isEmpty) [] p).isSome)
      && optional pl guard && block first pl body && cases first pl several cs

/-- Whether the targets of an assignment are placed well; none of them may be starred
by itself. -/
def assigned (pl : Place) : List Expr → Bool
  | [] => true
  | t :: ts => expr pl .store t && assigned pl ts

end

/-- The statements behind a documentation text. -/
def behindText : Block → Block
  | .expression _ (.constant _ (.text ..)) :: rest => rest
  | body => body

end Placement

/-- Whether a program that is well formed can be run at all. -/
def compiles (body : Block) : Bool :=
  let start := Placement.behindText body
  let imported := Placement.imported start
  let asText := imported.contains "annotations"
  imported.all Placement.features.contains && Scope.consistent asText body
    && Placement.block (Placement.futureLine start 0) { scene := .module, asText } body

end SnippetProfiler.Indented
