import SnippetProfiler.Indented.Syntax

/-!
# Scopes of names

Each module, class, function, lambda expression and comprehension of a program is a
scope.  `Scope.tables` walks a program in the order in which its names are declared
and records for each scope how its names occur; it fails where a declaration
contradicts an occurrence before it.  `Scope.Table.resolves` then looks for the
bindings of the names that are declared to belong to an enclosing function.
-/

namespace SnippetProfiler.Indented.Scope

/-- What makes a scope. -/
inductive Kind where
  | module
  | classBody
  | function
  | comprehension
  | note
  deriving DecidableEq, Repr

/-- How a name occurs in a scope. -/
structure Occurrence where
  isGlobal : Bool := false
  isNonlocal : Bool := false
  isLocal : Bool := false
  isParam : Bool := false
  isUsed : Bool := false
  isAnnotated : Bool := false
  isImported : Bool := false
  isIteration : Bool := false
  deriving DecidableEq, Repr

/-- The occurrences of either of two kinds. -/
def Occurrence.or (a b : Occurrence) : Occurrence :=
  ⟨a.isGlobal || b.isGlobal, a.isNonlocal || b.isNonlocal, a.isLocal || b.isLocal,
   a.isParam || b.isParam, a.isUsed || b.isUsed, a.isAnnotated || b.isAnnotated,
   a.isImported || b.isImported, a.isIteration || b.isIteration⟩

/-- Whether the name gets its value in the scope. -/
def Occurrence.isBound (o : Occurrence) : Bool := o.isLocal || o.isParam || o.isImported

/-- Whether a declaration of the name as global or nonlocal comes too late. -/
def Occurrence.isSettled (o : Occurrence) : Bool :=
  o.isParam || o.isLocal || o.isUsed || o.isAnnotated

/-- The names of a scope with their occurrences, and the scopes inside it. -/
inductive Table where
  | table (kind : Kind) (names : List (String × Occurrence)) (inner : List Table)

/-- A scope that is being walked.  `iterables` counts the iterables of comprehensions
around the current place, and `inTarget` tells that the current place is the target
of a clause. -/
structure Frame where
  kind : Kind
  owner : Option String
  names : List (String × Occurrence) := []
  inner : List Table := []
  iterables : Nat := 0
  inTarget : Bool := false

/-- A step of the walk, with the open scopes, innermost first. -/
abbrev Walk := StateT (List Frame) Option Unit

/-- Contradictory declarations. -/
def refuse : Walk := fun _ => none

/-- The name under which a class keeps a private name. -/
def mangled (owner : Option String) (id : String) : String :=
  match owner with
  | none => id
  | some cls =>
    let cs := id.toList
    let stem := cls.toList.dropWhile (· = '_')
    if ['_', '_'].isPrefixOf cs && !(['_', '_'].isPrefixOf cs.reverse) && !cs.contains '.'
        && !stem.isEmpty then
      .ofList ('_' :: stem ++ cs)
    else id

/-- How a name occurs among recorded names. -/
def occurrence (names : List (String × Occurrence)) (id : String) : Occurrence :=
  ((names.find? fun n => n.1 == id).map Prod.snd).getD {}

/-- Records an occurrence among recorded names. -/
def record (names : List (String × Occurrence)) (id : String) (o : Occurrence) :
    List (String × Occurrence) :=
  match names with
  | [] => [(id, o)]
  | (n, p) :: rest => if n = id then (n, p.or o) :: rest else (n, p) :: record rest id o

/-- Records an occurrence in the outermost scope. -/
def recordOutermost (id : String) (o : Occurrence) : List Frame → List Frame
  | [] => []
  | [f] => [{ f with names := record f.names id o }]
  | f :: fs => f :: recordOutermost id o fs

/-- Records an occurrence in a scope; a second parameter of the same name, and a loop
variable that is assigned otherwise, are contradictions. -/
def Frame.add? (f : Frame) (id : String) (o : Occurrence) : Option Frame :=
  let old := occurrence f.names id
  if o.isParam && old.isParam then none
  else if f.inTarget && ((old.or o).isGlobal || (old.or o).isNonlocal) then none
  else some { f with names := record f.names id { o with isIteration := f.inTarget } }

/-- Records an occurrence in the current scope. -/
def add (id : String) (o : Occurrence) : Walk := fun fs =>
  match fs with
  | [] => none
  | f :: rest => do
    let id := mangled f.owner id
    let f ← f.add? id o
    let fs := f :: rest
    some ((), if o.isGlobal then recordOutermost id { isGlobal := true } fs else fs)

/-- How a name occurs in the current scope so far. -/
def current (id : String) : StateT (List Frame) Option Occurrence := fun fs =>
  match fs with
  | [] => none
  | f :: _ => some (occurrence f.names (mangled f.owner id), fs)

/-- Changes the current scope. -/
def modifyTop (change : Frame → Frame) : Walk := fun fs =>
  match fs with
  | [] => none
  | f :: rest => some ((), change f :: rest)

/-- Walks the inside of a scope. -/
def inside (kind : Kind) (owner : Option String) (walk : Walk) : Walk := fun fs => do
  let outer ← fs.head?
  let frame : Frame := { kind, owner := owner <|> outer.owner, iterables := outer.iterables }
  let (_, fs) ← walk (frame :: fs)
  match fs with
  | f :: g :: rest =>
    let table := Table.table f.kind f.names f.inner.reverse
    let g := if kind = .note then g else { g with inner := table :: g.inner }
    some ((), g :: rest)
  | _ => none

/-- Declares names as global or nonlocal. -/
def declare (o : Occurrence) : List String → Walk
  | [] => pure ()
  | id :: ids => do
    if (← current id).isSettled then refuse
    add id o
    declare o ids

/-- Finds the scope that an assignment inside a comprehension belongs to, and tells
how the comprehension sees the name; comprehensions are passed over unless the name
is one of their loop variables, and classes take no such assignment. -/
def assignmentScope (id : String) : List Frame → Option (List Frame × Occurrence)
  | [] => none
  | f :: fs =>
    let old := occurrence f.names id
    match f.kind with
    | .comprehension =>
      if old.isIteration then none
      else (assignmentScope id fs).map fun (fs, o) => (f :: fs, o)
    | .function =>
      (f.add? (mangled f.owner id) { isLocal := true }).map fun g =>
        (g :: fs, if old.isGlobal then { isGlobal := true } else { isNonlocal := true })
    | .module =>
      (f.add? (mangled f.owner id) { isGlobal := true }).map fun g =>
        (g :: fs, { isGlobal := true })
    | .note => (assignmentScope id fs).map fun (fs, o) => (f :: fs, o)
    | .classBody => none

/-- Assigns a name inside an expression. -/
def assignInside (id : String) : Walk := fun fs => do
  let f ← fs.head?
  if f.iterables ≠ 0 then none
  else if f.kind = .comprehension then
    let (fs, o) ← assignmentScope id fs
    add id o fs
  else some ((), fs)

/-- Refuses an expression in an annotation that is kept as text. -/
def notInAnnotation : Walk := fun fs => do
  let f ← fs.head?
  if f.kind = .note then none else some ((), fs)

/-- Refuses a `yield` directly inside a comprehension. -/
def notInComprehension : Walk := fun fs => do
  let f ← fs.head?
  if f.kind = .comprehension then none else some ((), fs)

/-- Walks an iterable of a comprehension. -/
def asIterable (walk : Walk) : Walk := do
  modifyTop fun f => { f with iterables := f.iterables + 1 }
  walk
  modifyTop fun f => { f with iterables := f.iterables - 1 }

/-- Walks the target of a clause. -/
def asTarget (walk : Walk) : Walk := do
  modifyTop fun f => { f with inTarget := true }
  walk
  modifyTop fun f => { f with inTarget := false }

/-- Records a name that is read; the name of the debugging flag is a literal. -/
def use (id : String) : Walk := do
  if id ≠ "__debug__" then add id { isUsed := true }
  if id = "super" then fun fs => do
    let f ← fs.head?
    if f.kind = .function || f.kind = .comprehension then add "__class__" { isUsed := true } fs
    else some ((), fs)

/-- Records a name that is assigned. -/
def bind (id : String) : Walk := add id { isLocal := true }

/-- Records names as parameters. -/
def parameters : List String → Walk
  | [] => pure ()
  | id :: ids => do
    add id { isParam := true }
    parameters ids

mutual

/-- Walks an expression; `stored` tells that it is assigned or deleted. -/
def expr (stored : Bool) : Expr → Walk
  | .boolean _ _ values => exprs false values
  | .named _ target value => do
    notInAnnotation
    match target with
    | .name _ id => assignInside id
    | _ => pure ()
    expr false value
    expr true target
  | .binary _ left _ right => do
    expr false left
    expr false right
  | .unary _ _ operand => expr false operand
  | .lambda _ params defaults keywordDefaults body => do
    exprs false defaults
    optionals keywordDefaults
    inside .function none do
      parameters (params.positionalOnly.map Name.id ++ params.positional.map Name.id
        ++ params.keywordOnly.map Name.id ++ (params.rest.map Name.id).toList
        ++ (params.keywords.map Name.id).toList)
      expr false body
  | .conditional _ test body orelse => do
    expr false test
    expr false body
    expr false orelse
  | .dict _ keys values => do
    optionals keys
    exprs false values
  | .set _ items => exprs false items
  | .listOf _ element cs | .setOf _ element cs | .generator _ element cs =>
    comprehension (expr false element) cs
  | .dictOf _ key value cs => comprehension (do expr false value; expr false key) cs
  | .await _ value => do
    notInAnnotation
    expr false value
  | .yield _ value => do
    notInAnnotation
    optional value
    notInComprehension
  | .yieldFrom _ value => do
    notInAnnotation
    expr false value
    notInComprehension
  | .compare _ left _ comparators => do
    expr false left
    exprs false comparators
  | .call _ function args ks => do
    expr false function
    exprs false args
    keywords ks
  | .formatted _ value _ spec => do
    expr false value
    optional spec
  | .joined _ parts => exprs false parts
  | .constant .. => pure ()
  | .attribute _ value _ => expr false value
  | .subscript _ value index => do
    expr false value
    expr false index
  | .starred _ value => expr stored value
  | .name _ id => if stored then bind id else use id
  | .list _ items | .tuple _ items => exprs stored items
  | .slice _ lower upper step => do
    optional lower
    optional upper
    optional step

/-- Walks an expression that may be missing. -/
def optional : Option Expr → Walk
  | none => pure ()
  | some e => expr false e

/-- Walks expressions in order. -/
def exprs (stored : Bool) : List Expr → Walk
  | [] => pure ()
  | e :: es => do
    expr stored e
    exprs stored es

/-- Walks expressions that may be missing. -/
def optionals : List (Option Expr) → Walk
  | [] => pure ()
  | e :: es => do
    optional e
    optionals es

/-- Walks keyword arguments. -/
def keywords : List Keyword → Walk
  | [] => pure ()
  | .keyword _ _ value :: ks => do
    expr false value
    keywords ks

/-- Walks a comprehension, whose first iterable belongs to the scope around it;
`element` walks what it collects. -/
def comprehension (element : Walk) : List Clause → Walk
  | [] => pure ()
  | .clause _ target iterable conditions :: rest => do
    asIterable (expr false iterable)
    inside .comprehension none do
      add ".0" { isParam := true }
      asTarget (expr true target)
      exprs false conditions
      clauses rest
      element

/-- Walks the clauses behind the first one. -/
def clauses : List Clause → Walk
  | [] => pure ()
  | .clause _ target iterable conditions :: rest => do
    asTarget (expr true target)
    asIterable (expr false iterable)
    exprs false conditions
    clauses rest

end

/-- Walks an annotation, which is a scope of its own when it is kept as text. -/
def noteWalk (asText : Bool) (e : Expr) : Walk :=
  if asText then inside .note none (expr false e) else expr false e

/-- Walks the annotations of parameters. -/
def annotations (asText : Bool) : List Param → Walk
  | [] => pure ()
  | p :: ps => do
    match p.note with
    | some e => noteWalk asText e
    | none => pure ()
    annotations asText ps

/-- The parameters of a function in the order of their annotations. -/
def allParams (ps : Params) : List Param :=
  ps.positionalOnly ++ ps.positional ++ ps.rest.toList ++ ps.keywords.toList ++ ps.keywordOnly

/-- The name that an import binds; `none` for all names of a module. -/
def importedName (a : Alias) : Option String :=
  let id := a.asName.getD a.name
  if id = "*" then none else some (.ofList (id.toList.takeWhile (· != '.')))

/-- Walks what is imported; all names of a module can be imported only outside
functions and classes. -/
def aliases : List Alias → Walk
  | [] => pure ()
  | a :: rest => do
    match importedName a with
    | some id => add id { isImported := true }
    | none => fun fs => do
      let f ← fs.head?
      if f.kind = .module then some ((), fs) else none
    aliases rest

mutual

/-- Walks a pattern. -/
def pattern : Pattern → Walk
  | .value _ value => expr false value
  | .singleton .. => pure ()
  | .sequence _ items => patterns items
  | .mapping _ keys values rest => do
    exprs false keys
    patterns values
    match rest with
    | some id => bind id
    | none => pure ()
  | .object _ cls positional _ named => do
    expr false cls
    patterns positional
    patterns named
  | .star _ id => match id with
    | some id => bind id
    | none => pure ()
  | .capture _ inner id => do
    match inner with
    | some p => pattern p
    | none => pure ()
    match id with
    | some id => bind id
    | none => pure ()
  | .alternatives _ choices => patterns choices

/-- Walks patterns in order. -/
def patterns : List Pattern → Walk
  | [] => pure ()
  | p :: ps => do
    pattern p
    patterns ps

end

/-- Walks contexts of a `with` statement. -/
def contexts : List (Expr × Option Expr) → Walk
  | [] => pure ()
  | (e, target) :: rest => do
    expr false e
    match target with
    | some t => expr true t
    | none => pure ()
    contexts rest

mutual

/-- Walks a statement. -/
def stmt (asText : Bool) : Stmt → Walk
  | .functionDef _ _ id ps body decorators returns => do
    bind id
    exprs false ps.defaults
    optionals ps.keywordDefaults
    annotations asText (allParams ps)
    match returns with
    | some e => noteWalk asText e
    | none => pure ()
    exprs false decorators
    inside .function none do
      parameters (ps.positionalOnly.map Param.name ++ ps.positional.map Param.name
        ++ ps.keywordOnly.map Param.name ++ (ps.rest.map Param.name).toList
        ++ (ps.keywords.map Param.name).toList)
      block asText body
  | .classDef _ id bases ks body decorators => do
    bind id
    exprs false bases
    keywords ks
    exprs false decorators
    inside .classBody (some id) (block asText body)
  | .ret _ value => optional value
  | .delete _ targets => exprs true targets
  | .assign _ targets value => do
    exprs true targets
    expr false value
  | .augAssign _ target _ value => do
    expr true target
    expr false value
  | .annAssign _ target note value simple => do
    match target with
    | .name _ id =>
      let o ← current id
      if simple && (o.isGlobal || o.isNonlocal) then fun fs => do
        let f ← fs.head?
        if f.kind = .module then some ((), fs) else none
      if simple then add id { isAnnotated := true, isLocal := true }
      else if value.isSome then bind id
    | t => expr true t
    noteWalk asText note
    optional value
  | .forIn _ _ target iterable body orelse => do
    expr true target
    expr false iterable
    block asText body
    block asText orelse
  | .whileLoop _ test body orelse | .ifElse _ test body orelse => do
    expr false test
    block asText body
    block asText orelse
  | .withItems _ _ items body => do
    contexts items
    block asText body
  | .matchOn _ subject cs => do
    expr false subject
    cases asText cs
  | .raise _ exception cause => do
    optional exception
    optional cause
  | .tryExcept _ _ body hs orelse finalbody => do
    block asText body
    block asText orelse
    handlers asText hs
    block asText finalbody
  | .assert _ test message => do
    expr false test
    optional message
  | .importNames _ names | .importFrom _ _ names _ => aliases names
  | .globalNames _ names => declare { isGlobal := true } names
  | .nonlocalNames _ names => declare { isNonlocal := true } names
  | .expression _ value => expr false value
  | .pass _ | .break _ | .continue _ => pure ()

/-- Walks the statements of a block. -/
def block (asText : Bool) : List Stmt → Walk
  | [] => pure ()
  | s :: ss => do
    stmt asText s
    block asText ss

/-- Walks `except` clauses. -/
def handlers (asText : Bool) : List Handler → Walk
  | [] => pure ()
  | .handler _ exception id body :: hs => do
    optional exception
    match id with
    | some id => bind id
    | none => pure ()
    block asText body
    handlers asText hs

/-- Walks `case` clauses. -/
def cases (asText : Bool) : List Case → Walk
  | [] => pure ()
  | .case p guard body :: cs => do
    pattern p
    optional guard
    block asText body
    cases asText cs

end

/-- The scopes of a program; `asText` tells that annotations are kept as text. -/
def tables (asText : Bool) (body : Block) : Option Table := do
  let (_, fs) ← block asText body [{ kind := .module, owner := none }]
  match fs with
  | [f] => some (.table f.kind f.names f.inner.reverse)
  | _ => none

/-- Whether a declared name of a scope can be resolved; `bound` holds the names that
the functions around it bind, if there can be any. -/
def declared (bound : Option (List String)) (name : String × Occurrence) : Bool :=
  if name.2.isNonlocal then
    !name.2.isGlobal && (match bound with
      | some names => names.contains name.1
      | none => false)
  else true

/-- The names that a scope passes on to the scopes inside it. -/
def passedOn (bound : List String) (kind : Kind) (names : List (String × Occurrence)) :
    List String :=
  let kept := bound.filter fun id => !(occurrence names id).isGlobal
  let own := (names.filter fun n => n.2.isBound && !n.2.isGlobal && !n.2.isNonlocal).map Prod.fst
  match kind with
  | .classBody => "__class__" :: bound
  | .function | .comprehension => own ++ kept
  | .module | .note => kept

mutual

/-- Whether every name that a scope or one inside it declares to belong to an
enclosing function is bound in one. -/
def Table.resolves (bound : Option (List String)) : Table → Bool
  | .table kind names inner =>
    names.all (declared bound) && allResolve (passedOn (bound.getD []) kind names) inner

/-- Whether the declared names of all scopes of a list can be resolved. -/
def allResolve (bound : List String) : List Table → Bool
  | [] => true
  | t :: ts => t.resolves (some bound) && allResolve bound ts

end

/-- Whether the declarations of a program fit the occurrences of its names. -/
def consistent (asText : Bool) (body : Block) : Bool :=
  match tables asText body with
  | some t => t.resolves none
  | none => false

end SnippetProfiler.Indented.Scope
