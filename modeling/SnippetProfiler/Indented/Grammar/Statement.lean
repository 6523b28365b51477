import SnippetProfiler.Indented.Grammar.Pattern

/-!
# Reading statements

The grammar of statements and blocks.  A statement gets the reader of the blocks
inside it as a parameter; `block` ties the knot by counting nested blocks, and
`parse` reads a whole program.
-/

namespace SnippetProfiler.Indented

open Read

namespace Grammar

variable (r : Rules)

/-! ### Simple statements -/

/-- What stands behind an equals sign. -/
def assigned : Read Expr := do
  if ← seesKeyword "yield" then yieldExpression r else starExpressions r

/-- The operator of an augmented assignment. -/
def augmentedOp : String → Option BinaryOp
  | "+=" => some .add
  | "-=" => some .sub
  | "*=" => some .mult
  | "@=" => some .matMult
  | "/=" => some .div
  | "%=" => some .mod
  | "&=" => some .bitAnd
  | "|=" => some .bitOr
  | "^=" => some .bitXor
  | "<<=" => some .leftShift
  | ">>=" => some .rightShift
  | "**=" => some .pow
  | "//=" => some .floorDiv
  | _ => none

/-- The value of an assignment behind its first target, with the further targets. -/
def assignments : (fuel : Nat) → Read (List Expr × Expr)
  | 0 => fail
  | fuel + 1 => do
    op "="
    let isYield ← seesKeyword "yield"
    let e ← assigned r
    if ← seesOp "=" then
      if isYield || !e.isTarget then fail
      else
        let (ts, v) ← assignments fuel
        return (e :: ts, v)
    else return ([], e)

/-- The target of an annotated assignment in brackets. -/
def bracketedTarget : Read Unit := enclosed "(" ")" do
  let e ← starExpressions r
  if e.isSingleTarget then return else fail

/-- The value behind an annotation, if it has one. -/
def annotatedValue : Read (Option Expr) := do
  if ← skipOp "=" then some <$> assigned r else return none

/-- An assignment, or an expression as a statement.  A statement with an annotation that begins
with a target in brackets has no other target. -/
def expressionStatement : Read Stmt := do
  let l ← line
  if ← seesKeyword "yield" then return .expression l (← yieldExpression r)
  let bare := match ← peek with
    | .name _ => true
    | _ => false
  let left? ← wouldLeave? (bracketedTarget r)
  let e ← starExpressions r
  match ← peek with
  | .op ":" =>
    let left ← remaining
    ensure (e.isSingleTarget && left?.all (· = left))
    op ":"
    let note ← r.expression
    let value ← annotatedValue r
    let simple := match e with
      | .name .. => bare
      | _ => false
    return .annAssign l e note value simple
  | .op "=" =>
    ensure e.isTarget
    let (ts, v) ← assignments r (← remaining)
    return .assign l (e :: ts) v
  | .op symbol =>
    match augmentedOp symbol with
    | some o =>
      ensure e.isSingleTarget
      op symbol
      return .augAssign l e o (← assigned r)
    | none => return .expression l e
  | _ => return .expression l e

/-- Names with points between them. -/
def modulePath : Read String := do
  let first ← name
  let rest ← many (do op "."; name)
  return ".".intercalate (first :: rest)

/-- The new name of something imported. -/
def newName : Read (Option String) := do
  if ← skipKeyword "as" then some <$> name else return none

/-- An `import` statement. -/
def importStatement : Read Stmt := do
  let l ← line
  keyword "import"
  let names ← separated (do
    let l ← line
    let path ← modulePath
    return (⟨l, path, ← newName⟩ : Alias))
  return .importNames l names

/-- The points in front of a relative path. -/
def points : Read Nat := do
  let ps ← many (do
    match ← peek with
    | .op "." => op "."; return 1
    | .op "..." => op "..."; return 3
    | _ => fail)
  return ps.foldl (· + ·) 0

/-- The path behind the points, if there is one. -/
def pathBehind : Read (Option String) := do
  match ← peek with
  | .name _ => some <$> modulePath
  | _ => return none

/-- A name that is imported from a module. -/
def importedName : Read Alias := do
  let l ← line
  let id ← name
  return ⟨l, id, ← newName⟩

/-- A `from` statement. -/
def fromStatement : Read Stmt := do
  let l ← line
  keyword "from"
  let level ← points
  let path ← pathBehind
  ensure (level ≠ 0 || path.isSome)
  keyword "import"
  match ← peek with
  | .op "*" =>
    let starLine ← line
    op "*"
    return .importFrom l path [⟨starLine, "*", none⟩] level
  | .op "(" =>
    op "("
    let (names, _) ← listed importedName
    op ")"
    return .importFrom l path names level
  | _ =>
    let names ← separated importedName
    return .importFrom l path names level

/-- Whether a simple statement ends here. -/
def atEnd : Read Bool := do
  match ← peek with
  | .newline | .op ";" => return true
  | _ => return false

/-- A statement on one line. -/
def simpleStatement : Read Stmt := do
  let l ← line
  match ← peek with
  | .keyword "pass" => keyword "pass"; return .pass l
  | .keyword "break" => keyword "break"; return .break l
  | .keyword "continue" => keyword "continue"; return .continue l
  | .keyword "return" =>
    keyword "return"
    if ← atEnd then return .ret l none else return .ret l (some (← starExpressions r))
  | .keyword "raise" =>
    keyword "raise"
    if ← atEnd then return .raise l none none
    let e ← r.expression
    let cause ← if ← skipKeyword "from" then some <$> r.expression else pure none
    return .raise l (some e) cause
  | .keyword "global" =>
    keyword "global"
    return .globalNames l (← separated name)
  | .keyword "nonlocal" =>
    keyword "nonlocal"
    return .nonlocalNames l (← separated name)
  | .keyword "del" =>
    keyword "del"
    let (ts, _) ← listed (do
      let e ← r.bitwiseOr
      if e.isDeletable then return e else fail)
    return .delete l ts
  | .keyword "assert" =>
    keyword "assert"
    let test ← r.expression
    let message ← if ← skipOp "," then some <$> r.expression else pure none
    return .assert l test message
  | .keyword "import" => importStatement
  | .keyword "from" => fromStatement
  | _ => expressionStatement r

/-- Statements on one line. -/
def simpleStatements : Read Block := do
  let first ← simpleStatement r
  let rest ← many (do op ";"; simpleStatement r)
  let _ ← skipOp ";"
  token .newline
  return first :: rest

/-! ### Compound statements -/

variable (block : Read Block) (depth : Nat)

/-- A block behind `else`, or none. -/
def elseBlock : Read Block := do
  if ← skipKeyword "else" then
    op ":"
    block
  else return []

/-- An `if` statement from its keyword on, which is `elif` in the statements that
make up the alternatives. -/
def ifStatement : (fuel : Nat) → (word : String) → Read Stmt
  | 0, _ => fail
  | fuel + 1, word => do
    let l ← line
    keyword word
    let test ← namedExpression r
    op ":"
    let body ← block
    if ← seesKeyword "elif" then return .ifElse l test body [← ifStatement fuel "elif"]
    else return .ifElse l test body (← elseBlock block)

/-- A `while` statement. -/
def whileStatement : Read Stmt := do
  let l ← line
  keyword "while"
  let test ← namedExpression r
  op ":"
  let body ← block
  return .whileLoop l test body (← elseBlock block)

/-- A `for` statement from its keyword on. -/
def forStatement (l : Nat) (isAsync : Bool) : Read Stmt := do
  keyword "for"
  let t ← targets r
  keyword "in"
  let iterable ← starExpressions r
  op ":"
  let body ← block
  return .forIn l isAsync t iterable body (← elseBlock block)

/-- A context of a `with` statement. -/
def withItem : Read (Expr × Option Expr) := do
  let e ← r.expression
  if ← skipKeyword "as" then
    let t ← target r
    match ← peek with
    | .op "," | .op ")" | .op ":" => return (e, some t)
    | _ => fail
  else return (e, none)

/-- The contexts of a `with` statement up to the colon, in brackets or not. -/
def withHeader : Read (List (Expr × Option Expr)) :=
  either
    (do
      op "("
      let (items, _) ← listed (withItem r)
      op ")"
      op ":"
      return items)
    (do
      let items ← separated (withItem r)
      op ":"
      return items)

/-- A `with` statement from its keyword on. -/
def withStatement (l : Nat) (isAsync : Bool) : Read Stmt := do
  keyword "with"
  let items ← withHeader r
  return .withItems l isAsync items (← block)

/-- An `except` clause; tells whether it handles groups. -/
def handler : Read (Bool × Handler) := do
  let l ← line
  keyword "except"
  if ← skipOp ":" then return (false, .handler l none none (← block))
  let isGroup ← skipOp "*"
  let exception ← r.expression
  let id ← newName
  op ":"
  return (isGroup, .handler l (some exception) id (← block))

/-- A block behind `else` that only some clauses can have in front of it, or none. -/
def elseBehind (clauses : Bool) : Read Block := if clauses then elseBlock block else return []

/-- A block behind `finally`, or none. -/
def finallyBlock : Read Block := do
  if ← skipKeyword "finally" then
    op ":"
    block
  else return []

/-- A `try` statement. -/
def tryStatement : Read Stmt := do
  let l ← line
  keyword "try"
  op ":"
  let body ← block
  let handlers ← many (handler r block)
  let orelse ← elseBehind block (!handlers.isEmpty)
  let finalbody ← finallyBlock block
  let isGroup := handlers.any Prod.fst
  if handlers.isEmpty && finalbody.isEmpty then fail
  else if isGroup && !handlers.all Prod.fst then fail
  else return .tryExcept l isGroup body (handlers.map Prod.snd) orelse finalbody

/-- The annotation of what a function returns, if it has one. -/
def returnNote : Read (Option Expr) := do
  if ← skipOp "->" then some <$> r.expression else return none

/-- A function definition from its keyword on. -/
def functionDefinition (l : Nat) (isAsync : Bool) (decorators : List Expr) : Read Stmt := do
  keyword "def"
  let id ← name
  op "("
  let ps ← params r true ")"
  op ")"
  let returns ← returnNote r
  op ":"
  return .functionDef l isAsync id ps (← block) decorators returns

/-- The arguments of a class definition, which may be missing. -/
def bases : Read (List Expr × List Keyword) := do
  if ← seesOp "(" then classArguments r else return ([], [])

/-- A class definition. -/
def classDefinition (decorators : List Expr) : Read Stmt := do
  let l ← line
  keyword "class"
  let id ← name
  let (bases, keywords) ← bases r
  op ":"
  return .classDef l id bases keywords (← block) decorators

/-- Decorators, each on a line of its own. -/
def decorators : Read (List Expr) := many (do
  op "@"
  let e ← namedExpression r
  token .newline
  return e)

/-- A definition with its decorators. -/
def definition : Read Stmt := do
  let ds ← decorators r
  let l ← line
  match ← peek with
  | .keyword "def" => functionDefinition r block l false ds
  | .keyword "async" =>
    keyword "async"
    functionDefinition r block l true ds
  | _ => classDefinition r block ds

/-- What a `match` statement looks at. -/
def subject : Read Expr := do
  let l ← line
  match ← listed (displayItem r) with
  | ([.starred ..], false) => fail
  | ([e], false) => return e
  | (es, _) => return .tuple l es

/-- A `case` clause. -/
def caseClause : Read Case := do
  token (.name "case")
  let p ← casePattern r depth
  let guard ← if ← skipKeyword "if" then some <$> namedExpression r else pure none
  op ":"
  return .case p guard (← block)

/-- A `match` statement. -/
def matchStatement : Read Stmt := do
  let l ← line
  token (.name "match")
  let e ← subject r
  op ":"
  token .newline
  token .indent
  let cases ← some1 (caseClause r block depth)
  token .dedent
  return .matchOn l e cases

/-- A statement with the statements that share its line. -/
def statement : Read Block := do
  let l ← line
  let one (p : Read Stmt) : Read Block := do return [← p]
  match ← peek, ← peekSecond with
  | .keyword "if", _ => one (ifStatement r block (← remaining) "if")
  | .keyword "while", _ => one (whileStatement r block)
  | .keyword "for", _ => one (forStatement r block l false)
  | .keyword "with", _ => one (withStatement r block l false)
  | .keyword "try", _ => one (tryStatement r block)
  | .keyword "def", _ | .keyword "class", _ | .op "@", _ => one (definition r block)
  | .keyword "async", .keyword "for" =>
    keyword "async"
    one (forStatement r block l true)
  | .keyword "async", .keyword "with" =>
    keyword "async"
    one (withStatement r block l true)
  | .keyword "async", _ => one (definition r block)
  | .name "match", _ => either (one (matchStatement r block depth)) (simpleStatements r)
  | _, _ => simpleStatements r

/-- An indented block, or statements on the same line. -/
def blockWith : Read Block := do
  if ← sees .newline then
    token .newline
    token .indent
    let statements ← some1 (statement r block depth)
    token .dedent
    return statements.flatten
  else simpleStatements r

/-- A block with at most a number of blocks inside each other. -/
def blocks : Nat → Read Block
  | 0 => fail
  | n + 1 => blockWith r (blocks n) depth

/-- A whole program. -/
def program (depth : Nat) : Read Block := do
  let r := rules depth
  let statements ← many (statement r (blocks r depth (Token.blockLimit + 2)) depth)
  token .finish
  return statements.flatten

end Grammar

/-- The statements of a program, `none` when it is not well formed. -/
def parse (source : List Char) : Option Block := do
  let tokens ← Token.scan source
  let (statements, _) ← (Grammar.program (source.length + 8)).run tokens
  return statements

end SnippetProfiler.Indented
