/-!
# Syntax of indented programs

The syntax trees of Python programs, down to the line on which each part starts.
A block is a list of statements, and each compound statement holds its blocks in
the order in which they are written.  Whether an expression is read, assigned or
deleted is not recorded: it follows from where the expression stands.
-/

namespace SnippetProfiler.Indented

/-- The connectives that stop at the first decisive operand. -/
inductive Connective where
  | and | or
  deriving DecidableEq, Repr

/-- The operators on two operands. -/
inductive BinaryOp where
  | add | sub | mult | matMult | div | mod | pow | leftShift | rightShift | bitOr | bitXor | bitAnd
  | floorDiv
  deriving DecidableEq, Repr

/-- The operators on one operand. -/
inductive UnaryOp where
  | invert | not | plus | minus
  deriving DecidableEq, Repr

/-- The operators that compare. -/
inductive CompareOp where
  | eq | notEq | lt | ltE | gt | gtE | is | isNot | isIn | notIn
  deriving DecidableEq, Repr

/-- A literal.  Texts and octets are lists of codes, so that a text may hold half of
a surrogate pair; `marked` tells that a text was written with `u` in front. -/
inductive Constant where
  | none
  | true
  | false
  | ellipsis
  | int (n : Nat)
  | float (x : Float)
  | imaginary (x : Float)
  | text (codes : List Nat) (marked : Bool)
  | octets (codes : List Nat)
  deriving DecidableEq, Repr

/-- A parameter without annotation. -/
structure Name where
  line : Nat
  id : String
  deriving DecidableEq, Repr

/-- The parameters of a lambda expression, defaults apart. -/
structure NameList where
  positionalOnly : List Name := []
  positional : List Name := []
  rest : Option Name := none
  keywordOnly : List Name := []
  keywords : Option Name := none
  deriving DecidableEq, Repr

mutual

/-- An expression, with the line on which it starts. -/
inductive Expr where
  | boolean (line : Nat) (op : Connective) (values : List Expr)
  | named (line : Nat) (target value : Expr)
  | binary (line : Nat) (left : Expr) (op : BinaryOp) (right : Expr)
  | unary (line : Nat) (op : UnaryOp) (operand : Expr)
  | lambda (line : Nat) (params : NameList) (defaults : List Expr)
      (keywordDefaults : List (Option Expr)) (body : Expr)
  | conditional (line : Nat) (test body orelse : Expr)
  | dict (line : Nat) (keys : List (Option Expr)) (values : List Expr)
  | set (line : Nat) (items : List Expr)
  | listOf (line : Nat) (element : Expr) (clauses : List Clause)
  | setOf (line : Nat) (element : Expr) (clauses : List Clause)
  | dictOf (line : Nat) (key value : Expr) (clauses : List Clause)
  | generator (line : Nat) (element : Expr) (clauses : List Clause)
  | await (line : Nat) (value : Expr)
  | yield (line : Nat) (value : Option Expr)
  | yieldFrom (line : Nat) (value : Expr)
  | compare (line : Nat) (left : Expr) (ops : List CompareOp) (comparators : List Expr)
  | call (line : Nat) (function : Expr) (args : List Expr) (keywords : List Keyword)
  | formatted (line : Nat) (value : Expr) (conversion : Option Char) (spec : Option Expr)
  | joined (line : Nat) (parts : List Expr)
  | constant (line : Nat) (value : Constant)
  | attribute (line : Nat) (value : Expr) (name : String)
  | subscript (line : Nat) (value index : Expr)
  | starred (line : Nat) (value : Expr)
  | name (line : Nat) (id : String)
  | list (line : Nat) (items : List Expr)
  | tuple (line : Nat) (items : List Expr)
  | slice (line : Nat) (lower upper step : Option Expr)

/-- A `for` clause of a comprehension with its conditions. -/
inductive Clause where
  | clause (isAsync : Bool) (target iterable : Expr) (conditions : List Expr)

/-- A keyword argument, or a mapping unpacked into keyword arguments. -/
inductive Keyword where
  | keyword (line : Nat) (name : Option String) (value : Expr)

end

instance : Inhabited Expr := ⟨.name 0 ""⟩

/-- The line on which an expression starts. -/
def Expr.line : Expr → Nat
  | .boolean l .. | .named l .. | .binary l .. | .unary l .. | .lambda l .. | .conditional l ..
  | .dict l .. | .set l .. | .listOf l .. | .setOf l .. | .dictOf l .. | .generator l ..
  | .await l .. | .yield l .. | .yieldFrom l .. | .compare l .. | .call l .. | .formatted l ..
  | .joined l .. | .constant l .. | .attribute l .. | .subscript l .. | .starred l .. | .name l ..
  | .list l .. | .tuple l .. | .slice l .. => l

/-- A parameter with its annotation. -/
structure Param where
  line : Nat
  name : String
  note : Option Expr

/-- The parameters of a function.  `defaults` belong to the last positional ones, and
`keywordDefaults` has an entry for each keyword-only parameter. -/
structure Params where
  positionalOnly : List Param := []
  positional : List Param := []
  rest : Option Param := none
  keywordOnly : List Param := []
  keywordDefaults : List (Option Expr) := []
  keywords : Option Param := none
  defaults : List Expr := []

/-- A pattern of a `case`. -/
inductive Pattern where
  | value (line : Nat) (value : Expr)
  | singleton (line : Nat) (value : Constant)
  | sequence (line : Nat) (items : List Pattern)
  | mapping (line : Nat) (keys : List Expr) (patterns : List Pattern) (rest : Option String)
  | object (line : Nat) (cls : Expr) (patterns : List Pattern) (names : List String)
      (keywordPatterns : List Pattern)
  | star (line : Nat) (name : Option String)
  | capture (line : Nat) (pattern : Option Pattern) (name : Option String)
  | alternatives (line : Nat) (patterns : List Pattern)

/-- A name that is imported, and the name it gets. -/
structure Alias where
  line : Nat
  name : String
  asName : Option String

mutual

/-- A statement, with the line on which it starts. -/
inductive Stmt where
  | functionDef (line : Nat) (isAsync : Bool) (name : String) (params : Params) (body : List Stmt)
      (decorators : List Expr) (returns : Option Expr)
  | classDef (line : Nat) (name : String) (bases : List Expr) (keywords : List Keyword)
      (body : List Stmt) (decorators : List Expr)
  | ret (line : Nat) (value : Option Expr)
  | delete (line : Nat) (targets : List Expr)
  | assign (line : Nat) (targets : List Expr) (value : Expr)
  | augAssign (line : Nat) (target : Expr) (op : BinaryOp) (value : Expr)
  | annAssign (line : Nat) (target note : Expr) (value : Option Expr) (simple : Bool)
  | forIn (line : Nat) (isAsync : Bool) (target iterable : Expr) (body orelse : List Stmt)
  | whileLoop (line : Nat) (test : Expr) (body orelse : List Stmt)
  | ifElse (line : Nat) (test : Expr) (body orelse : List Stmt)
  | withItems (line : Nat) (isAsync : Bool) (items : List (Expr × Option Expr)) (body : List Stmt)
  | matchOn (line : Nat) (subject : Expr) (cases : List Case)
  | raise (line : Nat) (exception cause : Option Expr)
  | tryExcept (line : Nat) (isGroup : Bool) (body : List Stmt) (handlers : List Handler)
      (orelse finalbody : List Stmt)
  | assert (line : Nat) (test : Expr) (message : Option Expr)
  | importNames (line : Nat) (names : List Alias)
  | importFrom (line : Nat) (module : Option String) (names : List Alias) (level : Nat)
  | globalNames (line : Nat) (names : List String)
  | nonlocalNames (line : Nat) (names : List String)
  | expression (line : Nat) (value : Expr)
  | pass (line : Nat)
  | break (line : Nat)
  | continue (line : Nat)

/-- An `except` clause. -/
inductive Handler where
  | handler (line : Nat) (exception : Option Expr) (name : Option String) (body : List Stmt)

/-- A `case` clause. -/
inductive Case where
  | case (pattern : Pattern) (guard : Option Expr) (body : List Stmt)

end

instance : Inhabited Stmt := ⟨.pass 0⟩

/-- The line on which a statement starts; that of a decorated definition is the line
of its keyword. -/
def Stmt.line : Stmt → Nat
  | .functionDef l .. | .classDef l .. | .ret l .. | .delete l .. | .assign l .. | .augAssign l ..
  | .annAssign l .. | .forIn l .. | .whileLoop l .. | .ifElse l .. | .withItems l .. | .matchOn l ..
  | .raise l .. | .tryExcept l .. | .assert l .. | .importNames l .. | .importFrom l ..
  | .globalNames l .. | .nonlocalNames l .. | .expression l .. | .pass l | .break l | .continue l => l

/-- A whole program. -/
abbrev Block := List Stmt

end SnippetProfiler.Indented
