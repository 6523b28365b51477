import SnippetProfiler.Indented.Syntax
import SnippetProfiler.Text.Quoted
import SnippetProfiler.Decimal.Text

/-!
# Printing programs

The text of a syntax tree, one statement on a line, with four spaces for each block
around it and without comments or parentheses that bind nothing.  An expression gets
the binding strength that its place requires, and stands in parentheses when its own
is less.  Inside the fields of a format literal no backslash can be written, so that
some trees have no text.
-/

namespace SnippetProfiler.Indented

/-! ### Binding strength -/

namespace Strength

/-- The binding strengths, from the weakest to the strongest. -/
def named : Nat := 1
def tuple : Nat := 2
def yield : Nat := 3
def test : Nat := 4
def or : Nat := 5
def and : Nat := 6
def not : Nat := 7
def compare : Nat := 8
def bitOr : Nat := 9
def bitXor : Nat := 10
def bitAnd : Nat := 11
def shift : Nat := 12
def sum : Nat := 13
def term : Nat := 14
def factor : Nat := 15
def power : Nat := 16
def await : Nat := 17
def atom : Nat := 18

/-- The next binding strength. -/
def next (p : Nat) : Nat := min (p + 1) atom

end Strength

/-- The symbol of an operator. -/
def BinaryOp.symbol : BinaryOp → String
  | .add => "+"
  | .sub => "-"
  | .mult => "*"
  | .matMult => "@"
  | .div => "/"
  | .mod => "%"
  | .pow => "**"
  | .leftShift => "<<"
  | .rightShift => ">>"
  | .bitOr => "|"
  | .bitXor => "^"
  | .bitAnd => "&"
  | .floorDiv => "//"

/-- The binding strength of an operator. -/
def BinaryOp.strength : BinaryOp → Nat
  | .add | .sub => Strength.sum
  | .mult | .matMult | .div | .mod | .floorDiv => Strength.term
  | .pow => Strength.power
  | .leftShift | .rightShift => Strength.shift
  | .bitOr => Strength.bitOr
  | .bitXor => Strength.bitXor
  | .bitAnd => Strength.bitAnd

/-- The symbol of an operator. -/
def CompareOp.symbol : CompareOp → String
  | .eq => "=="
  | .notEq => "!="
  | .lt => "<"
  | .ltE => "<="
  | .gt => ">"
  | .gtE => ">="
  | .is => "is"
  | .isNot => "is not"
  | .isIn => "in"
  | .notIn => "not in"

/-- The symbol of an operator, with the space behind a word. -/
def UnaryOp.symbol : UnaryOp → String
  | .invert => "~"
  | .not => "not "
  | .plus => "+"
  | .minus => "-"

/-- The binding strength of an operator. -/
def UnaryOp.strength : UnaryOp → Nat
  | .not => Strength.not
  | _ => Strength.factor

namespace Print

/-- Texts with a separator between them. -/
def separated (separator : String) (parts : List String) : String := separator.intercalate parts

/-- Texts with commas between them; one alone is followed by a comma. -/
def items (parts : List String) : String :=
  match parts with
  | [one] => one ++ ","
  | _ => separated ", " parts

/-- A text in parentheses if a condition holds. -/
def grouped (condition : Bool) (text : String) : String :=
  if condition then "(" ++ text ++ ")" else text

/-! ### Literals -/

/-- The marks that may enclose a literal, in the order of preference. -/
def quotes : List (List Char) :=
  [['\''], ['"'], ['"', '"', '"'], ['\'', '\'', '\'']]

/-- The marks that may enclose a literal of several lines. -/
def longQuotes : List (List Char) := [['"', '"', '"'], ['\'', '\'', '\'']]

/-- Whether a text occurs in another. -/
def occurs (part : List Char) : List Char → Bool
  | [] => part.isEmpty
  | c :: cs => part.isPrefixOf (c :: cs) || occurs part cs

/-- A code in a literal that avoids escapes: line breaks and tabs are shown as they
are unless `strict` holds. -/
def shown (strict : Bool) (n : Nat) : List Char :=
  if !strict && (n = '\n'.toNat || n = '\t'.toNat) then [Char.ofNat n]
  else if n = '\\'.toNat then ['\\', '\\']
  else if Text.isPrintableCode n then [Char.ofNat n]
  else Text.Quoted.hidden n

/-- The inside of a literal with few escapes, and the marks that can enclose it, best
first, among those in `allowed`. -/
def body (allowed : List (List Char)) (strict : Bool) (codes : List Nat) :
    List Char × List (List Char) :=
  let escaped := codes.flatMap (shown strict)
  let possible := if escaped.contains '\n' then allowed.filter longQuotes.contains else allowed
  let possible := possible.filter fun q => !occurs q escaped
  match possible with
  | [] =>
    let literal := Text.Quoted.encodeCodes codes
    let mark := literal.take 1
    let quote := (allowed.find? fun q => occurs mark q).getD mark
    ((literal.drop 1).dropLast, [quote])
  | _ =>
    match escaped.getLast? with
    | none => (escaped, possible)
    | some last =>
      let clash (q : List Char) : Bool := q.head? = some last
      let possible := possible.filter (fun q => !clash q) ++ possible.filter clash
      if (possible.head?.map clash).getD false then
        (escaped.dropLast ++ ['\\', last], possible)
      else (escaped, possible)

/-- A literal with few escapes. -/
def avoiding (allowed : List (List Char)) (codes : List Nat) : List Char :=
  let (inside, marks) := body allowed false codes
  let quote := marks.headD []
  quote ++ inside ++ quote

/-- Doubles the braces of a text. -/
def doubled (codes : List Nat) : List Nat :=
  codes.flatMap fun n => if n = '{'.toNat || n = '}'.toNat then [n, n] else [n]

/-- Chooses marks for the parts of a format literal one after another: the parts that
have been written, and the marks that fit all of them; `none` when no mark does. -/
def chooseMarks (marks : List (List Char)) : List (List Nat × Bool) →
    Option (List Char × List (List Char))
  | [] => some ([], marks)
  | (codes, isText) :: rest =>
    let (inside, found) := body marks isText codes
    if found.any marks.contains then
      (chooseMarks found rest).map fun (more, last) => (inside ++ more, last)
    else none

/-- A format literal given by the codes of its parts, with whether each is text. -/
def formatLiteral (parts : List (List Nat × Bool)) : List Char :=
  match chooseMarks quotes parts with
  | some (inside, marks) =>
    let quote := marks.headD []
    quote ++ inside ++ quote
  | none =>
    let long := ['\'', '\'', '\'']
    let inside := parts.flatMap fun (codes, _) =>
      ((Text.Quoted.encodeCodes ('"'.toNat :: codes)).drop 2).dropLast
    long ++ inside ++ long

/-- The codes of a text. -/
def codesOf (s : String) : List Nat := s.toList.map Char.toNat

/-- The layout of floats in programs; a literal too large for a float is infinite. -/
def floatLayout : Decimal.Layout := ⟨-4, 15, true, 2, true, "1e309", "nan"⟩

/-- The layout of imaginary numbers in programs. -/
def imaginaryLayout : Decimal.Layout := ⟨-4, 15, false, 2, true, "1e309", "nan"⟩

/-- A literal; `plain` tells that backslashes must be avoided. -/
def constant (plain : Bool) : Constant → Option String
  | .none => some "None"
  | .true => some "True"
  | .false => some "False"
  | .ellipsis => some "..."
  | .int n => if tenTo 4300 ≤ n then none else some (Decimal.integer n)
  | .float x => some (floatLayout.write x)
  | .imaginary x => some (imaginaryLayout.write x ++ "j")
  | .text codes marked =>
    let literal := if plain then avoiding quotes codes else Text.Quoted.encodeCodes codes
    some ((if marked then "u" else "") ++ .ofList literal)
  | .octets codes => some (.ofList (Text.Quoted.encodeOctets codes))

/-- The text of the parameters of a lambda expression or a function.  Each parameter
comes as its text, each default likewise. -/
def parameters (positionalOnly positional : List String) (defaults : List String)
    (rest : Option String) (keywordOnly : List String) (keywordDefaults : List (Option String))
    (keywords : Option String) : String :=
  let withDefault (p : String) (d : Option String) : String :=
    match d with
    | some d => p ++ "=" ++ d
    | none => p
  let all := positionalOnly ++ positional
  let filled : List (Option String) :=
    List.replicate (all.length - defaults.length) none ++ defaults.map some
  let plain := all.zipWith withDefault filled
  let before :=
    if positionalOnly.isEmpty then plain
    else plain.take positionalOnly.length ++ "/" :: plain.drop positionalOnly.length
  let star :=
    match rest with
    | some p => ["*" ++ p]
    | none => if keywordOnly.isEmpty then [] else ["*"]
  let named := keywordOnly.zipWith withDefault keywordDefaults
  let last :=
    match keywords with
    | some p => ["**" ++ p]
    | none => []
  separated ", " (before ++ star ++ named ++ last)

/-- The parameters of a lambda expression, given the texts of the defaults. -/
def names (ps : NameList) (defaults : List String) (keywordDefaults : List (Option String)) :
    String :=
  parameters (ps.positionalOnly.map Name.id) (ps.positional.map Name.id) defaults
    (ps.rest.map Name.id) (ps.keywordOnly.map Name.id) keywordDefaults (ps.keywords.map Name.id)

/-- The codes of a replacement field, given the text of its expression, which must not
hold a backslash. -/
def field (value : String) (conversion : Option Char) (spec : Option (List Nat)) :
    Option (List Nat) :=
  if value.toList.contains '\\' then none
  else
    let space := if value.toList.head? = some '{' then " " else ""
    let mark := match conversion with
      | some c => String.ofList ['!', c]
      | none => ""
    let format := match spec with
      | some codes => ':'.toNat :: codes
      | none => []
    some (codesOf ("\x7b" ++ space ++ value ++ mark) ++ format ++ [ '}'.toNat ])

/-- Whether an attribute of a literal needs a space in front of the point. -/
def needsSpace : Expr → Bool
  | .constant _ (.int _) | .constant _ .true | .constant _ .false => true
  | _ => false

/-- Whether an expression is a literal. -/
def isConstant : Expr → Bool
  | .constant .. => true
  | _ => false

mutual

/-- The text of an expression; `plain` tells that backslashes must be avoided, and
`p` is the binding strength that the place requires. -/
def expr (plain : Bool) (p : Nat) : Expr → Option String
  | .boolean _ op values => do
    let (own, word) := match op with
      | .and => (Strength.and, " and ")
      | .or => (Strength.or, " or ")
    return grouped (own < p) (separated word (← rising plain (Strength.next own) values))
  | .named _ target value => do
    let t ← expr plain Strength.atom target
    let v ← expr plain Strength.atom value
    return grouped (Strength.named < p) (t ++ " := " ++ v)
  | .binary _ left op right => do
    let own := op.strength
    let (lp, rp) := if op = .pow then (Strength.next own, own) else (own, Strength.next own)
    let l ← expr plain lp left
    let r ← expr plain rp right
    return grouped (own < p) (l ++ " " ++ op.symbol ++ " " ++ r)
  | .unary _ op operand => do
    let e ← expr plain op.strength operand
    return grouped (op.strength < p) (op.symbol ++ e)
  | .lambda _ params defaults keywordDefaults body => do
    let ds ← exprs plain Strength.test defaults
    let ks ← optionals plain keywordDefaults
    let b ← expr plain Strength.test body
    let ps := names params ds ks
    return grouped (Strength.test < p)
      ("lambda" ++ (if ps.isEmpty then "" else " " ++ ps) ++ ": " ++ b)
  | .conditional _ test body orelse => do
    let b ← expr plain (Strength.next Strength.test) body
    let t ← expr plain (Strength.next Strength.test) test
    let e ← expr plain Strength.test orelse
    return grouped (Strength.test < p) (b ++ " if " ++ t ++ " else " ++ e)
  | .dict _ keys values => do
    let ks ← optionals plain keys
    let vs ← valuesAfter plain (keys.map Option.isSome) values
    let pair (k : Option String) (v : String) : String :=
      match k with
      | some k => k ++ ": " ++ v
      | none => "**" ++ v
    return "\x7b" ++ separated ", " (ks.zipWith pair vs) ++ "\x7d"
  | .set _ elements => do
    let es ← exprs plain Strength.test elements
    return if es.isEmpty then "\x7b*()\x7d" else "\x7b" ++ separated ", " es ++ "\x7d"
  | .listOf _ element cs => do
    return "[" ++ (← expr plain Strength.test element) ++ (← clauses plain cs) ++ "]"
  | .setOf _ element cs => do
    return "\x7b" ++ (← expr plain Strength.test element) ++ (← clauses plain cs) ++ "\x7d"
  | .dictOf _ key value cs => do
    let k ← expr plain Strength.test key
    let v ← expr plain Strength.test value
    return "\x7b" ++ k ++ ": " ++ v ++ (← clauses plain cs) ++ "\x7d"
  | .generator _ element cs => do
    return "(" ++ (← expr plain Strength.test element) ++ (← clauses plain cs) ++ ")"
  | .await _ value => do
    return grouped (Strength.await < p) ("await " ++ (← expr plain Strength.atom value))
  | .yield _ value => do
    match ← optional plain Strength.atom value with
    | some v => return grouped (Strength.yield < p) ("yield " ++ v)
    | none => return grouped (Strength.yield < p) "yield"
  | .yieldFrom _ value => do
    return grouped (Strength.yield < p) ("yield from " ++ (← expr plain Strength.atom value))
  | .compare _ left ops comparators => do
    let l ← expr plain (Strength.next Strength.compare) left
    let cs ← exprs plain (Strength.next Strength.compare) comparators
    let rest := ops.zipWith (fun o c => " " ++ o.symbol ++ " " ++ c) cs
    return grouped (Strength.compare < p) (l ++ String.join rest)
  | .call _ function args ks => do
    let f ← expr plain Strength.atom function
    let es ← exprs plain Strength.test args
    return f ++ "(" ++ separated ", " (es ++ (← keywords plain ks)) ++ ")"
  | .formatted _ value conversion spec => do
    let codes ← field (← expr true (Strength.next Strength.test) value) conversion
      (← optionalInside spec)
    return .ofList (codes.map Char.ofNat)
  | .joined _ parts => do
    let ps ← insides parts
    if plain then
      return "f" ++ .ofList (avoiding quotes (ps.flatMap Prod.fst))
    else return "f" ++ .ofList (formatLiteral ps)
  | .constant _ value => constant plain value
  | .attribute _ value name => do
    let v ← expr plain Strength.atom value
    return v ++ (if needsSpace value then " ." else ".") ++ name
  | .subscript _ value index => do
    let v ← expr plain Strength.atom value
    match index with
    | .tuple _ (e :: es) =>
      let is ← exprs plain Strength.test (e :: es)
      return v ++ "[" ++ items is ++ "]"
    | e => return v ++ "[" ++ (← expr plain Strength.test e) ++ "]"
  | .starred _ value => do
    return "*" ++ (← expr plain Strength.bitOr value)
  | .name _ id => some id
  | .list _ elements => do
    return "[" ++ separated ", " (← exprs plain Strength.test elements) ++ "]"
  | .tuple _ elements => do
    let es ← exprs plain Strength.test elements
    return grouped (es.isEmpty || Strength.tuple < p) (items es)
  | .slice _ lower upper step => do
    let l ← optional plain Strength.test lower
    let u ← optional plain Strength.test upper
    let s ← optional plain Strength.test step
    return l.getD "" ++ ":" ++ u.getD "" ++ (match s with
      | some s => ":" ++ s
      | none => "")

/-- The codes of a part of a format literal: of a text, whose braces are doubled, of a
field, or of all parts of a specification. -/
def inside : Expr → Option (List Nat)
  | .constant _ (.text codes _) => some (doubled codes)
  | .formatted _ value conversion spec => do
    field (← expr true (Strength.next Strength.test) value) conversion (← optionalInside spec)
  | .joined _ parts => do
    return (← insides parts).flatMap Prod.fst
  | _ => none

/-- The codes of a format specification. -/
def optionalInside : Option Expr → Option (Option (List Nat))
  | none => some none
  | some e => (inside e).map some

/-- The codes of the parts of a format literal, with whether each is text. -/
def insides : List Expr → Option (List (List Nat × Bool))
  | [] => some []
  | e :: es => do
    let codes ← inside e
    return (codes, isConstant e) :: (← insides es)

/-- The text of an expression that may be missing. -/
def optional (plain : Bool) (p : Nat) : Option Expr → Option (Option String)
  | none => some none
  | some e => (expr plain p e).map some

/-- The texts of expressions that require the same strength. -/
def exprs (plain : Bool) (p : Nat) : List Expr → Option (List String)
  | [] => some []
  | e :: es => do return (← expr plain p e) :: (← exprs plain p es)

/-- The texts of expressions each of which requires more strength than the one
before. -/
def rising (plain : Bool) (p : Nat) : List Expr → Option (List String)
  | [] => some []
  | e :: es => do return (← expr plain p e) :: (← rising plain (Strength.next p) es)

/-- The texts of expressions that may be missing. -/
def optionals (plain : Bool) : List (Option Expr) → Option (List (Option String))
  | [] => some []
  | e :: es => do return (← optional plain Strength.test e) :: (← optionals plain es)

/-- The texts of the values of a dictionary, given which of them have keys. -/
def valuesAfter (plain : Bool) (keyed : List Bool) : List Expr → Option (List String)
  | [] => some []
  | e :: es => do
    let p := if keyed.headD true then Strength.test else Strength.bitOr
    return (← expr plain p e) :: (← valuesAfter plain keyed.tail es)

/-- The text of the clauses of a comprehension. -/
def clauses (plain : Bool) : List Clause → Option String
  | [] => some ""
  | .clause isAsync target iterable conditions :: rest => do
    let t ← expr plain Strength.tuple target
    let i ← expr plain (Strength.next Strength.test) iterable
    let cs ← exprs plain (Strength.next Strength.test) conditions
    let word := if isAsync then " async for " else " for "
    return word ++ t ++ " in " ++ i ++ String.join (cs.map (" if " ++ ·)) ++ (← clauses plain rest)

/-- The texts of keyword arguments. -/
def keywords (plain : Bool) : List Keyword → Option (List String)
  | [] => some []
  | .keyword _ name value :: rest => do
    let v ← expr plain Strength.test value
    let text := match name with
      | some id => id ++ "=" ++ v
      | none => "**" ++ v
    return text :: (← keywords plain rest)

end

/-! ### Patterns -/

mutual

/-- The text of a pattern at a place that requires a binding strength. -/
def pattern (p : Nat) : Pattern → Option String
  | .value _ value => expr false Strength.test value
  | .singleton _ value => constant false value
  | .sequence _ elements => do
    return "[" ++ separated ", " (← patterns Strength.test elements) ++ "]"
  | .mapping _ keys values rest => do
    let ks ← exprs false Strength.test keys
    let ps ← patterns Strength.test values
    let pairs := ks.zipWith (fun k q => k ++ ": " ++ q) ps
    let last := match rest with
      | some id => ["**" ++ id]
      | none => []
    return "\x7b" ++ separated ", " (pairs ++ last) ++ "\x7d"
  | .object _ cls positional ids named => do
    let c ← expr false Strength.atom cls
    let ps ← patterns Strength.test positional
    let ns ← patterns Strength.test named
    return c ++ "(" ++ separated ", " (ps ++ ids.zipWith (fun id q => id ++ "=" ++ q) ns) ++ ")"
  | .star _ id => some ("*" ++ id.getD "_")
  | .capture _ _ none => some "_"
  | .capture _ none (some id) => some id
  | .capture _ (some inner) (some id) => do
    return grouped (Strength.test < p) ((← pattern Strength.bitOr inner) ++ " as " ++ id)
  | .alternatives _ choices => do
    return grouped (Strength.bitOr < p)
      (separated " | " (← patterns (Strength.next Strength.bitOr) choices))

/-- The texts of patterns that require the same strength. -/
def patterns (p : Nat) : List Pattern → Option (List String)
  | [] => some []
  | q :: qs => do return (← pattern p q) :: (← patterns p qs)

end

/-! ### Statements -/

/-- The text of an expression where nothing stronger than a condition is required. -/
def plainExpr (e : Expr) : Option String := expr false Strength.test e

/-- The texts of expressions where nothing stronger than a condition is required. -/
def plainExprs (es : List Expr) : Option (List String) := exprs false Strength.test es

/-- The text of a parameter with its annotation. -/
def param (p : Param) : Option String := do
  match p.note with
  | some e => return p.name ++ ": " ++ (← plainExpr e)
  | none => return p.name

/-- The text of the parameters of a function. -/
def params (ps : Params) : Option String := do
  let first ← ps.positionalOnly.mapM param
  let positional ← ps.positional.mapM param
  let defaults ← plainExprs ps.defaults
  let rest ← ps.rest.mapM param
  let keywordOnly ← ps.keywordOnly.mapM param
  let keywordDefaults ← optionals false ps.keywordDefaults
  let keywords ← ps.keywords.mapM param
  return parameters first positional defaults rest keywordOnly keywordDefaults keywords

/-- The text of something imported. -/
def imported (a : Alias) : String :=
  match a.asName with
  | some id => a.name ++ " as " ++ id
  | none => a.name

/-- The text of a context of a `with` statement. -/
def context (item : Expr × Option Expr) : Option String := do
  let e ← plainExpr item.1
  match item.2 with
  | some t => return e ++ " as " ++ (← plainExpr t)
  | none => return e

/-- A line at a depth of blocks. -/
def lineAt (depth : Nat) (text : String) : String :=
  .ofList (List.replicate (4 * depth) ' ') ++ text

/-- The line of a documentation text, the first statement of a definition. -/
def documentation (depth : Nat) (codes : List Nat) (marked : Bool) : String :=
  lineAt depth ((if marked then "u" else "") ++ .ofList (avoiding longQuotes codes))

/-- A text behind a word, if there is one. -/
def behind (word : String) : Option String → String
  | some text => word ++ text
  | none => ""

mutual

/-- The lines of a statement inside `depth` blocks; `word` is the keyword of an `if`
statement. -/
def stmt (depth : Nat) (word : String) : Stmt → Option (List String)
  | .functionDef _ isAsync id ps body decorators returns => do
    let ds ← plainExprs decorators
    let signature ← params ps
    let result ← returns.mapM plainExpr
    let head := (if isAsync then "async def " else "def ") ++ id ++ "(" ++ signature ++ ")"
      ++ behind " -> " result ++ ":"
    return "" :: ds.map (fun d => lineAt depth ("@" ++ d)) ++ lineAt depth head
      :: (← definition (depth + 1) body)
  | .classDef _ id bases ks body decorators => do
    let ds ← plainExprs decorators
    let args := (← plainExprs bases) ++ (← keywords false ks)
    let head := "class " ++ id ++ grouped (!args.isEmpty) (separated ", " args) ++ ":"
    return "" :: ds.map (fun d => lineAt depth ("@" ++ d)) ++ lineAt depth head
      :: (← definition (depth + 1) body)
  | .ret _ value => do
    return [lineAt depth ("return" ++ behind " " (← value.mapM plainExpr))]
  | .delete _ targets => do
    return [lineAt depth ("del " ++ separated ", " (← plainExprs targets))]
  | .assign _ targets value => do
    let ts ← exprs false Strength.tuple targets
    let v ← plainExpr value
    return [lineAt depth (String.join (ts.map (· ++ " = ")) ++ v)]
  | .augAssign _ target op value => do
    let t ← plainExpr target
    return [lineAt depth (t ++ " " ++ op.symbol ++ "= " ++ (← plainExpr value))]
  | .annAssign _ target note value simple => do
    let t ← plainExpr target
    let bare := match target with
      | .name .. => !simple
      | _ => false
    let a ← plainExpr note
    return [lineAt depth (grouped bare t ++ ": " ++ a ++ behind " = " (← value.mapM plainExpr))]
  | .forIn _ isAsync target iterable body orelse => do
    let t ← expr false Strength.tuple target
    let i ← plainExpr iterable
    let head := (if isAsync then "async for " else "for ") ++ t ++ " in " ++ i ++ ":"
    return lineAt depth head :: (← block (depth + 1) body) ++ (← elseLines depth "else:" orelse)
  | .whileLoop _ test body orelse => do
    let head := "while " ++ (← plainExpr test) ++ ":"
    return lineAt depth head :: (← block (depth + 1) body) ++ (← elseLines depth "else:" orelse)
  | .ifElse _ test body orelse => do
    let head := word ++ " " ++ (← plainExpr test) ++ ":"
    let lines := lineAt depth head :: (← block (depth + 1) body)
    match orelse with
    | [.ifElse l t b o] => return lines ++ (← stmt depth "elif" (.ifElse l t b o))
    | orelse => return lines ++ (← elseLines depth "else:" orelse)
  | .withItems _ isAsync items body => do
    let contexts ← items.mapM context
    let head := (if isAsync then "async with " else "with ") ++ separated ", " contexts ++ ":"
    return lineAt depth head :: (← block (depth + 1) body)
  | .matchOn _ subject cs => do
    return lineAt depth ("match " ++ (← plainExpr subject) ++ ":") :: (← cases (depth + 1) cs)
  | .raise _ exception cause => do
    return [lineAt depth ("raise" ++ behind " " (← exception.mapM plainExpr)
      ++ behind " from " (← cause.mapM plainExpr))]
  | .tryExcept _ isGroup body hs orelse finalbody => do
    let b ← block (depth + 1) body
    let h ← handlers depth (if isGroup then "except*" else "except") hs
    return lineAt depth "try:" :: b ++ h ++ (← elseLines depth "else:" orelse)
      ++ (← elseLines depth "finally:" finalbody)
  | .assert _ test message => do
    return [lineAt depth ("assert " ++ (← plainExpr test)
      ++ behind ", " (← message.mapM plainExpr))]
  | .importNames _ names => some [lineAt depth ("import " ++ separated ", " (names.map imported))]
  | .importFrom _ module names level =>
    some [lineAt depth ("from " ++ .ofList (List.replicate level '.') ++ module.getD ""
      ++ " import " ++ separated ", " (names.map imported))]
  | .globalNames _ names => some [lineAt depth ("global " ++ separated ", " names)]
  | .nonlocalNames _ names => some [lineAt depth ("nonlocal " ++ separated ", " names)]
  | .expression _ value => do return [lineAt depth (← expr false Strength.yield value)]
  | .pass _ => some [lineAt depth "pass"]
  | .break _ => some [lineAt depth "break"]
  | .continue _ => some [lineAt depth "continue"]

/-- The lines of the statements of a block. -/
def block (depth : Nat) : List Stmt → Option (List String)
  | [] => some []
  | s :: ss => do return (← stmt depth "if" s) ++ (← block depth ss)

/-- The lines of a block behind a word, none for an empty block. -/
def elseLines (depth : Nat) (word : String) : List Stmt → Option (List String)
  | [] => some []
  | s :: ss => do
    let first ← stmt (depth + 1) "if" s
    return lineAt depth word :: first ++ (← block (depth + 1) ss)

/-- The lines of the block of a definition, which may start with a documentation
text. -/
def definition (depth : Nat) : List Stmt → Option (List String)
  | [] => some []
  | .expression _ (.constant _ (.text codes marked)) :: ss => do
    return documentation depth codes marked :: (← block depth ss)
  | s :: ss => do return (← stmt depth "if" s) ++ (← block depth ss)

/-- The lines of `except` clauses. -/
def handlers (depth : Nat) (word : String) : List Handler → Option (List String)
  | [] => some []
  | .handler _ exception id body :: hs => do
    let e ← exception.mapM plainExpr
    let head := word ++ behind " " e ++ behind " as " id ++ ":"
    return lineAt depth head :: (← block (depth + 1) body) ++ (← handlers depth word hs)

/-- The lines of `case` clauses. -/
def cases (depth : Nat) : List Case → Option (List String)
  | [] => some []
  | .case p guard body :: cs => do
    let head := "case " ++ (← pattern Strength.test p)
      ++ behind " if " (← guard.mapM plainExpr) ++ ":"
    return lineAt depth head :: (← block (depth + 1) body) ++ (← cases depth cs)

end

/-- The lines of a program. -/
def program (body : Block) : Option (List String) := do
  match ← definition 0 body with
  | "" :: lines => return lines
  | lines => return lines

end Print

/-- The text of a program without a line break at its end. -/
def print (body : Block) : Option String := (Print.program body).map ("\n".intercalate ·)

end SnippetProfiler.Indented
