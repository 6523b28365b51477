import SnippetProfiler.Indented.Grammar.Basic
import SnippetProfiler.Indented.Format

/-!
# Reading expressions

The grammar of expressions.  Each level of binding strength has a reader, from
`bitwiseOr` down to `atom`, given the readers for the phrases inside brackets; these
come as a record of `Rules`, and `rules` ties the knot by counting nested brackets.
-/

namespace SnippetProfiler.Indented

open Read

/-- The readers of expressions at one depth of nesting. -/
structure Rules where
  /-- An expression without `:=` outside brackets. -/
  expression : Read Expr
  /-- Operands of `or`. -/
  disjunction : Read Expr
  /-- Operands of comparisons. -/
  bitwiseOr : Read Expr

/-- No expression at all. -/
def Rules.none : Rules := ⟨fail, fail, fail⟩

namespace Grammar

variable (r : Rules)

/-! ### Phrases inside brackets -/

/-- Whether an expression that names its value starts here. -/
def seesNaming : Read Bool := do
  match ← peek, ← peekSecond with
  | .name _, .op ":=" => return true
  | _, _ => return false

/-- An expression that may name its value. -/
def namedExpression : Read Expr := do
  let l ← line
  match ← peek, ← peekSecond with
  | .name id, .op ":=" =>
    let _ ← name
    op ":="
    return .named l (.name l id) (← r.expression)
  | _, _ =>
    let e ← r.expression
    if ← seesOp ":=" then fail else return e

/-- An operand of a display or call that is unpacked. -/
def starredItem (operand : Read Expr) : Read Expr := do
  let l ← line
  op "*"
  return .starred l (← operand)

/-- An item of a display. -/
def displayItem : Read Expr := do
  if ← seesOp "*" then starredItem r.bitwiseOr else namedExpression r

/-- An item of an expression list. -/
def listItem : Read Expr := do
  if ← seesOp "*" then starredItem r.bitwiseOr else r.expression

/-- Expressions with commas between them; with a comma they form a tuple. -/
def expressionList (item : Read Expr) : Read Expr := do
  let l ← line
  match ← listed item with
  | ([e], false) => return e
  | (es, _) => return .tuple l es

/-- An expression list. -/
def starExpressions : Read Expr := expressionList (listItem r)

/-- A `yield` expression. -/
def yieldExpression : Read Expr := do
  let l ← line
  keyword "yield"
  if ← skipKeyword "from" then return .yieldFrom l (← r.expression)
  else return .yield l (← Read.optional (starExpressions r))

end Grammar

/-! ### Targets -/

mutual

/-- Whether a value can be assigned to an expression. -/
def Expr.isTarget : Expr → Bool
  | .name .. | .attribute .. | .subscript .. => true
  | .starred _ e => e.isTarget
  | .list _ es | .tuple _ es => allTargets es
  | _ => false

/-- Whether values can be assigned to all expressions of a list. -/
def allTargets : List Expr → Bool
  | [] => true
  | e :: es => e.isTarget && allTargets es

end

mutual

/-- Whether an expression can be deleted. -/
def Expr.isDeletable : Expr → Bool
  | .name .. | .attribute .. | .subscript .. => true
  | .list _ es | .tuple _ es => allDeletable es
  | _ => false

/-- Whether all expressions of a list can be deleted. -/
def allDeletable : List Expr → Bool
  | [] => true
  | e :: es => e.isDeletable && allDeletable es

end

/-- Whether an expression is a name, an attribute or an item: what an augmented or
annotated assignment can have as its target. -/
def Expr.isSingleTarget : Expr → Bool
  | .name .. | .attribute .. | .subscript .. => true
  | _ => false

namespace Grammar

variable (r : Rules)

/-- A target in a list of targets. -/
def target : Read Expr := do
  let e ← if ← seesOp "*" then starredItem r.bitwiseOr else r.bitwiseOr
  if e.isTarget then return e else fail

/-- The targets of a loop. -/
def targets : Read Expr := expressionList (target r)

/-! ### Comprehensions -/

/-- A `for` clause with its conditions. -/
def clause : Read Clause := do
  let isAsync ← skipKeyword "async"
  keyword "for"
  let t ← targets r
  keyword "in"
  let iterable ← r.disjunction
  let conditions ← many (do keyword "if"; r.disjunction)
  return .clause isAsync t iterable conditions

/-- Whether a `for` clause comes next. -/
def seesClause : Read Bool := do return (← seesKeyword "for") || (← seesKeyword "async")

/-- The clauses of a comprehension. -/
def clauses : Read (List Clause) := some1 (clause r)

/-! ### Arguments -/

/-- An argument of a call. -/
inductive Argument where
  | positional (value : Expr)
  | starred (value : Expr)
  | keyword (value : Keyword)
  | unpacked (value : Keyword)

/-- One argument. -/
def argument : Read Argument := do
  let l ← line
  match ← peek, ← peekSecond with
  | .op "**", _ =>
    op "**"
    return .unpacked (.keyword l none (← r.expression))
  | .op "*", _ => return .starred (← starredItem r.expression)
  | .name id, .op "=" =>
    let _ ← name
    op "="
    return .keyword (.keyword l (some id) (← r.expression))
  | _, _ => return .positional (← namedExpression r)

/-- Whether arguments stand in an order that is allowed: those without a keyword
first, unpacked sequences before unpacked mappings. -/
def inOrder : (keywords mappings : Bool) → List Argument → Bool
  | _, _, [] => true
  | keywords, mappings, .positional _ :: rest =>
    !keywords && !mappings && inOrder keywords mappings rest
  | keywords, mappings, .starred _ :: rest => !mappings && inOrder keywords mappings rest
  | _, mappings, .keyword _ :: rest => inOrder true mappings rest
  | keywords, _, .unpacked _ :: rest => inOrder keywords true rest

/-- The arguments without a keyword. -/
def positionals : List Argument → List Expr
  | [] => []
  | .positional e :: rest | .starred e :: rest => e :: positionals rest
  | _ :: rest => positionals rest

/-- The arguments with a keyword and the unpacked mappings. -/
def keywordsOf : List Argument → List Keyword
  | [] => []
  | .keyword k :: rest | .unpacked k :: rest => k :: keywordsOf rest
  | _ :: rest => keywordsOf rest

/-- Sorts arguments that stand in an order that is allowed. -/
def sorted (args : List Argument) : Read (List Expr × List Keyword) :=
  if inOrder false false args then return (positionals args, keywordsOf args) else fail

/-- The arguments of a class definition in their brackets. -/
def classArguments : Read (List Expr × List Keyword) := do
  op "("
  if ← skipOp ")" then return ([], [])
  let (args, _) ← listed (argument r)
  op ")"
  sorted args

/-- The arguments of a call in their brackets: one comprehension without brackets of
its own, or a list. -/
def callArguments : Read (List Expr × List Keyword) := do
  let l ← line
  op "("
  if ← skipOp ")" then return ([], [])
  let first ← argument r
  match first, ← seesClause with
  | .positional e, true =>
    let cs ← clauses r
    op ")"
    return ([.generator l e cs], [])
  | _, _ =>
    let rest ← many (do op ","; argument r)
    let _ ← skipOp ","
    op ")"
    sorted (first :: rest)

/-! ### Subscripts -/

/-- A slice, an index, or an unpacked sequence of indices. -/
def sliceItem : Read (Expr × Bool) := do
  let l ← line
  if ← seesOp "*" then return (← starredItem r.expression, true)
  if ← seesNaming then return (← namedExpression r, false)
  let lower ← if ← seesOp ":" then pure none else some <$> r.expression
  match lower, ← seesOp ":" with
  | some e, false => return (e, false)
  | _, _ =>
    op ":"
    let bound : Read (Option Expr) := do
      match ← peek with
      | .op ":" | .op "," | .op "]" => return none
      | _ => some <$> r.expression
    let upper ← bound
    let step ← if ← skipOp ":" then bound else pure none
    return (.slice l lower upper step, false)

/-- What stands between the brackets of a subscript. -/
def slices : Read Expr := do
  let l ← line
  match ← listed (sliceItem r) with
  | ([(e, false)], false) => return e
  | (es, _) => return .tuple l (es.map Prod.fst)

/-! ### Atoms -/

/-- Reads the characters of a field of a format literal as an expression. -/
def fieldExpression (source : List Char) (l : Nat) : Option Expr := do
  let cs := '(' :: source ++ [')', '\n']
  let tokens ← Token.scanFrom (2 * cs.length + 2) true false ⟨cs, l, [.zero], []⟩
  let (e, _) ← (starExpressions r).run tokens
  return e

/-- Takes a literal of text or octets: its four flags, its inside and its line. -/
def textToken : Read (Bool × Bool × Bool × Bool × List Char × Nat) := single fun t =>
  match t with
  | ⟨.text raw octets format marked body, l⟩ => some (raw, octets, format, marked, body, l)
  | _ => none

/-- One or more adjacent literals of text or octets. -/
def texts : Read Expr := do
  let l ← line
  let tokens ← some1 textToken
  let octetCount := (tokens.filter fun (_, octets, _) => octets).length
  let marked := match tokens with
    | (_, _, _, marked, _) :: _ => marked
    | [] => false
  let ofText (codes : List Nat) : Expr := .constant l (.text codes marked)
  if octetCount = tokens.length then
    let parts ← tokens.mapM fun (raw, _, _, _, body, _) => liftM (Literal.octets? raw body)
    return .constant l (.octets parts.flatten)
  else if octetCount != 0 then fail
  else
    let parts ← tokens.mapM fun (raw, _, format, _, body, tokenLine) =>
      if format then liftM (Format.pieces (fieldExpression r) ⟨l, tokenLine, marked⟩ raw body)
      else do return [Format.Piece.text (← liftM (Literal.text? raw body))]
    let pieces := parts.flatten
    if tokens.any fun (_, _, format, _) => format then
      return .joined l ((⟨l, l, marked⟩ : Format.Site).join l pieces [])
    else
      return ofText (pieces.flatMap fun p =>
        match p with
        | .text codes => codes
        | .field _ => [])

/-- What parentheses enclose: a tuple, a comprehension, or an expression that they
group. -/
def parenthesized : Read Expr := do
  let l ← line
  op "("
  if ← skipOp ")" then return .tuple l []
  if ← seesKeyword "yield" then
    let e ← yieldExpression r
    op ")"
    return e
  let first ← displayItem r
  match first, ← seesClause with
  | .starred .., true => fail
  | _, true =>
    let cs ← clauses r
    op ")"
    return .generator l first cs
  | _, false =>
    if ← seesOp "," then
      let rest ← many (do op ","; displayItem r)
      let _ ← skipOp ","
      op ")"
      return .tuple l (first :: rest)
    else match first with
      | .starred .. => fail
      | e =>
        op ")"
        return e

/-- What square brackets enclose: a list or a comprehension. -/
def bracketed : Read Expr := do
  let l ← line
  op "["
  if ← skipOp "]" then return .list l []
  let first ← displayItem r
  match first, ← seesClause with
  | .starred .., true => fail
  | _, true =>
    let cs ← clauses r
    op "]"
    return .listOf l first cs
  | _, false =>
    let rest ← many (do op ","; displayItem r)
    let _ ← skipOp ","
    op "]"
    return .list l (first :: rest)

/-- An entry of a dictionary: a key with its value, or an unpacked mapping. -/
def entry : Read (Option Expr × Expr) := do
  if ← skipOp "**" then return (none, ← r.bitwiseOr)
  let key ← r.expression
  op ":"
  return (some key, ← r.expression)

/-- What braces enclose: a dictionary, a set, or a comprehension of either. -/
def braced : Read Expr := do
  let l ← line
  op "\x7b"
  if ← skipOp "\x7d" then return .dict l [] []
  let dictionary (first : Option Expr × Expr) : Read Expr := do
    let rest ← many (do op ","; entry r)
    let _ ← skipOp ","
    op "\x7d"
    let entries := first :: rest
    return .dict l (entries.map Prod.fst) (entries.map Prod.snd)
  if ← seesOp "**" then
    dictionary (← entry r)
  else
    let naming ← seesNaming
    let first ← displayItem r
    if ← seesOp ":" then
      match first, naming with
      | .starred .., _ | _, true => fail
      | key, false =>
        op ":"
        let value ← r.expression
        if ← seesClause then
          let cs ← clauses r
          op "\x7d"
          return .dictOf l key value cs
        else dictionary (some key, value)
    else match first, ← seesClause with
      | .starred .., true => fail
      | _, true =>
        let cs ← clauses r
        op "\x7d"
        return .setOf l first cs
      | _, false =>
        let rest ← many (do op ","; displayItem r)
        let _ ← skipOp ","
        op "\x7d"
        return .set l (first :: rest)

/-- The smallest expressions. -/
def atom : Read Expr := do
  let l ← line
  match ← peek with
  | .name id =>
    let _ ← name
    return .name l id
  | .keyword "True" =>
    keyword "True"
    return .constant l .true
  | .keyword "False" =>
    keyword "False"
    return .constant l .false
  | .keyword "None" =>
    keyword "None"
    return .constant l .none
  | .number value =>
    token (.number value)
    return .constant l value
  | .text .. => texts r
  | .op "(" => parenthesized r
  | .op "[" => bracketed r
  | .op "\x7b" => braced r
  | .op "..." =>
    op "..."
    return .constant l .ellipsis
  | _ => fail

/-! ### Operators -/

/-- What follows a primary expression: attributes, calls and subscripts. -/
def trailers (l : Nat) : (fuel : Nat) → Expr → Read Expr
  | 0, e => pure e
  | fuel + 1, e => do
    match ← peek with
    | .op "." =>
      op "."
      let id ← name
      trailers l fuel (.attribute l e id)
    | .op "(" =>
      let (args, keywords) ← callArguments r
      trailers l fuel (.call l e args keywords)
    | .op "[" =>
      let index ← enclosed "[" "]" (slices r)
      trailers l fuel (.subscript l e index)
    | _ => pure e

/-- An atom with attributes, calls and subscripts. -/
def primary : Read Expr := do
  let l ← line
  let e ← atom r
  trailers r l (← remaining) e

/-- A primary expression that may be awaited. -/
def awaited : Read Expr := do
  let l ← line
  if ← skipKeyword "await" then return .await l (← primary r) else primary r

/-- A power or a signed operand. -/
def factor : (fuel : Nat) → Read Expr
  | 0 => fail
  | fuel + 1 => do
    let l ← line
    match ← peek with
    | .op "+" =>
      op "+"
      return .unary l .plus (← factor fuel)
    | .op "-" =>
      op "-"
      return .unary l .minus (← factor fuel)
    | .op "~" =>
      op "~"
      return .unary l .invert (← factor fuel)
    | _ =>
      let base ← awaited r
      if ← skipOp "**" then return .binary l base .pow (← factor fuel) else return base

/-- Operands joined by operators of one strength, from the left. -/
def leftward (operator : String → Option BinaryOp) (operand : Read Expr) (l : Nat) :
    (fuel : Nat) → Expr → Read Expr
  | 0, e => pure e
  | fuel + 1, e => do
    match ← peek with
    | .op symbol =>
      match operator symbol with
      | some o =>
        op symbol
        let right ← operand
        leftward operator operand l fuel (.binary l e o right)
      | none => pure e
    | _ => pure e

/-- Operands joined by operators of one strength. -/
def level (operator : String → Option BinaryOp) (operand : Read Expr) : Read Expr := do
  let l ← line
  let e ← operand
  leftward operator operand l (← remaining) e

/-- The operators of multiplication. -/
def termOp : String → Option BinaryOp
  | "*" => some .mult
  | "/" => some .div
  | "//" => some .floorDiv
  | "%" => some .mod
  | "@" => some .matMult
  | _ => none

/-- The operators of addition. -/
def sumOp : String → Option BinaryOp
  | "+" => some .add
  | "-" => some .sub
  | _ => none

/-- The shift operators. -/
def shiftOp : String → Option BinaryOp
  | "<<" => some .leftShift
  | ">>" => some .rightShift
  | _ => none

/-- One operator. -/
def onlyOp (symbol : String) (o : BinaryOp) (s : String) : Option BinaryOp :=
  if s = symbol then some o else none

/-- Operands of comparisons. -/
def bitwiseOr : Read Expr :=
  let signed : Read Expr := do factor r (← remaining)
  let terms := level termOp signed
  let sums := level sumOp terms
  let shifts := level shiftOp sums
  let ands := level (onlyOp "&" .bitAnd) shifts
  let xors := level (onlyOp "^" .bitXor) ands
  level (onlyOp "|" .bitOr) xors

/-- An operator that compares. -/
def compareOp : Read CompareOp := do
  match ← peek, ← peekSecond with
  | .op "==", _ => op "=="; return .eq
  | .op "!=", _ => op "!="; return .notEq
  | .op "<", _ => op "<"; return .lt
  | .op "<=", _ => op "<="; return .ltE
  | .op ">", _ => op ">"; return .gt
  | .op ">=", _ => op ">="; return .gtE
  | .keyword "in", _ => keyword "in"; return .isIn
  | .keyword "not", .keyword "in" => keyword "not"; keyword "in"; return .notIn
  | .keyword "is", .keyword "not" => keyword "is"; keyword "not"; return .isNot
  | .keyword "is", _ => keyword "is"; return .is
  | _, _ => fail

/-- Operands with comparisons between them. -/
def comparison : Read Expr := do
  let l ← line
  let left ← bitwiseOr r
  let rest ← many (do let o ← compareOp; return (o, ← bitwiseOr r))
  if rest.isEmpty then return left
  else return .compare l left (rest.map Prod.fst) (rest.map Prod.snd)

/-- A comparison that may be negated. -/
def inversion : (fuel : Nat) → Read Expr
  | 0 => fail
  | fuel + 1 => do
    let l ← line
    if ← skipKeyword "not" then return .unary l .not (← inversion fuel) else comparison r

/-- Operands of `or`, joined by `and`. -/
def conjunction : Read Expr := do
  let l ← line
  let operand : Read Expr := do inversion r (← remaining)
  let first ← operand
  let rest ← many (do keyword "and"; operand)
  if rest.isEmpty then return first else return .boolean l .and (first :: rest)

/-- Operands of a conditional expression. -/
def disjunction : Read Expr := do
  let l ← line
  let first ← conjunction r
  let rest ← many (do keyword "or"; conjunction r)
  if rest.isEmpty then return first else return .boolean l .or (first :: rest)

/-! ### Parameters -/

/-- A parameter, with an annotation where these are allowed. -/
def param (annotated starred : Bool) : Read Param := do
  let l ← line
  let id ← name
  let note ← if annotated then
      if ← skipOp ":" then
        some <$> (if starred then listItem r else r.expression)
      else pure none
    else pure none
  return ⟨l, id, note⟩

/-- A default value. -/
def default? : Read (Option Expr) := do
  if ← skipOp "=" then some <$> r.expression else return none

/-- What a list of parameters is made of. -/
inductive ParamItem where
  | plain (p : Param) (default : Option Expr)
  | slash
  | star
  | rest (p : Param)
  | keywords (p : Param)

/-- One item of a list of parameters. -/
def paramItem (annotated : Bool) : Read ParamItem := do
  match ← peek with
  | .op "/" => op "/"; return .slash
  | .op "**" => op "**"; return .keywords (← param r annotated false)
  | .op "*" =>
    op "*"
    match ← peek with
    | .name _ => return .rest (← param r annotated true)
    | _ => return .star
  | _ =>
    let p ← param r annotated false
    return .plain p (← default? r)

/-- Sorts the items behind a star: parameters by keyword, and one for the other
keywords at the end. -/
def keywordPart : List ParamItem → Option (List Param × List (Option Expr) × Option Param)
  | [] => some ([], [], none)
  | [.keywords p] => some ([], [], some p)
  | .plain p d :: rest =>
    (keywordPart rest).map fun (ps, ds, k) => (p :: ps, d :: ds, k)
  | _ => none

/-- Sorts the items in front of a star: a default may be missing only in front of all
defaults. -/
def positionalPart : (defaulted : Bool) → List ParamItem →
    Option (List Param × List Expr × List ParamItem)
  | _, [] => some ([], [], [])
  | _, .plain p (some d) :: rest =>
    (positionalPart true rest).map fun (ps, ds, r) => (p :: ps, d :: ds, r)
  | defaulted, .plain p none :: rest =>
    if defaulted then none
    else (positionalPart false rest).map fun (ps, ds, r) => (p :: ps, ds, r)
  | _, rest => some ([], [], rest)

/-- Sorts the items of a list of parameters. -/
def paramsOf (items : List ParamItem) : Option Params := do
  let (first, defaults, rest) ← positionalPart false items
  let (positionalOnly, positional, defaults, rest) ← match rest with
    | .slash :: rest =>
      if first.isEmpty then none
      else
        (positionalPart (!defaults.isEmpty) rest).map fun (ps, ds, r) =>
          (first, ps, defaults ++ ds, r)
    | rest => some ([], first, defaults, rest)
  match rest with
  | [] => return { positionalOnly, positional, defaults }
  | .star :: rest =>
    let (ps, ds, k) ← keywordPart rest
    if ps.isEmpty then none
    else return { positionalOnly, positional, defaults, keywordOnly := ps,
                  keywordDefaults := ds, keywords := k }
  | .rest p :: rest =>
    let (ps, ds, k) ← keywordPart rest
    return { positionalOnly, positional, defaults, rest := some p, keywordOnly := ps,
             keywordDefaults := ds, keywords := k }
  | [.keywords p] => return { positionalOnly, positional, defaults, keywords := some p }
  | _ => none

/-- A list of parameters up to the symbol behind it, which stays. -/
def params (annotated : Bool) (closing : String) : Read Params := do
  if ← seesOp closing then return {}
  let (items, _) ← listed (paramItem r annotated)
  liftM (paramsOf items)

/-- A parameter without its annotation. -/
def plainName (p : Param) : Name := ⟨p.line, p.name⟩

/-- A lambda expression. -/
def lambda : Read Expr := do
  let l ← line
  keyword "lambda"
  let ps ← params r false ":"
  op ":"
  let body ← r.expression
  let names : NameList :=
    ⟨ps.positionalOnly.map plainName, ps.positional.map plainName, ps.rest.map plainName,
     ps.keywordOnly.map plainName, ps.keywords.map plainName⟩
  return .lambda l names ps.defaults ps.keywordDefaults body

/-- An expression without `:=` outside brackets. -/
def expression : Read Expr := do
  if ← seesKeyword "lambda" then lambda r
  else
    let l ← line
    let body ← disjunction r
    if ← skipKeyword "if" then
      let test ← disjunction r
      keyword "else"
      return .conditional l test body (← r.expression)
    else return body

end Grammar

/-- The readers of expressions with at most a number of brackets, lambda expressions
and alternatives inside each other. -/
def rules : Nat → Rules
  | 0 => .none
  | n + 1 =>
    let r := rules n
    ⟨Grammar.expression r, Grammar.disjunction r, Grammar.bitwiseOr r⟩

end SnippetProfiler.Indented
