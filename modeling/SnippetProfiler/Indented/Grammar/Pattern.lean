import SnippetProfiler.Indented.Grammar.Expression

/-!
# Reading patterns

The grammar of the patterns of a `case`.  A pattern inside brackets comes from a
parameter; `pattern` ties the knot by counting nested brackets.
-/

namespace SnippetProfiler.Indented.Grammar

open Read

variable (r : Rules)

/-- Whether a token rules out that the name before it is a capture. -/
def continuesName : Lexeme → Bool
  | .op "." | .op "(" | .op "=" => true
  | _ => false

/-- A name that captures a value. -/
def captureName : Read String := do
  let id ← name
  if id = "_" || continuesName (← peek) then fail else return id

/-- A number without sign. -/
def plainNumber : Read Expr := do
  let l ← line
  match ← peek with
  | .number value =>
    token (.number value)
    return .constant l value
  | _ => fail

/-- A number that may have a minus sign. -/
def signedNumber : Read Expr := do
  let l ← line
  if ← skipOp "-" then return .unary l .minus (← plainNumber) else plainNumber

/-- Whether an expression is an imaginary number. -/
def isImaginary : Expr → Bool
  | .constant _ (.imaginary _) => true
  | _ => false

/-- Whether an expression is a real number, which may have a sign. -/
def isReal : Expr → Bool
  | .unary _ _ e => !isImaginary e
  | e => !isImaginary e

/-- A number: real, imaginary, or the sum or difference of both. -/
def numberPattern : Read Expr := do
  let l ← line
  let left ← signedNumber
  match ← peek with
  | .op symbol =>
    match sumOp symbol with
    | some o =>
      op symbol
      let right ← plainNumber
      if isReal left && isImaginary right then return .binary l left o right else fail
    | none => return left
  | _ => return left

/-- A literal as a key of a mapping, or as a value. -/
def literalValue : Read Expr := do
  match ← peek with
  | .text .. => texts r
  | _ => numberPattern

/-- A name with at least one attribute. -/
def dottedName : Read Expr := do
  let l ← line
  let id ← name
  let attributes ← some1 (do op "."; name)
  return attributes.foldl (fun e a => .attribute l e a) (.name l id)

/-- A name with any number of attributes. -/
def nameOrDotted : Read Expr := do
  let l ← line
  let id ← name
  let attributes ← many (do op "."; name)
  return attributes.foldl (fun e a => .attribute l e a) (.name l id)

/-- The constant of a word. -/
def singleton? : Lexeme → Option Constant
  | .keyword "None" => some .none
  | .keyword "True" => some .true
  | .keyword "False" => some .false
  | _ => none

variable (inner : Read Pattern)

/-- An item of a sequence: a pattern, or a star with the name of the rest. -/
def sequenceItem : Read Pattern := do
  let l ← line
  if ← skipOp "*" then
    let id ← name
    if continuesName (← peek) then fail
    else return .star l (if id = "_" then none else some id)
  else inner

/-- Items up to a closing bracket; tells whether they form a sequence without
brackets of their own. -/
def sequenceItems (closing : String) : Read (List Pattern × Bool) := do
  if ← skipOp closing then return ([], true)
  let (items, comma) ← listed (sequenceItem inner)
  op closing
  return (items, comma)

/-- An item of a mapping pattern: a key with its pattern, or the name of the rest. -/
def mappingItem : Read ((Expr × Pattern) ⊕ String) := do
  if ← skipOp "**" then return .inr (← captureName)
  let l ← line
  let key ← match singleton? (← peek) with
    | some c =>
      let _ ← token (← peek)
      pure (.constant l c)
    | none => either (literalValue r) dottedName
  op ":"
  return .inl (key, ← inner)

/-- Sorts the items of a mapping pattern; the name of the rest comes last. -/
def mappingOf (l : Nat) : List ((Expr × Pattern) ⊕ String) → Option Pattern
  | [] => some (.mapping l [] [] none)
  | [.inr id] => some (.mapping l [] [] (some id))
  | .inl (k, p) :: rest =>
    match mappingOf l rest with
    | some (.mapping _ ks ps id) => some (.mapping l (k :: ks) (p :: ps) id)
    | _ => none
  | _ => none

/-- An argument of a class pattern. -/
def classItem : Read (Option String × Pattern) := do
  match ← peek, ← peekSecond with
  | .name id, .op "=" =>
    let _ ← name
    op "="
    return (some id, ← inner)
  | _, _ => return (none, ← inner)

/-- Sorts the arguments of a class pattern; those with a name come last. -/
def classOf (l : Nat) (cls : Expr) (items : List (Option String × Pattern)) : Option Pattern :=
  let positional := items.takeWhile fun (id, _) => id.isNone
  let named := items.dropWhile fun (id, _) => id.isNone
  if named.all (fun (id, _) => id.isSome) then
    some (.object l cls (positional.map Prod.snd) (named.filterMap Prod.fst) (named.map Prod.snd))
  else none

/-- A pattern that needs no brackets as an alternative. -/
def closedPattern : Read Pattern := do
  let l ← line
  match ← peek with
  | .op "(" =>
    op "("
    let (items, isSequence) ← sequenceItems inner ")"
    match items, isSequence with
    | [.star ..], false => fail
    | [p], false => return p
    | ps, _ => return .sequence l ps
  | .op "[" =>
    op "["
    let (items, _) ← sequenceItems inner "]"
    return .sequence l items
  | .op "\x7b" =>
    op "\x7b"
    if ← skipOp "\x7d" then return .mapping l [] [] none
    let (items, _) ← listed (mappingItem r inner)
    op "\x7d"
    liftM (mappingOf l items)
  | .name "_" =>
    let _ ← name
    return .capture l none none
  | .name id =>
    let e ← nameOrDotted
    if ← skipOp "(" then
      if ← skipOp ")" then return .object l e [] [] []
      let (items, _) ← listed (classItem inner)
      op ")"
      liftM (classOf l e items)
    else if continuesName (← peek) then fail
    else match e with
      | .name .. => return .capture l none (some id)
      | e => return .value l e
  | x =>
    match singleton? x with
    | some c =>
      token x
      return .singleton l c
    | none => return .value l (← literalValue r)

/-- A pattern, with alternatives and a name for the whole. -/
def patternWith : Read Pattern := do
  let l ← line
  let first ← closedPattern r inner
  let rest ← many (do op "|"; closedPattern r inner)
  let p := if rest.isEmpty then first else .alternatives l (first :: rest)
  if ← skipKeyword "as" then return .capture l (some p) (some (← captureName)) else return p

/-- A pattern with at most a number of brackets inside each other. -/
def pattern : Nat → Read Pattern
  | 0 => fail
  | n + 1 => patternWith r (pattern n)

/-- What stands behind `case`: a pattern, or a sequence without brackets. -/
def casePattern (depth : Nat) : Read Pattern := do
  let l ← line
  match ← listed (sequenceItem (pattern r depth)) with
  | ([.star ..], false) => fail
  | ([p], false) => return p
  | (ps, _) => return .sequence l ps

end SnippetProfiler.Indented.Grammar
