import SnippetProfiler.Indented.Syntax
import SnippetProfiler.Indented.Literal

/-!
# Format literals

A format literal alternates text and replacement fields in braces.  A field holds
an expression, perhaps an equals sign that repeats its source text, perhaps a
conversion, and perhaps a format specification, which is a format literal itself and
may hold fields, but no field with fields in its specification.  A brace that is text
is written twice, except in a specification.

The reader of the expressions is a parameter: it gets the characters of an
expression and the line on which they start.
-/

namespace SnippetProfiler.Indented.Format

/-- A piece of a literal: text, or a replacement field. -/
inductive Piece where
  | text (codes : List Nat)
  | field (value : Expr)

/-- Reads text up to the next field or the end.  Gives the characters, whether the
text goes on behind a doubled brace, and the rest. -/
def leadingText (raw top : Bool) : (fuel : Nat) → List Char →
    Option (List Char × Bool × List Char)
  | 0, _ => none
  | _ + 1, [] => some ([], false, [])
  | fuel + 1, c :: cs =>
    let brace (before : List Char) (b : Char) (rest : List Char) :
        Option (List Char × Bool × List Char) :=
      if top && rest.head? = some b then some (before ++ [b], true, rest.drop 1)
      else if top && b = '}' then none
      else some (before, false, b :: rest)
    if c = '\\' && !raw then
      match cs with
      | [] => some (['\\'], false, [])
      | 'N' :: '{' :: rest =>
        let name := rest.takeWhile (· != '}')
        (leadingText raw top fuel (rest.drop (name.length + 1))).map fun (t, more, r) =>
          ('\\' :: 'N' :: '{' :: rest.take (name.length + 1) ++ t, more, r)
      | 'N' :: d :: rest =>
        (leadingText raw top fuel rest).map fun (t, more, r) => ('\\' :: 'N' :: d :: t, more, r)
      | d :: rest =>
        if d = '{' || d = '}' then brace ['\\'] d rest
        else (leadingText raw top fuel rest).map fun (t, more, r) => ('\\' :: d :: t, more, r)
    else if c = '{' || c = '}' then brace [] c cs
    else (leadingText raw top fuel cs).map fun (t, more, r) => (c :: t, more, r)

/-- Whether a bracket closes another. -/
def matches? (opening closing : Char) : Bool :=
  (opening = '(' && closing = ')') || (opening = '[' && closing = ']')
    || (opening = '{' && closing = '}')

/-- Reads the characters of an expression up to the character that ends it outside
brackets and literals.  `quote` is the mark of the literal being read, with whether
it is a mark of three characters; `open_` holds the open brackets. -/
def expressionText : (fuel : Nat) → (quote : Option (Char × Bool)) → (brackets : List Char) →
    List Char → Option (List Char × List Char)
  | 0, _, _, _ => none
  | _ + 1, _, _, [] => none
  | _ + 1, _, _, '\\' :: _ => none
  | fuel + 1, some (q, long), brackets, c :: cs =>
    if c = q && !long then
      (expressionText fuel none brackets cs).map fun (e, r) => (c :: e, r)
    else if c = q && [q, q].isPrefixOf cs then
      (expressionText fuel none brackets (cs.drop 2)).map fun (e, r) => (c :: q :: q :: e, r)
    else (expressionText fuel (some (q, long)) brackets cs).map fun (e, r) => (c :: e, r)
  | fuel + 1, none, brackets, c :: cs =>
    let go (brackets : List Char) :=
      (expressionText fuel none brackets cs).map fun (e, r) => (c :: e, r)
    if c = '\'' || c = '"' then
      if [c, c].isPrefixOf cs then
        (expressionText fuel (some (c, true)) brackets (cs.drop 2)).map fun (e, r) =>
          (c :: c :: c :: e, r)
      else (expressionText fuel (some (c, false)) brackets cs).map fun (e, r) => (c :: e, r)
    else if c = '(' || c = '[' || c = '{' then
      if brackets.length < 200 then go (c :: brackets) else none
    else if c = '#' then none
    else if brackets.isEmpty && (c = '!' || c = ':' || c = '}' || c = '=' || c = '<' || c = '>') then
      if cs.head? = some '=' && (c = '!' || c = '=' || c = '<' || c = '>') then
        (expressionText fuel none brackets (cs.drop 1)).map fun (e, r) => (c :: '=' :: e, r)
      else if c = '<' || c = '>' then go brackets
      else some ([], c :: cs)
    else if c = ')' || c = ']' || c = '}' then
      match brackets with
      | top :: below => if matches? top c then go below else none
      | [] => none
    else go brackets

/-- Whether a character may surround an expression without being part of one. -/
def isFiller (c : Char) : Bool := c = ' ' || c = '\t' || c = '\n' || c = '\x0c'

/-- Whether a character belongs to the source text that an equals sign repeats. -/
def isAsciiSpace (c : Char) : Bool := c = ' ' || (9 ≤ c.toNat && c.toNat ≤ 13)

/-- The line behind some characters. -/
def lineAfter (line : Nat) (passed : List Char) : Nat := line + passed.count '\n'

/-- Where a literal stands: the line of the first of the literals that are joined, its own line, and
whether the first is marked as a text. -/
structure Site where
  first : Nat
  own : Nat
  marked : Bool

/-- A text at a line. -/
def Site.text (site : Site) (line : Nat) (codes : List Nat) : Expr :=
  .constant line (.text codes site.marked)

/-- What has been read of a literal: its pieces, the rest, and the line of the rest. -/
abbrev Pieces := List Piece × List Char × Nat

/-- Joins the pieces of a literal that ends on the line `last`: texts that touch become one, and
empty texts vanish.  A text in front of a field stands on the first line. -/
def Site.join (site : Site) (last : Nat) : List Piece → (pending : List Nat) → List Expr
  | [], pending => if pending.isEmpty then [] else [site.text last pending]
  | .text codes :: ps, pending => site.join last ps (pending ++ codes)
  | .field e :: ps, pending =>
    if pending.isEmpty then e :: site.join last ps []
    else site.text site.first pending :: e :: site.join last ps []

/-- Reads the pieces of a literal, given a reader of fields that gets what stands
behind the opening brace. -/
def piecesWith (raw top : Bool) (field : List Char → Nat → Option Pieces) :
    (fuel : Nat) → List Char → (line : Nat) → Option Pieces
  | 0, _, _ => none
  | fuel + 1, cs, line => do
    let (chars, more, rest) ← leadingText raw top (cs.length + 1) cs
    let codes ← Literal.text? raw chars
    let line := lineAfter line (cs.take (cs.length - rest.length))
    if more then
      let (ps, rest, line) ← piecesWith raw top field fuel rest line
      pure (.text codes :: ps, rest, line)
    else
      match rest with
      | '{' :: rest =>
        let (ps, rest, line) ← field rest line
        let (qs, rest, line) ← piecesWith raw top field fuel rest line
        pure (.text codes :: ps ++ qs, rest, line)
      | _ => pure ([.text codes], rest, line)

/-- Reads a replacement field behind its opening brace: the source text that it
repeats, if any, and the field.  `spec` reads a format specification. -/
def fieldWith (read : List Char → Nat → Option Expr) (site : Site)
    (spec : List Char → Nat → Option Pieces) (cs : List Char) (line : Nat) : Option Pieces := do
  let (source, rest) ← expressionText (cs.length + 1) none [] cs
  if source.all isFiller then none
  else
    let value ← read source line
    let behind := lineAfter line source
    let spaces := match rest with
      | '=' :: r => r.takeWhile isAsciiSpace
      | _ => []
    let (shown, rest) := match rest with
      | '=' :: r => (some (source ++ '=' :: spaces), r.drop spaces.length)
      | _ => (none, rest)
    let (conversion, rest) ← match rest with
      | '!' :: c :: r => if c = 's' || c = 'r' || c = 'a' then some (some c, r) else none
      | '!' :: [] => none
      | _ => some (none, rest)
    let (format, rest, line) ← match rest with
      | ':' :: r =>
        if r.isEmpty then none
        else (spec r (lineAfter behind spaces)).map fun (ps, rest, line) =>
          (some (Expr.joined site.own (site.join site.own ps [])), rest, line)
      | _ => some (none, rest, lineAfter behind spaces)
    match rest with
    | '}' :: rest =>
      let conversion :=
        if shown.isSome && format.isNone && conversion.isNone then some 'r' else conversion
      let field := Piece.field (.formatted site.first value conversion format)
      match shown with
      | some s => pure ([.text (s.map Char.toNat), field], rest, line)
      | none => pure ([field], rest, line)
    | _ => none

/-- The pieces of a format literal, given the characters between its marks. -/
def pieces (read : List Char → Nat → Option Expr) (site : Site) (raw : Bool) (body : List Char) :
    Option (List Piece) := do
  let fuel := body.length + 1
  let field (spec : List Char → Nat → Option Pieces) := fieldWith read site spec
  let innermost := piecesWith raw false (fun _ _ => none) fuel
  let inner := piecesWith raw false (field innermost) fuel
  let (ps, rest, _) ← piecesWith raw true (field inner) fuel body site.own
  if rest.isEmpty then pure ps else none

end SnippetProfiler.Indented.Format
