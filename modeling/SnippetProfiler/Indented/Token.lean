import SnippetProfiler.Indented.Syntax
import SnippetProfiler.Text.Identifier
import SnippetProfiler.Decimal.Read

/-!
# Tokens of indented programs

`Token.scan` cuts the text of a program into tokens and gives each the line on
which it starts.  Line breaks inside brackets, blank lines and comments give no
token.  A line that is indented more deeply than the line before it opens a block
and gives the token `indent`; a line that returns to an outer indentation closes
the blocks in between and gives `dedent` for each.  Tabs must be used so that the
comparison of two indentations does not depend on their width.
-/

namespace SnippetProfiler.Indented

/-- What a token is. -/
inductive Lexeme where
  | name (id : String)
  | keyword (word : String)
  | number (value : Constant)
  | text (raw octets format marked : Bool) (body : List Char)
  | op (symbol : String)
  | newline
  | indent
  | dedent
  | finish
  deriving DecidableEq, Repr

/-- A token and the line on which it starts. -/
structure Token where
  lexeme : Lexeme
  line : Nat
  deriving DecidableEq, Repr

namespace Token

/-- The words that are never names. -/
def keywords : List String :=
  ["False", "None", "True", "and", "as", "assert", "async", "await", "break", "class", "continue",
   "def", "del", "elif", "else", "except", "finally", "for", "from", "global", "if", "import", "in",
   "is", "lambda", "nonlocal", "not", "or", "pass", "raise", "return", "try", "while", "with",
   "yield"]

/-- The symbols of three characters. -/
def symbols3 : List String := ["**=", "...", "//=", "<<=", ">>="]

/-- The symbols of two characters. -/
def symbols2 : List String :=
  ["!=", "%=", "&=", "**", "*=", "+=", "-=", "->", "//", "/=", ":=", "<<", "<=", "==", ">=", ">>",
   "@=", "^=", "|="]

/-- The symbols of one character. -/
def symbols1 : List Char :=
  ['%', '&', '(', ')', '*', '+', ',', '-', '.', '/', ':', ';', '<', '=', '>', '@', '[', ']', '^',
   '{', '|', '}', '~']

/-- Writes every line break as a newline character. -/
def normalizeBreaks : List Char → List Char
  | [] => []
  | '\r' :: '\n' :: cs => '\n' :: normalizeBreaks cs
  | '\r' :: cs => '\n' :: normalizeBreaks cs
  | c :: cs => c :: normalizeBreaks cs

/-- The text of a program with newline characters for line breaks, also behind the
last line. -/
def prepare (source : List Char) : List Char :=
  let cs := normalizeBreaks source
  if cs.getLast? = some '\n' then cs else cs ++ ['\n']

/-- Whether a character may stand in a name as far as cutting is concerned. -/
def isNameChar (c : Char) : Bool := c.isAlphanum || c = '_' || 128 ≤ c.toNat

/-- Whether a character may start a name as far as cutting is concerned. -/
def isNameStart (c : Char) : Bool := c.isAlpha || c = '_' || 128 ≤ c.toNat

/-! ### Numbers -/

/-- Digits of a class with single low lines between them, the first of which may
follow a low line when `afterMark` holds.  Gives the digits and the rest. -/
def digitsOf (isDigit : Char → Bool) : (afterMark : Bool) → List Char → Option (List Char × List Char)
  | _, [] => some ([], [])
  | afterMark, c :: cs =>
    if isDigit c then (digitsOf isDigit true cs).map fun (ds, rest) => (c :: ds, rest)
    else if c = '_' && afterMark then
      match cs with
      | d :: _ => if isDigit d then digitsOf isDigit false cs else none
      | [] => none
    else some ([], c :: cs)

/-- Whether a number may end in front of a text: no letter follows, or one of the
words that can stand behind a number. -/
def endsNumber (rest : List Char) : Bool :=
  match rest with
  | [] => true
  | c :: _ =>
    !isNameChar c
      || ["and", "else", "for", "if", "in", "is", "or", "not"].any fun w => w.toList.isPrefixOf rest

/-- Whether a character is a hexadecimal digit. -/
def isHexDigit (c : Char) : Bool :=
  c.isDigit || ('a' ≤ c && c ≤ 'f') || ('A' ≤ c && c ≤ 'F')

/-- The number that digits of a base denote. -/
def valueIn (base : Nat) (ds : List Char) : Nat :=
  ds.foldl (fun n c =>
    base * n + (if c.isDigit then c.toNat - '0'.toNat else c.toLower.toNat - 'a'.toNat + 10)) 0

/-- An integer in a base that is a power of two, behind its mark. -/
def basedNumber (base : Nat) (isDigit : Char → Bool) (cs : List Char) :
    Option (Constant × List Char) := do
  let (ds, rest) ← digitsOf isDigit true cs
  if ds.isEmpty then none
  else match rest with
    | c :: _ => if c.isDigit then none else
      if endsNumber rest then some (.int (valueIn base ds), rest) else none
    | [] => some (.int (valueIn base ds), rest)

/-- The fraction of a number: the digits behind its point, if it has one. -/
def fractionOf (cs : List Char) : Option (Option (List Char) × List Char) :=
  match cs with
  | '.' :: rest => (digitsOf Char.isDigit false rest).map fun (ds, r) => (some ds, r)
  | _ => some (none, cs)

/-- The exponent of a number: its digits with their sign, if any.  A letter `e` that
no digit follows belongs to the rest. -/
def exponentOf (cs : List Char) : Option (Option (Bool × List Char) × List Char) :=
  match cs with
  | e :: rest =>
    if e = 'e' || e = 'E' then
      match rest with
      | s :: d :: _ =>
        if s = '+' || s = '-' then
          if d.isDigit then
            (digitsOf Char.isDigit false (rest.drop 1)).map fun (ds, r) => (some (s = '-', ds), r)
          else none
        else if s.isDigit then
          (digitsOf Char.isDigit false rest).map fun (ds, r) => (some (false, ds), r)
        else some (none, cs)
      | [s] =>
        if s.isDigit then some (some (false, [s]), [])
        else if s = '+' || s = '-' then none
        else some (none, cs)
      | [] => some (none, cs)
    else some (none, cs)
  | [] => some (none, [])

/-- A decimal number whose integer part `whole` has been read. -/
def decimalTail (whole rest : List Char) : Option (Constant × List Char) := do
  let (fraction, rest) ← fractionOf rest
  let (exponent, rest) ← exponentOf rest
  let value : Float :=
    let e : Int := match exponent with
      | some (true, ds) => -(Decimal.ofDigits ds : Int)
      | some (false, ds) => Decimal.ofDigits ds
      | none => 0
    let f := fraction.getD []
    Decimal.ofDecimal false (Decimal.ofDigits (whole ++ f)) (e - f.length)
  let isFloat := fraction.isSome || exponent.isSome
  match rest with
  | j :: r =>
    if j = 'j' || j = 'J' then
      if endsNumber r then some (.imaginary value, r) else none
    else if !endsNumber rest then none
    else if isFloat then some (.float value, rest)
    else if whole.head? = some '0' && whole.any (· != '0') then none
    else if 4300 < whole.length then none
    else some (.int (Decimal.ofDigits whole), rest)
  | [] => none

/-- A number. -/
def number (cs : List Char) : Option (Constant × List Char) :=
  match cs with
  | '0' :: x :: rest =>
    if x = 'x' || x = 'X' then basedNumber 16 isHexDigit rest
    else if x = 'o' || x = 'O' then basedNumber 8 (fun c => '0' ≤ c && c ≤ '7') rest
    else if x = 'b' || x = 'B' then basedNumber 2 (fun c => c = '0' || c = '1') rest
    else do
      let (whole, rest) ← digitsOf Char.isDigit false cs
      decimalTail whole rest
  | '.' :: _ => decimalTail [] cs
  | _ => do
    let (whole, rest) ← digitsOf Char.isDigit false cs
    decimalTail whole rest

/-! ### Texts -/

/-- The flags of a literal's letters: raw, octets, format, marked. -/
def textFlags (letters : List Char) : Option (Bool × Bool × Bool × Bool) :=
  match String.ofList (letters.map Char.toLower) with
  | "" => some (false, false, false, false)
  | "r" => some (true, false, false, false)
  | "b" => some (false, true, false, false)
  | "f" => some (false, false, true, false)
  | "u" => some (false, false, false, letters = ['u'])
  | "rb" | "br" => some (true, true, false, false)
  | "rf" | "fr" => some (true, false, true, false)
  | _ => none

/-- Whether a character is one of the two marks that enclose texts. -/
def isQuote (c : Char) : Bool := c = '\'' || c = '"'

/-- The inside of a literal up to three marks, and the rest. -/
def longBody (q : Char) : List Char → Option (List Char × List Char)
  | [] => none
  | '\\' :: c :: cs => (longBody q cs).map fun (b, r) => ('\\' :: c :: b, r)
  | c :: cs =>
    if c = q && [q, q].isPrefixOf cs then some ([], cs.drop 2)
    else (longBody q cs).map fun (b, r) => (c :: b, r)

/-- The inside of a literal up to one mark, and the rest. -/
def shortBody (q : Char) : List Char → Option (List Char × List Char)
  | [] => none
  | '\n' :: _ => none
  | '\\' :: c :: cs => (shortBody q cs).map fun (b, r) => ('\\' :: c :: b, r)
  | c :: cs =>
    if c = q then some ([], cs) else (shortBody q cs).map fun (b, r) => (c :: b, r)

/-- The inside of a literal and the rest, from its opening mark on. -/
def textBody : List Char → Option (List Char × List Char)
  | [] => none
  | q :: cs => if [q, q].isPrefixOf cs then longBody q (cs.drop 2) else shortBody q cs

/-- A literal with at most two letters in front. -/
def textToken (cs : List Char) : Option (Option (Lexeme × List Char)) :=
  let letters := (cs.take 3).takeWhile Char.isAlpha
  match cs.drop letters.length with
  | q :: _ =>
    if isQuote q then
      match textFlags letters with
      | some (raw, octets, format, marked) =>
        (textBody (cs.drop letters.length)).map fun (body, rest) =>
          some (.text raw octets format marked body, rest)
      | none => some none
    else some none
  | [] => some none

/-! ### Names and symbols -/

/-- A name or keyword. -/
def nameToken (cs : List Char) : Option (Lexeme × List Char) :=
  let word := cs.takeWhile isNameChar
  let rest := cs.dropWhile isNameChar
  if word.all (fun c => c.toNat < 128) then
    let s := String.ofList word
    some (if keywords.contains s then .keyword s else .name s, rest)
  else if Text.isIdentifier word then some (.name (.ofList (Text.compatible word)), rest)
  else none

/-- A symbol, the longest that fits. -/
def symbolToken (cs : List Char) : Option (Lexeme × List Char) :=
  if symbols3.contains (.ofList (cs.take 3)) then some (.op (.ofList (cs.take 3)), cs.drop 3)
  else if symbols2.contains (.ofList (cs.take 2)) then some (.op (.ofList (cs.take 2)), cs.drop 2)
  else match cs with
    | c :: rest => if symbols1.contains c then some (.op (.singleton c), rest) else none
    | [] => none

/-! ### Lines and blocks -/

/-- The width of a line's indentation in two measures: with tab stops at every eighth
column, and with tabs as wide as spaces. -/
structure Width where
  wide : Nat
  narrow : Nat
  deriving DecidableEq, Repr

/-- The width no indentation has. -/
def Width.zero : Width := ⟨0, 0⟩

/-- Where the scanner stands: what is left, the line, the indentations of the open
blocks with the innermost first, and the open brackets with the innermost first. -/
structure State where
  rest : List Char
  line : Nat
  widths : List Width
  brackets : List Char

/-- Measures the indentation of a line.  `joined` is the width in front of the first
backslash that joins the line to the next one; a width of zero counts as none. -/
def measure : (fuel : Nat) → List Char → (line : Nat) → Width → (joined : Nat) →
    Option (List Char × Nat × Width)
  | 0, _, _, _, _ => none
  | fuel + 1, cs, line, w, joined =>
    match cs with
    | ' ' :: r => measure fuel r line ⟨w.wide + 1, w.narrow + 1⟩ joined
    | '\t' :: r => measure fuel r line ⟨(w.wide / 8 + 1) * 8, w.narrow + 1⟩ joined
    | '\x0c' :: r => measure fuel r line .zero joined
    | '\\' :: '\n' :: r =>
      if r.isEmpty then none
      else measure fuel r (line + 1) w (if joined = 0 then w.wide else joined)
    | '\\' :: _ => none
    | _ => some (cs, line, if joined = 0 then w else ⟨joined, joined⟩)

/-- Closes blocks until the innermost one is no wider than a line. -/
def closeBlocks (w : Width) : List Width → Option (Nat × List Width)
  | [] => none
  | top :: below =>
    if w.wide < top.wide then (closeBlocks w below).map fun (n, ws) => (n + 1, ws)
    else if w = top then some (0, top :: below)
    else none

/-- The most blocks that may be open at a time. -/
def blockLimit : Nat := 100

/-- The tokens that a line's indentation gives, and the blocks that are then open. -/
def indentation (w : Width) (line : Nat) (widths : List Width) : Option (List Token × List Width) :=
  match widths with
  | [] => none
  | top :: below =>
    if top.wide < w.wide then
      if top.narrow < w.narrow && below.length + 2 ≤ blockLimit then
        some ([⟨.indent, line⟩], w :: top :: below)
      else none
    else (closeBlocks w (top :: below)).map fun (n, ws) =>
      (List.replicate n ⟨.dedent, line⟩, ws)

/-- The bracket that closes an opening one. -/
def closing : Char → Char
  | '(' => ')'
  | '[' => ']'
  | _ => '}'

/-- The most brackets that may be open at a time. -/
def bracketLimit : Nat := 200

/-- The open brackets behind a symbol. -/
def afterSymbol (symbol : String) (brackets : List Char) : Option (List Char) :=
  match symbol.toList with
  | [c] =>
    if c = '(' || c = '[' || c = '{' then
      if brackets.length < bracketLimit then some (c :: brackets) else none
    else if c = ')' || c = ']' || c = '}' then
      match brackets with
      | top :: below => if closing top = c then some below else none
      | [] => none
    else some brackets
  | _ => some brackets

/-- The open brackets behind a token. -/
def afterLexeme (lexeme : Lexeme) (brackets : List Char) : Option (List Char) :=
  match lexeme with
  | .op symbol => afterSymbol symbol brackets
  | _ => some brackets

/-- Scans one token, which starts at the first character left. -/
def one (cs : List Char) : Option (Lexeme × List Char) := do
  match cs with
  | c :: rest =>
    if isNameStart c || isQuote c then
      match ← textToken cs with
      | some found => some found
      | none => nameToken cs
    else if c.isDigit || (c = '.' && (rest.head?.map Char.isDigit).getD false) then
      (number cs).map fun (value, rest) => (.number value, rest)
    else symbolToken cs
  | [] => none

/-- Scans the rest of a program; `atStart` tells that a line starts here, `isBlank`
that the line holds no token so far and gives no `newline`. -/
def scanFrom : (fuel : Nat) → (atStart isBlank : Bool) → State → Option (List Token)
  | 0, _, _, _ => none
  | fuel + 1, true, _, s => do
    let (rest, line, w) ← measure (s.rest.length + 1) s.rest s.line .zero 0
    match rest with
    | '#' :: _ | '\n' :: _ => scanFrom fuel false true { s with rest, line }
    | _ =>
      if s.brackets.isEmpty then do
        let (tokens, widths) ← indentation w line s.widths
        (scanFrom fuel false false { s with rest, line, widths }).map (tokens ++ ·)
      else scanFrom fuel false false { s with rest, line }
  | fuel + 1, false, isBlank, s =>
    match s.rest with
    | [] => if s.brackets.isEmpty then some [⟨.finish, s.line⟩] else none
    | '\n' :: r =>
      let next := scanFrom fuel true false { s with rest := r, line := s.line + 1 }
      if isBlank || !s.brackets.isEmpty then next
      else next.map (⟨.newline, s.line⟩ :: ·)
    | '\\' :: '\n' :: r =>
      if r.isEmpty then none
      else scanFrom fuel false isBlank { s with rest := r, line := s.line + 1 }
    | '#' :: r => scanFrom fuel false isBlank { s with rest := r.dropWhile (· != '\n') }
    | c :: r =>
      if c = ' ' || c = '\t' || c = '\x0c' then scanFrom fuel false isBlank { s with rest := r }
      else do
        let (lexeme, rest) ← one s.rest
        let brackets ← afterLexeme lexeme s.brackets
        let passed := (s.rest.take (s.rest.length - rest.length)).count '\n'
        (scanFrom fuel false false { s with rest, line := s.line + passed, brackets }).map
          (⟨lexeme, s.line⟩ :: ·)

/-- The tokens of a program, `none` when it cannot be cut into tokens. -/
def scan (source : List Char) : Option (List Token) :=
  if source.contains '\x00' then none
  else
    let cs := prepare source
    scanFrom (2 * cs.length + 2) true false ⟨cs, 1, [.zero], []⟩

end Token

end SnippetProfiler.Indented
