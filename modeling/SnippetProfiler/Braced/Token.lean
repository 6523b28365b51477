import SnippetProfiler.Text.Blank
import SnippetProfiler.Text.Classes

/-!
# Tokens of snippets with braces

`scan` cuts a text into tokens.  A token knows the characters it takes, from `start` up
to `stop`, and its line: the line of its first character, or for a piece of a template
the line of its last one.

What a character begins depends on what came before it.  A slash begins a regular
expression or is a mark, depending on the token in front of it.  A closing brace goes on
with a template if the braces opened since its substitution began are closed.  A `Spot`
carries what the scan has to remember for this.

At each character `readPiece` says how many characters further the piece that begins
there extends, so that the text of a token is always a stretch of the source.
-/

namespace SnippetProfiler.Braced

/-- What a token is. -/
inductive TokenKind where
  | identifier
  | number
  | text
  | template
  | regex
  | mark
  deriving DecidableEq, Repr

/-- A token, the half-open range of positions that it takes, and its line. -/
structure Token where
  kind : TokenKind
  text : String
  start : Nat
  stop : Nat
  line : Nat
  deriving DecidableEq, Repr

/-- Why a text cannot be cut into tokens. -/
inductive ScanError where
  | unterminatedComment
  | unterminatedText (line : Nat)
  | unterminatedTemplate
  | unterminatedRegex (line : Nat)
  | unterminatedSubstitution
  deriving DecidableEq, Repr

/-- The wording of an error. -/
def ScanError.message : ScanError → String
  | .unterminatedComment => "unterminated comment"
  | .unterminatedText line => "unterminated string on line " ++ toString line
  | .unterminatedTemplate => "unterminated template literal"
  | .unterminatedRegex line => "unterminated regex on line " ++ toString line
  | .unterminatedSubstitution => "unterminated template substitution"

/-! ### Classes of characters and words -/

/-- Whether a character may begin an identifier. -/
def startsIdentifier (c : Char) : Bool := c.isAlpha || c == '_' || c == '$' || 127 < c.toNat

/-- Whether a character may stand inside an identifier. -/
def continuesIdentifier (c : Char) : Bool := startsIdentifier c || c.isDigit

/-- Whether a character may stand inside a number, behind its first character. -/
def continuesNumber (c : Char) : Bool := Text.isAlphanumeric c || c == '.' || c == '_'

/-- The marks of more than one character, longer ones first. -/
def longMarks : List String :=
  [">>>=", "...", "===", "!==", "**=", "<<=", ">>=", ">>>", "&&=", "||=", "??=", "=>", "==", "!=",
   "<=", ">=", "&&", "||", "??", "?.", "++", "--", "+=", "-=", "*=", "/=", "%=", "&=", "|=", "^=",
   "<<", ">>", "**"]

/-- The words that name no variable. -/
def keywords : List String :=
  ["await", "break", "case", "catch", "class", "const", "continue", "debugger", "default", "delete",
   "do", "else", "export", "extends", "finally", "for", "function", "if", "import", "in",
   "instanceof", "let", "new", "of", "return", "static", "super", "switch", "this", "throw", "try",
   "typeof", "var", "void", "while", "with", "yield", "async"]

/-- Whether a word names no variable. -/
def isKeyword (word : String) : Bool := keywords.contains word

/-- The keywords that are values. -/
def valueWords : List String := ["this", "super"]

/-- Whether a piece of a template ends where a substitution begins. -/
def Token.opensSubstitution (t : Token) : Bool := ['$', '{'].isSuffixOf t.text.toList

/-- Whether a piece of a template begins where a substitution ends. -/
def Token.closesSubstitution (t : Token) : Bool := ['}'].isPrefixOf t.text.toList

/-- Whether a slash behind a token begins a regular expression. -/
def regexAfter : Option Token → Bool
  | none => true
  | some t =>
    match t.kind with
    | .identifier => isKeyword t.text && !valueWords.contains t.text
    | .mark => !([")", "]", "\x7d"].contains t.text)
    | .template => t.opensSubstitution
    | _ => false

/-! ### How far pieces extend -/

/-- The number of newlines in a text. -/
def newlines (s : List Char) : Nat := s.count '\n'

/-- The characters up to the end of a block comment. -/
def commentLength : List Char → Option Nat
  | '*' :: '/' :: _ => some 2
  | _ :: cs => (commentLength cs).map (· + 1)
  | [] => none

/-- The characters up to and with the mark `quote`.  A newline has to stand behind a
backslash, which also hides a mark. -/
def textLength (quote : Char) : List Char → Option Nat
  | '\\' :: _ :: cs => (textLength quote cs).map (· + 2)
  | c :: cs =>
    if c = quote then some 1
    else if c = '\n' then none
    else (textLength quote cs).map (· + 1)
  | [] => none

/-- The characters up to and with the end of a piece of a template, and how many of them
are newlines that stand behind no backslash. -/
def templateLength : List Char → Option (Nat × Nat)
  | '\\' :: _ :: cs => (templateLength cs).map fun (n, k) => (n + 2, k)
  | '$' :: '{' :: _ => some (2, 0)
  | c :: cs =>
    if c = '`' then some (1, 0)
    else (templateLength cs).map fun (n, k) => (n + 1, if c = '\n' then k + 1 else k)
  | [] => none

/-- The characters up to and with the slash that ends a regular expression.  Inside
brackets a slash is an ordinary character. -/
def regexLength (bracketed : Bool) : List Char → Option Nat
  | '\\' :: _ :: cs => (regexLength bracketed cs).map (· + 2)
  | c :: cs =>
    if c = '\n' then none
    else if c = '/' && !bracketed then some 1
    else (regexLength (c == '[' || (bracketed && c != ']')) cs).map (· + 1)
  | [] => none

/-- The number of leading characters in the class `p`. -/
def runLength (p : Char → Bool) (s : List Char) : Nat := (s.takeWhile p).length

/-- The length of the mark at the front of a text. -/
def markLength (s : List Char) : Nat :=
  match longMarks.find? fun m => m.toList.isPrefixOf s with
  | some m => m.length
  | none => 1

/-! ### The scan -/

/-- Where a scan is: its position and line, the braces that are open, the number of open
braces at the beginning of each open substitution, innermost first, and the last token. -/
structure Spot where
  position : Nat := 0
  line : Nat := 1
  depth : Int := 0
  openings : List Int := []
  previous : Option Token := none
  deriving DecidableEq, Repr

/-- What begins at a character: it extends over `extra` characters more, and the scan
goes on `lines` lines further down. -/
inductive Piece where
  | gap (extra lines : Nat)
  | lexeme (kind : TokenKind) (extra lines : Nat)
  deriving DecidableEq, Repr

/-- A piece of a template, behind its first character. -/
def readTemplate (cs : List Char) : Except ScanError Piece :=
  match templateLength cs with
  | some (n, k) => .ok (.lexeme .template n k)
  | none => .error .unterminatedTemplate

/-- The piece that begins at the character `c` with the characters `cs` behind it. -/
def readPiece (s : Spot) (c : Char) (cs : List Char) : Except ScanError Piece :=
  if c = '\n' then .ok (.gap 0 1)
  else if Text.isBlank c then .ok (.gap 0 0)
  else if c = '/' && cs.head? == some '/' then .ok (.gap (runLength (· != '\n') cs) 0)
  else if c = '/' && cs.head? == some '*' then
    match commentLength cs.tail with
    | some n => .ok (.gap (n + 1) (newlines (cs.take (n + 1))))
    | none => .error .unterminatedComment
  else if c = '"' || c = '\'' then
    match textLength c cs with
    | some n => .ok (.lexeme .text n (newlines (cs.take n)))
    | none => .error (.unterminatedText s.line)
  else if c = '`' then readTemplate cs
  else if c = '}' && s.openings.head? == some s.depth then readTemplate cs
  else if c = '/' && regexAfter s.previous then
    match regexLength false cs with
    | some n => .ok (.lexeme .regex (n + runLength continuesIdentifier (cs.drop n)) 0)
    | none => .error (.unterminatedRegex s.line)
  else if startsIdentifier c then .ok (.lexeme .identifier (runLength continuesIdentifier cs) 0)
  else if c.isDigit || (c = '.' && cs.head?.any Text.isDigitLike) then
    .ok (.lexeme .number (runLength continuesNumber cs) 0)
  else .ok (.lexeme .mark (markLength (c :: cs) - 1) 0)

/-- The token that a lexeme makes. -/
def Spot.token (s : Spot) (kind : TokenKind) (text : List Char) (lines : Nat) : Token :=
  ⟨kind, .ofList text, s.position, s.position + text.length,
    if kind = .template then s.line + lines else s.line⟩

/-- The substitutions that are open behind a token. -/
def Spot.openingsAfter (s : Spot) (t : Token) : List Int :=
  if t.kind = .template then
    let outer := if t.closesSubstitution then s.openings.tail else s.openings
    if t.opensSubstitution then s.depth :: outer else outer
  else s.openings

/-- The braces that are open behind a token. -/
def Spot.depthAfter (s : Spot) (t : Token) : Int :=
  if t.kind = .mark then
    if t.text = "\x7b" then s.depth + 1 else if t.text = "\x7d" then s.depth - 1 else s.depth
  else s.depth

/-- Where a scan is behind a token. -/
def Spot.pass (s : Spot) (t : Token) (lines : Nat) : Spot :=
  ⟨t.stop, s.line + lines, s.depthAfter t, s.openingsAfter t, some t⟩

/-- Where a scan is behind `n` characters that belong to no token. -/
def Spot.skip (s : Spot) (n lines : Nat) : Spot :=
  { s with position := s.position + n, line := s.line + lines }

/-- The tokens of the characters from a spot on. -/
def scanFrom (s : Spot) (source : List Char) : Except ScanError (List Token) :=
  match source with
  | [] => if s.openings.isEmpty then .ok [] else .error .unterminatedSubstitution
  | c :: cs =>
    match readPiece s c cs with
    | .error e => .error e
    | .ok (.gap extra lines) => scanFrom (s.skip (extra + 1) lines) (cs.drop extra)
    | .ok (.lexeme kind extra lines) =>
      let t := s.token kind (c :: cs.take extra) lines
      match scanFrom (s.pass t lines) (cs.drop extra) with
      | .error e => .error e
      | .ok ts => .ok (t :: ts)
  termination_by source.length
  decreasing_by all_goals (simp only [List.length_cons, List.length_drop]; omega)

/-- The characters of a first line that names an interpreter. -/
def shebangLength (source : List Char) : Nat :=
  if ['#', '!'].isPrefixOf source then runLength (· != '\n') source else 0

/-- The tokens of a text. -/
def scan (source : List Char) : Except ScanError (List Token) :=
  let n := shebangLength source
  scanFrom { position := n } (source.drop n)

end SnippetProfiler.Braced
