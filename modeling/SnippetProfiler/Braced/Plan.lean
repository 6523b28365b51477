import SnippetProfiler.Braced.Token
import SnippetProfiler.Braced.Hook

/-!
# Plans of hooks

`plan` goes through the tokens of a snippet once and says which hooks to write where:

* a line hook in front of each token that begins a statement of a block;
* a tracing hook at the top of the block that declares a function, behind its directives;
* a variable hook behind each statement that declares variables or assigns to a name, at
  its semicolon, in front of the next statement or the brace that closes the block, or
  behind the last token.

The scopes that are open make a stack, innermost first.  Which kind of scope a bracket
opens matters for where hooks go.  Whether the snippet is refused depends on the brackets
alone: a closing bracket has to fit the innermost scope, and all scopes have to be closed
at the end.
-/

namespace SnippetProfiler.Braced

/-- A statement whose variables are still to be reported. -/
structure Assignment where
  names : List String
  line : Nat
  declares : Bool
  deriving DecidableEq, Repr

/-- What a bracket opens.  A block knows where the hooks of its functions go, whether a
semicolon has to stand in front of them, and the statement whose variables are due. -/
inductive Scope where
  | block (top : Nat) (separate : Bool) (due : Option Assignment)
  | object
  | classBody
  | switchBody
  | group
  | header
  | list
  | substitution
  deriving DecidableEq, Repr

/-- The four types of brackets. -/
inductive Bracket where
  | round
  | square
  | curly
  | template
  deriving DecidableEq, Repr

/-- The bracket that opened a scope. -/
def Scope.bracket : Scope → Bracket
  | .block .. | .object | .classBody | .switchBody => .curly
  | .group | .header => .round
  | .list => .square
  | .substitution => .template

/-- Whether statements stand directly in a scope. -/
def Scope.isBlock : Scope → Bool
  | .block .. => true
  | _ => false

/-- Why no hooks can be planned. -/
inductive PlanError where
  | unbalancedTemplate (line : Nat)
  | unbalanced (text : String) (line : Nat)
  | unclosed
  deriving DecidableEq, Repr

/-- The wording of an error. -/
def PlanError.message : PlanError → String
  | .unbalancedTemplate line => "unbalanced template on line " ++ toString line
  | .unbalanced text line => "unbalanced '" ++ text ++ "' on line " ++ toString line
  | .unclosed => "unbalanced brackets at end of input"

/-! ### Words that matter -/

/-- The keywords that may end a statement. -/
def endingWords : List String := ["this", "super", "break", "continue", "debugger"]

/-- The words that begin no statement. -/
def innerWords : List String :=
  ["else", "catch", "finally", "case", "default", "in", "instanceof", "of", "extends"]

/-- The words whose parentheses stand in front of a statement. -/
def headerWords : List String := ["if", "for", "while", "with", "switch", "catch"]

/-- The words behind which a brace opens a block. -/
def blockWords : List String := ["else", "do", "try", "finally"]

/-- The words that declare variables. -/
def declaringWords : List String := ["var", "let", "const"]

/-- The marks that give a variable a value. -/
def assigningMarks : List String :=
  ["=", "+=", "-=", "*=", "/=", "%=", "**=", "<<=", ">>=", ">>>=", "&=", "|=", "^=", "&&=", "||=",
   "??=", "++", "--"]

/-- Whether a token names a variable. -/
def Token.isName (t : Token) : Bool := t.kind = .identifier && !isKeyword t.text

/-- Whether a token is the mark `text`. -/
def Token.isMark (t : Token) (texts : List String) : Bool := t.kind = .mark && texts.contains t.text

/-! ### Directives -/

/-- The place behind the directives at the front of the tokens, or `top` if there are
none, and whether a semicolon has to be written there. -/
def behindDirectives : List Token → (top : Nat) → (separate : Bool) → Nat × Bool
  | [], top, separate => (top, separate)
  | [t], top, separate => if t.kind = .text then (t.stop, true) else (top, separate)
  | t :: next :: rest, top, separate =>
    if t.kind ≠ .text then (top, separate)
    else if next.text = ";" then behindDirectives rest next.stop false
    else if next.text = "\x7d"
        || (t.line < next.line && (next.kind = .identifier || next.kind = .text)) then
      behindDirectives (next :: rest) t.stop true
    else (top, separate)

/-- The block at the front of whose statements the tokens stand. -/
def openBlock (tokens : List Token) (top : Nat) : Scope :=
  let (top, separate) := behindDirectives tokens top false
  .block top separate none

/-! ### The state of a plan -/

/-- What a plan remembers: the innermost scope, the scopes around it, the number of scopes
at the last `class` and `switch` that wait for their brace, the last token, and whether
that token began a statement or closed the parentheses in front of one. -/
structure Planner where
  inner : Scope
  outer : List Scope := []
  classAt : Option Nat := none
  switchAt : Option Nat := none
  previous : Option Token := none
  previousStarts : Bool := false
  previousEndsHeader : Bool := false
  deriving DecidableEq, Repr

namespace Planner

/-- The number of open scopes. -/
def depth (p : Planner) : Nat := p.outer.length + 1

/-- Whether a token begins a statement.  It stands in a block, and behind it a semicolon
or brace, or on a later line than a token that can end a statement. -/
def starts (p : Planner) (t : Token) : Bool :=
  p.inner.isBlock && t.kind ≠ .mark && t.kind ≠ .text && !innerWords.contains t.text &&
  match p.previous with
  | none => true
  | some prev =>
    if t.text = "while" && prev.text = "\x7d" then false
    else if prev.isMark [";", "\x7b", "\x7d"] then true
    else if t.kind ≠ .identifier || t.line = prev.line then false
    else match prev.kind with
      | .identifier => !isKeyword prev.text || endingWords.contains prev.text
      | .number | .text | .regex => true
      | .template => !prev.opensSubstitution
      | .mark => if prev.text = ")" then !p.previousEndsHeader else ["]", "++", "--"].contains prev.text

/-- The assignment that a token begins, given the token behind it. -/
def assignment? (t : Token) : Option Token → Option Assignment
  | none => none
  | some next =>
    if declaringWords.contains t.text then
      if next.isName then some ⟨[next.text], t.line, true⟩ else none
    else if t.isName && next.isMark assigningMarks then some ⟨[t.text], t.line, false⟩
    else none

/-- The hook of the assignment that is due in the innermost scope. -/
def dueHooks (p : Planner) (position : Nat) (separate : Bool) : List Insertion :=
  match p.inner with
  | .block _ _ (some a) => [⟨position, .vars separate a.names a.line⟩]
  | _ => []

/-- Makes `due` the assignment that is due in the innermost scope. -/
def setDue (p : Planner) (due : Option Assignment) : Planner :=
  match p.inner with
  | .block top separate _ => { p with inner := .block top separate due }
  | _ => p

/-- Begins a statement. -/
def beginStatement (p : Planner) (t : Token) (next : Option Token) : Planner × List Insertion :=
  (p.setDue (assignment? t next),
    p.dueHooks t.start true ++ [⟨t.start, .line t.line⟩])

/-- The hook of a function that is declared in the innermost block. -/
def functionHooks (p : Planner) (t : Token) (starts : Bool) (next : Option Token) :
    List Insertion :=
  match p.inner, next with
  | .block top separate _, some name =>
    if t.text = "function" && name.kind = .identifier
        && (starts || (p.previousStarts && p.previous.any (·.text = "async"))) then
      [⟨top, .rebind separate name.text⟩]
    else []
  | _, _ => []

/-- Remembers the word of a token that waits for its brace. -/
def await (p : Planner) (t : Token) : Planner :=
  if t.text = "class" then { p with classAt := some p.depth }
  else if t.text = "switch" then { p with switchAt := some p.depth }
  else p

/-- Adds a further name that a declaration declares. -/
def declareNext (p : Planner) (next : Option Token) : Planner :=
  match p.inner, next with
  | .block top separate (some a), some name =>
    if a.declares && name.isName then
      { p with inner := .block top separate (some { a with names := a.names ++ [name.text] }) }
    else p
  | _, _ => p

/-- Opens a scope. -/
def push (p : Planner) (s : Scope) : Planner := { p with inner := s, outer := p.inner :: p.outer }

/-- Whether a brace opens a block behind a token. -/
def blockAfter : Option Token → Bool
  | none => true
  | some prev =>
    prev.isMark [";", "\x7b", "\x7d", ")", "=>"] || (prev.kind = .identifier && blockWords.contains prev.text)

/-- Opens the scope of a brace that is followed by the tokens `rest`. -/
def openBrace (p : Planner) (t : Token) (rest : List Token) : Planner :=
  if p.classAt = some p.depth then { p with classAt := none }.push .classBody
  else if p.switchAt = some p.depth then { p with switchAt := none }.push .switchBody
  else if blockAfter p.previous then p.push (openBlock rest t.stop)
  else p.push .object

/-- Whether parentheses behind a token stand in front of a statement. -/
def headerAfter : Option Token → Bool
  | some prev => prev.kind = .identifier && headerWords.contains prev.text
  | none => false

/-- Closes the innermost scope, which the bracket `b` has to fit. -/
def pop (p : Planner) (b : Bracket) : Option Planner :=
  match p.outer with
  | [] => none
  | s :: outer => if p.inner.bracket = b then some { p with inner := s, outer := outer } else none

/-- Closes the innermost scope at a token, with hooks that are due there. -/
def close (p : Planner) (b : Bracket) (t : Token) (hooks : List Insertion) :
    Except PlanError (Planner × List Insertion) :=
  match p.pop b with
  | some q => .ok (q, hooks)
  | none => .error (.unbalanced t.text t.line)

/-- What a mark does. -/
def readMark (p : Planner) (t : Token) (rest : List Token) :
    Except PlanError (Planner × List Insertion) :=
  match t.text with
  | ";" => .ok (p.setDue none, p.dueHooks t.stop false)
  | "," => .ok (p.declareNext rest.head?, [])
  | "(" => .ok (p.push (if headerAfter p.previous then .header else .group), [])
  | "[" => .ok (p.push .list, [])
  | "\x7b" => .ok (p.openBrace t rest, [])
  | ")" => p.close .round t []
  | "]" => p.close .square t []
  | "\x7d" => p.close .curly t (p.dueHooks t.start true)
  | _ => .ok (p, [])

/-- What a piece of a template does. -/
def readTemplate (p : Planner) (t : Token) : Except PlanError (Planner × List Insertion) :=
  let opened (q : Planner) := if t.opensSubstitution then q.push .substitution else q
  if t.closesSubstitution then
    match p.pop .template with
    | some q => .ok (opened q, [])
    | none => .error (.unbalancedTemplate t.line)
  else .ok (opened p, [])

/-- Goes on behind a token that was read. -/
def past (p : Planner) (t : Token) (starts endsHeader : Bool) : Planner :=
  { p with previous := some t, previousStarts := starts, previousEndsHeader := endsHeader }

/-- What a token does, apart from beginning a statement. -/
def effect (p : Planner) (t : Token) (starts : Bool) (rest : List Token) :
    Except PlanError (Planner × List Insertion) :=
  match t.kind with
  | .identifier => .ok (p.await t, p.functionHooks t starts rest.head?)
  | .template => p.readTemplate t
  | .mark => p.readMark t rest
  | _ => .ok (p, [])

/-- Reads a token that is followed by the tokens `rest`. -/
def step (p : Planner) (t : Token) (rest : List Token) :
    Except PlanError (Planner × List Insertion) :=
  let starts := p.starts t
  let (q, opening) := if starts then p.beginStatement t rest.head? else (p, [])
  match q.effect t starts rest with
  | .error e => .error e
  | .ok (r, hooks) =>
    .ok (r.past t starts (t.isMark [")"] && p.inner = .header), opening ++ hooks)

/-- The hooks for the tokens from here on; `stop` is where the last token before them
ends. -/
def run (p : Planner) (stop : Nat) : List Token → Except PlanError (List Insertion)
  | [] => if p.outer.isEmpty then .ok (p.dueHooks stop true) else .error .unclosed
  | t :: rest =>
    match p.step t rest with
    | .error e => .error e
    | .ok (q, hooks) =>
      match q.run t.stop rest with
      | .error e => .error e
      | .ok more => .ok (hooks ++ more)

end Planner

/-- The hooks for a snippet with these tokens, in the order in which they are planned. -/
def plan (tokens : List Token) : Except PlanError (List Insertion) :=
  Planner.run { inner := openBlock tokens 0 } 0 tokens

end SnippetProfiler.Braced
