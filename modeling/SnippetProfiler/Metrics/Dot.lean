import SnippetProfiler.Decimal.Text
import SnippetProfiler.Metrics.Basic

/-!
# Drawings of call graphs

The graph of calls as a text in the DOT language.  Names get numbers in the order in which
they are first used, first by the list of nodes and then by the edges.  `drawing` gives the
statements, `Statement.text` writes them.  A label that is a word or a numeral of the
language, or a text in angle brackets, is written as it is, every other one in quotation
marks.
-/

namespace SnippetProfiler.Dot

/-- A statement of a drawing. -/
inductive Statement where
  | node (id : Nat) (label : String) (isRoot : Bool)
  | edge (source target : Nat) (label : String)
  deriving DecidableEq, Repr

/-! ### Labels -/

/-- The words that the language keeps for itself. -/
def keywords : List String := ["node", "edge", "graph", "digraph", "subgraph", "strict"]

/-- Whether a character may begin a word. -/
def startsWord (c : Char) : Bool := c.isAlpha || c = '_'

/-- Whether a text is a word. -/
def isWord : List Char → Bool
  | [] => false
  | c :: cs => startsWord c && cs.all fun d => startsWord d || d.isDigit

/-- Whether a text is a numeral. -/
def isNumeral (s : List Char) : Bool :=
  let body := if ['-'].isPrefixOf s then s.drop 1 else s
  let whole := body.takeWhile Char.isDigit
  match body.dropWhile Char.isDigit with
  | [] => !whole.isEmpty
  | '.' :: fraction => fraction.all Char.isDigit && !(whole.isEmpty && fraction.isEmpty)
  | _ => false

/-- A text without the newline at its end, if it has one. -/
def dropNewline (s : List Char) : List Char :=
  if ['\n'].isSuffixOf s then s.dropLast else s

/-- Whether a text stands in angle brackets, a newline behind them aside. -/
def isBracketed (s : List Char) : Bool :=
  let body := dropNewline s
  ['<'].isPrefixOf body && ['>'].isSuffixOf body && 1 < body.length

/-- Writes a backslash in front of each quotation mark.  Of an odd number of backslashes in
front of one, the last one is already that. -/
def escapeQuotes : (backslashes : Nat) → List Char → List Char
  | _, [] => []
  | k, '\\' :: cs => '\\' :: escapeQuotes (k + 1) cs
  | k, '"' :: cs => (if k % 2 = 0 then ['\\', '"'] else ['"']) ++ escapeQuotes 0 cs
  | _, c :: cs => c :: escapeQuotes 0 cs

/-- A label as it is written. -/
def quoted (label : String) : String :=
  let s := label.toList
  let bare := dropNewline s
  let plain := (isWord bare || isNumeral bare)
    && !keywords.contains (.ofList (s.map Char.toLower))
  if isBracketed s || plain then label else "\"" ++ .ofList (escapeQuotes 0 s) ++ "\""

/-! ### Statements -/

/-- The number of a name, and the names numbered so far. -/
def numberOf (names : List String) (name : String) : Nat × List String :=
  match names.findIdx? (· = name) with
  | some i => (i, names)
  | none => (names.length, names ++ [name])

/-- The label of an edge. -/
def edgeLabel (e : CallEdge Float) : String :=
  Decimal.integer e.callCount ++ "x\\n" ++ Decimal.fixed 2 e.total ++ "ms"

/-- The statements of nodes, and the names numbered behind them. -/
def nodeStatements (names : List String) : List String → List Statement × List String
  | [] => ([], names)
  | name :: rest =>
    let (id, names) := numberOf names name
    let (statements, names) := nodeStatements names rest
    (.node id name (name = rootNode) :: statements, names)

/-- The statements of edges. -/
def edgeStatements (names : List String) : List (CallEdge Float) → List Statement
  | [] => []
  | e :: rest =>
    let (source, names) := numberOf names e.source
    let (target, names) := numberOf names e.target
    .edge source target (edgeLabel e) :: edgeStatements names rest

/-- The statements of a drawing. -/
def drawing (g : CallGraph Float) : List Statement :=
  let (nodes, names) := nodeStatements [] g.nodes
  nodes ++ edgeStatements names g.edges

/-! ### The text -/

/-- A statement as it is written. -/
def Statement.text : Statement → String
  | .node id label isRoot =>
    toString id ++ " [label=" ++ quoted label ++ (if isRoot then " fillcolor=lightgray" else "") ++ "]"
  | .edge source target label =>
    toString source ++ " -> " ++ toString target ++ " [label=" ++ quoted label ++ "]"

/-- How nodes and edges look. -/
def styles : List String :=
  ["node [fillcolor=lightblue shape=box style=\"rounded,filled\"]", "edge [color=gray40]"]

/-- The text of a drawing. -/
def render (g : CallGraph Float) : String :=
  "// Call Graph\ndigraph \x7b\n"
    ++ String.join ((styles ++ (drawing g).map Statement.text).map fun s => "\t" ++ s ++ "\n")
    ++ "\x7d\n"

end SnippetProfiler.Dot
