import SnippetProfiler.Indented.Inject
import SnippetProfiler.Indented.Shape
import SnippetProfiler.Indented.Nesting
import SnippetProfiler.Indented.Printer
import SnippetProfiler.Indented.Grammar.Statement
import SnippetProfiler.Indented.Placement
import SnippetProfiler.Text.Lines
import SnippetProfiler.Trace.Options

/-!
# Instrumented programs

The program that runs in place of a snippet: a header of three lines, and the snippet
inside a `try` statement that reports how it ends.  The header holds the features that
the snippet imports, the import of the hooks with the documentation text of the
snippet, and a call that starts the hooks with the options, the lines of the snippet,
and for each line of the program the line of the snippet it comes from.

`instrument` rewrites the snippet with hooks.  A snippet that cannot be read, printed
or run when rewritten is kept as a text that the program compiles and runs itself, so
that it fails in its own way; `fallback` makes that program.
-/

namespace SnippetProfiler.Indented

/-- The module of the hooks. -/
def hookModule : String := "_perfscope_probe"

/-- The name of the exception that ends a snippet. -/
def exceptionName : String := "__probe_exc__"

/-- The number of lines in front of the body of an instrumented program. -/
def headerLines : Nat := 3

/-- The name of the file of a snippet. -/
def snippetFile : String := "<snippet>"

/-- A block inside the statement that reports how it ends. -/
def wrap (body : Block) : Block :=
  [.tryExcept 0 false (if body.isEmpty then [.pass 0] else body)
    [.handler 0 (some (.name 0 "BaseException")) (some exceptionName)
      [.expression 0 (hookCall 0 "finish" [.name 0 exceptionName])]]
    [.expression 0 (hookCall 0 "finish" [])] []]

/-- Whether a statement imports features of the language. -/
def Stmt.isFuture : Stmt → Bool
  | .importFrom _ (some "__future__") _ _ => true
  | _ => false

/-- The features that a statement imports. -/
def Stmt.features : Stmt → List String
  | .importFrom _ (some "__future__") names _ => names.map Alias.name
  | _ => []

/-- The features that the statements of a block import, and the other statements. -/
def splitFuture (body : Block) : List String × Block :=
  (body.flatMap Stmt.features, body.filter fun s => !s.isFuture)

/-- The documentation text of a program, and the statements behind it. -/
def splitText : Block → Option (List Nat) × Block
  | .expression _ (.constant _ (.text codes _)) :: rest => (some codes, rest)
  | body => (none, body)

/-! ### The header -/

/-- The literal of a truth value. -/
def truth (b : Bool) : String := if b then "True" else "False"

/-- The literal of the options. -/
def optionsLiteral (o : TrackingOptions) : String :=
  "\x7b" ++ ", ".intercalate (o.fields.map fun (k, v) => Text.Quoted.literal k ++ ": " ++ truth v)
    ++ "\x7d"

/-- The literal of a line map. -/
def mapLiteral (mapping : List (Nat × Nat)) : String :=
  "\x7b" ++ ", ".intercalate (mapping.map fun (k, v) =>
    Decimal.integer k ++ ": " ++ Decimal.integer v) ++ "\x7d"

/-- The literal of a list of texts. -/
def linesLiteral (lines : List String) : String :=
  "[" ++ ", ".intercalate (lines.map Text.Quoted.literal) ++ "]"

/-- The first line of the header. -/
def featureLine (features : List String) : String :=
  if features.isEmpty then "# instrumented by perfscope"
  else "from __future__ import " ++ ", ".intercalate features

/-- The second line of the header. -/
def importLine (documentation : Option (List Nat)) : String :=
  "import " ++ hookModule ++ " as " ++ hookName ++ (match documentation with
    | some codes => "; __doc__ = " ++ .ofList (Text.Quoted.encodeCodes codes)
    | none => "")

/-- The literal of a line map that may be missing. -/
def mapArgument : Option (List (Nat × Nat)) → String
  | some mapping => mapLiteral mapping
  | none => "None"

/-- The third line of the header. -/
def startLine (o : TrackingOptions) (mapping : Option (List (Nat × Nat))) (lines : List String) :
    String :=
  hookName ++ ".start(" ++ optionsLiteral o ++ ", " ++ mapArgument mapping ++ ", "
    ++ linesLiteral lines ++ ")"

/-- The header of an instrumented program. -/
def header (features : List String) (o : TrackingOptions) (mapping : Option (List (Nat × Nat)))
    (lines : List String) (documentation : Option (List Nat)) : String :=
  featureLine features ++ "\n" ++ importLine documentation ++ "\n" ++ startLine o mapping lines ++ "\n"

/-! ### Programs -/

/-- The call that compiles and runs a snippet. -/
def execCall (source : String) : Expr :=
  .call 0 (.name 0 "exec")
    [.call 0 (.name 0 "compile") [textAt 0 source, textAt 0 snippetFile, textAt 0 "exec"] []] []

/-- The program that keeps a snippet as a text. -/
def fallback (source : String) (o : TrackingOptions) : String :=
  header [] o none (Text.lines source) none
    ++ (print (wrap [.expression 0 (execCall source)])).getD "" ++ "\n"

/-- The program that holds a snippet with its hooks, if the snippet can be rewritten;
whether the program can be run is not asked. -/
def rewritten (source : String) (o : TrackingOptions) : Option String := do
  let program ← parse source.toList
  let (documentation, body) := splitText program
  let (features, body) := splitFuture body
  let wrapped := wrap (injectBlock body)
  guard (isPrinted (moduleShape wrapped))
  let text ← print wrapped
  let reread ← parse text.toList
  let mapping := lineMap (moduleShape wrapped) (moduleShape reread) headerLines
  return header features o (some mapping) (Text.lines source) documentation ++ text ++ "\n"

/-- Whether a text is a program that can be run. -/
def runs (text : String) : Bool :=
  match parse text.toList with
  | some program => compiles program
  | none => false

/-- The program that runs in place of a snippet. -/
def instrument (source : String) (o : TrackingOptions) : String :=
  match rewritten source o with
  | some text => if runs text then text else fallback source o
  | none => fallback source o

/-- Why a snippet cannot be rewritten at all: it is nested too deeply. -/
def nestingError? (source : String) : Option NestingError := do
  let program ← parse source.toList
  if !isBuilt (moduleShape program) then some .notBuilt
  else
    let body := (splitFuture (splitText program).2).2
    if isPlaced (moduleShape (wrap (injectBlock body))) then none else some .notWalked

/-- The program that runs in place of a snippet, unless the snippet is nested too deeply. -/
def prepare (source : String) (o : TrackingOptions) : Except NestingError String :=
  match nestingError? source with
  | some e => .error e
  | none => .ok (instrument source o)

end SnippetProfiler.Indented
