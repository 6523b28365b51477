import SnippetProfiler.Indented.Program
import SnippetProfiler.Indented.Value
import SnippetProfiler.Text.Blank

/-!
# Exceptions of Python snippets

An exception has a type, arguments, and the places that it has passed.  The families of the
built-in types differ in what arguments they take and in the message that they make of them.
`traceback` is the text that shows an exception with its places and its causes.
-/

namespace SnippetProfiler.Indented

/-- A place in a program: a file, a function and a line. -/
structure Place where
  file : String
  function : String
  line : Int
  deriving DecidableEq, Repr

/-- The families of types of exceptions. -/
inductive Family where
  | plain
  /-- The message quotes a single argument. -/
  | key
  /-- Errors of the operating system, with a number, a message and a file. -/
  | system
  /-- Errors of syntax, with a place in a source. -/
  | grammar
  | decode
  | encode
  | translate
  | group
  deriving DecidableEq, Repr

/-- The types for errors of the operating system, with the numbers that stand for them. -/
def systemTypes : List (String × List Int) :=
  [("OSError", []), ("BlockingIOError", [11, 114, 115]), ("BrokenPipeError", [32, 108]),
   ("ChildProcessError", [10]), ("ConnectionAbortedError", [103]), ("ConnectionError", []),
   ("ConnectionRefusedError", [111]), ("ConnectionResetError", [104]), ("FileExistsError", [17]),
   ("FileNotFoundError", [2]), ("InterruptedError", [4]), ("IsADirectoryError", [21]),
   ("NotADirectoryError", [20]), ("PermissionError", [1, 13]), ("ProcessLookupError", [3]),
   ("TimeoutError", [110])]

/-- The family of a type. -/
def Family.ofType (type : String) : Family :=
  if systemTypes.any (·.1 = type) then .system
  else if ["SyntaxError", "IndentationError", "TabError"].contains type then .grammar
  else match type with
    | "KeyError" => .key
    | "UnicodeDecodeError" => .decode
    | "UnicodeEncodeError" => .encode
    | "UnicodeTranslateError" => .translate
    | "ExceptionGroup" | "BaseExceptionGroup" => .group
    | _ => .plain

/-- An exception without its causes. -/
structure Link where
  type : String
  arguments : List Value := []
  places : List Place := []
  deriving Repr

/-- An exception, with the chain of its causes. -/
structure Exception extends Link where
  causes : List Link := []
  deriving Repr

/-! ### Arguments -/

/-- The types that arguments can be required to have. -/
inductive ArgumentType where
  | text
  | octets
  | number
  | any
  deriving DecidableEq, Repr

/-- Why an exception cannot be made: the arguments do not suit its type. -/
inductive ArgumentError where
  | count (function : String) (quantity : String) (expected given : Nat)
  | type (function : String) (position : Nat) (given : String)
  | number (given : String)
  | octets (given : String)
  | notIterable (given : String)
  | halfEnd
  | notASequence
  | noMembers
  | notAMember (position : Nat)
  | tooLarge
  deriving DecidableEq, Repr

namespace ArgumentError

/-- The type of the exception that stands for an error. -/
def exceptionType : ArgumentError → String
  | noMembers | notAMember _ | tooLarge => "ValueError"
  | _ => "TypeError"

/-- The wording of an error. -/
def message : ArgumentError → String
  | count function quantity expected given =>
    function ++ " takes " ++ quantity ++ " " ++ toString expected
      ++ (if expected = 1 then " argument" else " arguments") ++ " (" ++ toString given ++ " given)"
  | type function position given =>
    function ++ "argument " ++ toString position ++ " must be str, not " ++ given
  | number given => "'" ++ given ++ "' object cannot be interpreted as an integer"
  | octets given => "a bytes-like object is required, not '" ++ given ++ "'"
  | notIterable given => "'" ++ given ++ "' object is not iterable"
  | halfEnd => "end_offset must be provided when end_lineno is provided"
  | notASequence => "second argument (exceptions) must be a sequence"
  | noMembers => "second argument (exceptions) must be a non-empty sequence"
  | notAMember position =>
    "Item " ++ toString position ++ " of second argument (exceptions) is not an exception"
  | tooLarge => "cannot fit 'int' into an index-sized integer"

end ArgumentError

/-- The word for the type of an argument that is not a text. -/
def givenName : Value → String
  | .none => "None"
  | v => v.typeName

/-- Checks the type of an argument. -/
def ArgumentType.check (type : ArgumentType) (position : Nat) (v : Value) :
    Option ArgumentError :=
  match type, v with
  | .any, _ | .text, .text _ | .octets, _ | .number, .int _ | .number, .bool _ => none
  | .text, v => some (.type "" position (givenName v))
  | .number, v => some (.number v.typeName)

/-- The first error of arguments that must have some types. -/
def checkTypes (types : List ArgumentType) (arguments : List Value) : Option ArgumentError :=
  if arguments.length ≠ types.length then
    some (.count "function" "exactly" types.length arguments.length)
  else
    let checks := (types.zip arguments).zipIdx.map fun ((type, v), i) => type.check (i + 1) v
    let octets := (types.zip arguments).map fun (type, v) =>
      match type, v with
      | .octets, .octets _ => none
      | .octets, v => some (ArgumentError.octets v.typeName)
      | _, _ => none
    (checks ++ octets).findSome? id

/-- The items of a value that can be taken apart. -/
def Value.sequence? : Value → Option (List Value)
  | .list vs | .tuple vs | .set _ vs => some vs
  | .table entries => some (entries.map Prod.fst)
  | .text s => some (s.toList.map fun c => .text (.singleton c))
  | .octets bs => some (bs.map fun (b : Nat) => Value.int b)
  | .range n => some ((List.range n.toNat).map fun (i : Nat) => Value.int i)
  | _ => Option.none

/-- Checks the arguments of an error of syntax. -/
def checkGrammar : List Value → Option ArgumentError
  | [_, info] =>
    match info.sequence? with
    | none => some (.notIterable info.typeName)
    | some parts =>
      if parts.length < 4 then some (.count "function" "at least" 4 parts.length)
      else if 6 < parts.length then some (.count "function" "at most" 6 parts.length)
      else if parts.length = 5 then some .halfEnd
      else none
  | _ => none

/-- Checks the arguments of a group of exceptions, which has no members here. -/
def checkGroup (arguments : List Value) : Option ArgumentError :=
  let function := "BaseExceptionGroup.__new__()"
  match arguments with
  | [.text _, members] =>
    match members with
    | .list vs | .tuple vs => some (if vs.isEmpty then .noMembers else .notAMember 0)
    | .text s => some (if s.isEmpty then .noMembers else .notAMember 0)
    | .octets bs => some (if bs.isEmpty then .noMembers else .notAMember 0)
    | .range n => some (if n ≤ 0 then .noMembers else .notAMember 0)
    | .circular => some (.notAMember 0)
    | _ => some .notASequence
  | [v, _] => some (.type (function ++ " ") 1 (givenName v))
  | vs => some (.count function "exactly" 2 vs.length)

/-- Checks the arguments of an error for a transfer that would block, whose third argument may be
the number of octets that were transferred. -/
def checkBlocking : List Value → Option ArgumentError
  | [_, _, .int n] | [_, _, .int n, _] | [_, _, .int n, _, _] =>
    if -(twoTo 63 : Int) ≤ n && n < (twoTo 63 : Int) then none else some .tooLarge
  | [_, _, v] | [_, _, v, _] | [_, _, v, _, _] =>
    match v with
    | .float _ | .complex .. => some (.number v.typeName)
    | _ => none
  | _ => none

/-- What is wrong with the arguments of an exception of a family. -/
def Family.check (family : Family) (arguments : List Value) : Option ArgumentError :=
  match family with
  | .plain | .key | .system => none
  | .grammar => checkGrammar arguments
  | .decode => checkTypes [.text, .octets, .number, .number, .text] arguments
  | .encode => checkTypes [.text, .text, .number, .number, .text] arguments
  | .translate => checkTypes [.text, .number, .number, .text] arguments
  | .group => checkGroup arguments

/-- The type that an exception has: an error of the operating system has the type for its
number. -/
def actualType (type : String) (arguments : List Value) : String :=
  let type := if ["IOError", "EnvironmentError"].contains type then "OSError" else type
  match type, arguments with
  | "OSError", number :: _ :: rest =>
    let number := match number with
      | .int n => some n
      | .bool b => some (if b then 1 else 0)
      | _ => none
    match systemTypes.find? fun entry => rest.length ≤ 3 && number.any entry.2.contains with
    | some entry => entry.1
    | none => type
  | type, _ => type

/-- Makes an exception without causes. -/
def Link.make (type : String) (arguments : List Value) (places : List Place) :
    Except ArgumentError Link :=
  let type := actualType type arguments
  let blocking := if type = "BlockingIOError" then checkBlocking arguments else none
  match blocking, (Family.ofType type).check arguments with
  | some e, _ | none, some e => .error e
  | none, none => .ok { type, arguments, places }

namespace Link

/-! ### Messages -/

/-- The message of arguments. -/
def argumentText : List Value → String
  | [] => ""
  | [v] => v.plainText
  | vs => (Value.tuple vs).literal

/-- The files that an error of the operating system names. -/
def files (type : String) : List Value → List Value
  | .none :: _ => []
  | file :: rest =>
    let isNumber := match file with
      | .int _ | .bool _ | .float _ => true
      | _ => false
    if isNumber && type = "BlockingIOError" then []
    else file :: (match rest with
      | _ :: second :: _ => if second matches .none then [] else [second]
      | _ => [])
  | [] => []

/-- The message of an error of the operating system. -/
def systemMessage (type : String) (arguments : List Value) : String :=
  match arguments with
  | number :: message :: rest =>
    let head := "[Errno " ++ number.plainText ++ "] " ++ message.plainText
    if 3 < rest.length then argumentText arguments
    else match files type rest with
      | [] => head
      | [file] => head ++ ": " ++ file.literal
      | file :: second :: _ => head ++ ": " ++ file.literal ++ " -> " ++ second.literal
  | _ => argumentText arguments

/-- What an error of syntax knows of its place. -/
structure SourcePlace where
  file : Value := .none
  line : Value := .none
  column : Value := .none
  text : Value := .none
  columnEnd : Value := .none

/-- The place of an error of syntax. -/
def sourcePlace : List Value → SourcePlace
  | [_, info] =>
    match info.sequence? with
    | some (file :: line :: column :: text :: rest) =>
      ⟨file, line, column, text, rest.getD 1 .none⟩
    | _ => {}
  | _ => {}

/-- The part of a path after its last slash. -/
def baseName (path : String) : String :=
  .ofList (path.toList.reverse.takeWhile (· ≠ '/')).reverse

/-- The message of an error of syntax. -/
def grammarMessage (arguments : List Value) : String :=
  let place := sourcePlace arguments
  let message := (arguments.headD .none).plainText
  match place.file, place.line with
  | .text file, .int n =>
    message ++ " (" ++ baseName file ++ ", line " ++ Decimal.integer n ++ ")"
  | .text file, _ => message ++ " (" ++ baseName file ++ ")"
  | _, .int n => message ++ " (line " ++ Decimal.integer n ++ ")"
  | _, _ => message

/-- The number that a value is. -/
def numberOf : Value → Int
  | .int n => n
  | .bool b => if b then 1 else 0
  | _ => 0

/-- The place of characters in a text: one, or the first and the last of some. -/
def spanText (kind : String) (single : Option String) (start stop : Int) : String :=
  match single with
  | some shown => kind ++ " " ++ shown ++ " in position " ++ Decimal.integer start
  | none =>
    kind ++ "s in position " ++ Decimal.integer start ++ "-" ++ Decimal.integer (stop - 1)

/-- The item of a list between two positions, if it is a single one. -/
def single? {α : Type} (items : List α) (start stop : Int) : Option α :=
  if 0 ≤ start && stop = start + 1 then items[start.toNat]? else none

/-- A character by its code. -/
def codeText (c : Char) : String := "'" ++ .ofList (Text.Quoted.byCode c.toNat) ++ "'"

/-- The message of an exception. -/
def message (l : Link) : String :=
  match Family.ofType l.type, l.arguments with
  | .key, [v] => v.literal
  | .system, arguments => systemMessage l.type arguments
  | .grammar, arguments => grammarMessage arguments
  | .decode, [coding, .octets bs, start, stop, reason] =>
    let (start, stop) := (numberOf start, numberOf stop)
    let shown := (single? bs start stop).map fun b => "0x" ++ .ofList (Text.hex 2 b)
    "'" ++ coding.plainText ++ "' codec can't decode " ++ spanText "byte" shown start stop
      ++ ": " ++ reason.plainText
  | .encode, [coding, .text s, start, stop, reason] =>
    let (start, stop) := (numberOf start, numberOf stop)
    let shown := (single? s.toList start stop).map codeText
    "'" ++ coding.plainText ++ "' codec can't encode " ++ spanText "character" shown start stop
      ++ ": " ++ reason.plainText
  | .translate, [.text s, start, stop, reason] =>
    let (start, stop) := (numberOf start, numberOf stop)
    let shown := (single? s.toList start stop).map codeText
    "can't translate " ++ spanText "character" shown start stop ++ ": " ++ reason.plainText
  | _, arguments => argumentText arguments

/-! ### Tracebacks -/

/-- How often a place is shown when it comes again and again. -/
def shownRepeats : Nat := 3

/-- The line that tells how often a place is left out. -/
def repeatLine (count : Nat) : String :=
  if shownRepeats < count then
    let left := count - shownRepeats
    "  [Previous line repeated " ++ toString left ++ " more time" ++ (if left = 1 then "" else "s")
      ++ "]\n"
  else ""

/-- The line of a place. -/
def placeLine (p : Place) : String :=
  "  File \"" ++ p.file ++ "\", line " ++ Decimal.integer p.line ++ ", in " ++ p.function ++ "\n"

/-- The lines of places, of which the one before has come `count` times in a row. -/
def placeLines (last : Option Place) (count : Nat) : List Place → String
  | [] => repeatLine count
  | p :: ps =>
    if last = some p then
      (if count < shownRepeats then placeLine p else "") ++ placeLines last (count + 1) ps
    else repeatLine count ++ placeLine p ++ placeLines (some p) 1 ps

/-- Whether a character is left out in front of the text of a line. -/
def isIndent (c : Char) : Bool := c = ' ' || c = '\n' || c = '\x0c'

/-- The marks under the columns of a line whose text follows `spaces` characters. -/
def marks (place : SourcePlace) (spaces : Nat) (shown : List Char) : String :=
  match place.column with
  | .int column =>
    let stop := match place.columnEnd with
      | .int n => if n = 0 || n = column || n = -1 then column + 1 else n
      | _ => column + 1
    let start := column - 1 - spaces
    if start < 0 then ""
    else
      let blanks := (shown.take start.toNat).map fun c => if Text.isBlank c then c else ' '
      "    " ++ .ofList blanks ++ .ofList (List.replicate (stop - 1 - spaces - start).toNat '^') ++ "\n"
  | _ => ""

/-- The last lines of an error of syntax. -/
def grammarLines (l : Link) : String :=
  let place := sourcePlace l.arguments
  let head := match place.line, place.file with
    | .none, _ => ""
    | line, .none => "  File \"<string>\", line " ++ line.plainText ++ "\n"
    | line, file => "  File \"" ++ file.plainText ++ "\", line " ++ line.plainText ++ "\n"
  let tail := match place.line, place.file with
    | .none, .none => ""
    | .none, file => " (" ++ file.plainText ++ ")"
    | _, _ => ""
  let source := match place.text with
    | .text s =>
      let line := Text.dropRightWhile (· = '\n') s.toList
      let shown := line.dropWhile isIndent
      "    " ++ .ofList shown ++ "\n" ++ marks place (line.length - shown.length) shown
    | _ => ""
  let message := match l.arguments with
    | [] => "<no detail available>"
    | v :: _ => if v.isFalse then "<no detail available>" else v.plainText
  head ++ source ++ l.type ++ ": " ++ message ++ tail ++ "\n"

/-- The last lines of an exception. -/
def lastLines (l : Link) : String :=
  if Family.ofType l.type = .grammar then l.grammarLines
  else if l.message.isEmpty then l.type ++ "\n"
  else l.type ++ ": " ++ l.message ++ "\n"

/-- The text that shows an exception without its causes. -/
def traceback (l : Link) : String :=
  (if l.places.isEmpty then ""
    else "Traceback (most recent call last):\n" ++ placeLines none 0 l.places)
  ++ l.lastLines

end Link

namespace Exception

/-- What stands between a cause and its exception. -/
def causeLine : String :=
  "\nThe above exception was the direct cause of the following exception:\n\n"

/-- The text that shows an exception with its causes, the first of them first. -/
def traceback (e : Exception) : String :=
  String.intercalate causeLine ((e.toLink :: e.causes).reverse.map Link.traceback)

/-- Whether an exception only ends the program, with success. -/
def isQuiet (e : Exception) : Bool :=
  e.type = "SystemExit" && match e.arguments with
    | [] | [.none] => true
    | [v] => v.isZero
    | _ => false

/-! ### Lines of the snippet -/

/-- A path with `.` and `..` taken out. -/
def absolute? (path : String) : Option (List String) :=
  match (Text.splitOnChar '/' path.toList).map String.ofList with
  | "" :: parts =>
    some (parts.foldl (fun out part =>
      if part.isEmpty || part = "." then out
      else if part = ".." then out.dropLast
      else out ++ [part]) [])
  | _ => none

/-- The line of the snippet that a place is at, in a program at a path with a map of lines. -/
def snippetLine? (script : String) (mapping : Option (List (Int × Option Int))) (p : Place) :
    Option Int :=
  if p.file = snippetFile then some p.line
  else if (absolute? p.file).isSome && absolute? p.file == absolute? script then
    match mapping.bind fun m => m.find? fun entry => entry.1 = p.line with
    | some (_, line) => line
    | none => none
  else none

/-- The line at which an exception has left the snippet. -/
def failingLine (script : String) (mapping : Option (List (Int × Option Int))) (e : Exception) :
    Json :=
  let place := Link.sourcePlace e.arguments
  let own := match Family.ofType e.type, place.file with
    | .grammar, .text file => file = snippetFile && !(place.line matches .none) && !place.line.isZero
    | _, _ => false
  if own then place.line.toJson
  else match (e.places.filterMap (snippetLine? script mapping)).getLast? with
    | some line => .int line
    | none => .str "unknown"

end Exception

end SnippetProfiler.Indented
