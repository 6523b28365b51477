import SnippetProfiler.Text.Blank

/-!
# Files of assignments

A file that gives values to names, one assignment after the other:

* `NAME=value`, with an optional `export` in front and spaces around the sign;
* the value stands in single quotes, in double quotes, or bare; quoted values may hold
  newlines and escapes, bare ones end at the line or at a comment;
* a name without a sign has no value;
* `#` starts a comment; a line that is none of this is skipped.

A value may refer to others: `${NAME}` stands for the value of a name, and
`${NAME:-default}` for the default when the name is unknown.
-/

namespace SnippetProfiler.Assignments

open Text (isBlank dropRightWhile)

/-- Whether a character is a blank within a line. -/
def isInlineBlank (c : Char) : Bool := isBlank c && c ≠ '\n' && c ≠ '\r'

/-- A text with every end of line written as a newline. -/
def normalizeNewlines : List Char → List Char
  | [] => []
  | '\r' :: '\n' :: cs => '\n' :: normalizeNewlines cs
  | c :: cs => (if c = '\r' then '\n' else c) :: normalizeNewlines cs

/-- The text after the word `export` and the blanks that follow it. -/
def dropExport (s : List Char) : List Char :=
  match s with
  | 'e' :: 'x' :: 'p' :: 'o' :: 'r' :: 't' :: c :: rest =>
    if isInlineBlank c then rest.dropWhile isInlineBlank else s
  | _ => s

/-- The name at the start of a text, and the rest; none for a comment. -/
def name? (s : List Char) : Except (List Char) (Option (List Char) × List Char) :=
  match s with
  | '#' :: _ => .ok (none, s)
  | '\'' :: rest =>
    let name := rest.takeWhile (· ≠ '\'')
    match rest.dropWhile (· ≠ '\'') with
    | [] => .error s
    | _ :: rest => if name.isEmpty then .error s else .ok (some name, rest)
  | _ =>
    let inName (c : Char) : Bool := c ≠ '=' && c ≠ '#' && !isBlank c
    let name := s.takeWhile inName
    if name.isEmpty then .error s else .ok (some name, s.dropWhile inName)

/-! ### Values -/

/-- The text up to the closing quote, and the rest.  A character after a backslash belongs to the
text. -/
def quoted? (quote : Char) : List Char → Option (List Char × List Char)
  | [] => none
  | ['\\'] => none
  | '\\' :: c :: cs => (quoted? quote cs).map fun (v, r) => ('\\' :: c :: v, r)
  | c :: cs =>
    if c = quote then some ([], cs) else (quoted? quote cs).map fun (v, r) => (c :: v, r)

/-- The character that an escape in double quotes stands for. -/
def doubleEscape? : Char → Option Char
  | '\\' => some '\\'
  | '\'' => some '\''
  | '"' => some '"'
  | 'a' => some '\x07'
  | 'b' => some '\x08'
  | 'f' => some '\x0c'
  | 'n' => some '\n'
  | 'r' => some '\r'
  | 't' => some '\t'
  | 'v' => some '\x0b'
  | _ => none

/-- The character that an escape in single quotes stands for. -/
def singleEscape? : Char → Option Char
  | '\\' => some '\\'
  | '\'' => some '\''
  | _ => none

/-- A text with its escapes replaced; a backslash that starts none stays. -/
def unescape (escape? : Char → Option Char) : List Char → List Char
  | [] => []
  | '\\' :: c :: cs =>
    match escape? c with
    | some e => e :: unescape escape? cs
    | none => '\\' :: unescape escape? (c :: cs)
  | c :: cs => c :: unescape escape? cs

/-- A bare value up to a comment, which starts at a `#` after a blank. -/
def dropComment (afterBlank : Bool) : List Char → List Char
  | [] => []
  | c :: cs =>
    if c = '#' && afterBlank then [] else c :: dropComment (isBlank c) cs

/-- The value at the start of a text, and the rest.  `afterBlank` says whether the text follows a
blank. -/
def value? (afterBlank : Bool) (s : List Char) : Except (List Char) (List Char × List Char) :=
  let quotedValue (quote : Char) (escape? : Char → Option Char) (rest : List Char) :=
    match quoted? quote rest with
    | some (v, rest) => Except.ok (unescape escape? v, rest)
    | none => .error s
  match s with
  | '\'' :: rest => quotedValue '\'' singleEscape? rest
  | '"' :: rest => quotedValue '"' doubleEscape? rest
  | _ =>
    let line := s.takeWhile (· ≠ '\n')
    .ok (dropRightWhile isBlank (dropComment afterBlank line), s.dropWhile (· ≠ '\n'))

/-! ### Assignments -/

/-- The text after an optional comment and the end of the line. -/
def endLine? (s : List Char) : Except (List Char) (List Char) :=
  let atComment := s.dropWhile isInlineBlank
  let rest := match atComment with
    | '#' :: _ => atComment.dropWhile (· ≠ '\n')
    | _ => atComment
  match rest with
  | [] => .ok []
  | '\n' :: rest => .ok rest
  | _ => .error rest

/-- A name and its value, if it has one. -/
abbrev Assignment := String × Option String

/-- Reads one assignment or comment of a text that starts with no blank, and the rest.  A
failure leaves the place that could not be read. -/
def entry? (s : List Char) : Except (List Char) (Option Assignment × List Char) := do
  let (name, rest) ← name? (dropExport s)
  let rest := rest.dropWhile isInlineBlank
  let (value, rest) ← match rest with
    | '=' :: rest =>
      let afterBlank := (rest.head?.map isInlineBlank).getD false
      (value? afterBlank (rest.dropWhile isInlineBlank)).map fun (v, r) => (some v, r)
    | _ => .ok (none, rest)
  let rest ← endLine? rest
  return (name.map fun n => (.ofList n, value.map .ofList), rest)

/-- The assignments of a text whose lines end with newlines. -/
def entries (s : List Char) : List Assignment :=
  let start := s.dropWhile isBlank
  if start.isEmpty then []
  else
    let (entry, rest) := match entry? start with
      | .ok (entry, rest) => (entry, rest)
      | .error place => (none, (place.dropWhile (· ≠ '\n')).drop 1)
    let more := if _ : rest.length < s.length then entries rest else []
    entry.toList ++ more
termination_by s.length

/-! ### References -/

/-- Gives a name a value; a name that has one keeps its place. -/
def assign (table : List Assignment) (name : String) (value : Option String) : List Assignment :=
  match table with
  | [] => [(name, value)]
  | (n, v) :: rest =>
    if n = name then (n, value) :: rest else (n, v) :: assign rest name value

/-- The value of a reference: that of the first table that has the name, or the default. -/
def lookUp (tables : List (List Assignment)) (name default : String) : String :=
  match tables.findSome? fun table => (table.find? fun entry => entry.1 = name) with
  | some (_, value) => value.getD ""
  | none => default

/-- Reads a reference after its opening brace: the name, the default, and the rest. -/
def reference? (s : List Char) : Option (List Char × List Char × List Char) :=
  let inName (c : Char) : Bool := c ≠ '}' && c ≠ ':'
  let name := s.takeWhile inName
  match s.dropWhile inName with
  | '}' :: rest => some (name, [], rest)
  | ':' :: '-' :: rest =>
    match rest.dropWhile (· ≠ '}') with
    | _ :: after => some (name, rest.takeWhile (· ≠ '}'), after)
    | [] => none
  | _ => none

/-- A text with every reference replaced by its value. -/
def expand (value : (name default : String) → String) (s : List Char) : List Char :=
  match s with
  | [] => []
  | '$' :: '{' :: cs =>
    match reference? cs with
    | some (name, default, rest) =>
      let more := if _ : rest.length < cs.length + 2 then expand value rest else []
      (value (.ofList name) (.ofList default)).toList ++ more
    | none => '$' :: expand value ('{' :: cs)
  | c :: cs => c :: expand value cs
termination_by s.length

/-- The names of a list of assignments with the values they have in the end.  References
look among the assignments before them first, then in the surroundings. -/
def resolve (surroundings : List Assignment) (assignments : List Assignment) : List Assignment :=
  assignments.foldl
    (fun table (name, value) =>
      assign table name
        (value.map fun v => .ofList (expand (lookUp [table, surroundings]) v.toList)))
    []

/-- The values that a file of assignments gives to names. -/
def read (surroundings : List Assignment) (text : String) : List Assignment :=
  resolve surroundings (entries (normalizeNewlines text.toList))

end SnippetProfiler.Assignments
