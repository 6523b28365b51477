import SnippetProfiler.Braced.Value

/-!
# What JavaScript snippets throw

A snippet throws errors and any other values.  An error has a name, a message and a stack,
which is a text unless the snippet has changed it.  `failingLine` finds the line of the snippet
in a stack: a place in the program is written as its path, a line and a column.
-/

namespace SnippetProfiler.Braced

/-- What is thrown. -/
inductive Thrown where
  | error (name message : String) (stack : Json)
  | value (v : Value)
  deriving Repr

namespace Thrown

/-- An error with a stack that shows nothing but its message. -/
def named (name message : String) : Thrown := error name message (.str (name ++ ": " ++ message))

/-- An error of the general kind. -/
def plain (message : String) : Thrown := named "Error" message

/-- The error when a property of nothing is read. -/
def ofNothing (property : String) : Thrown :=
  named "TypeError" ("Cannot read properties of null (reading '" ++ property ++ "')")

/-- The message that tells how a program was ended. -/
def message : Thrown → String
  | error name message _ => name ++ ": " ++ message
  | value v => "Uncaught " ++ v.summary

/-- The type of what is thrown. -/
def type : Thrown → String
  | error name _ _ => name
  | value v => v.kind

/-- The stack of an error. -/
def stack : Thrown → Json
  | error _ _ stack => stack
  | value _ => .null

/-- The text of a stack, also of a value that has one of its own. -/
def stackText : Thrown → String
  | error _ _ stack => stack.asText
  | value v => ((v.field? "stack").map Value.asText).getD ""

end Thrown

/-! ### Places in stacks -/

/-- A text behind another one that begins it. -/
def after? : (start s : List Char) → Option (List Char)
  | [], s => some s
  | c :: start, d :: s => if c = d then after? start s else none
  | _ :: _, [] => none

/-- The line of a place in the program at the beginning of a text. -/
def lineAt? (script s : List Char) : Option Nat :=
  match after? script s with
  | some (':' :: rest) =>
    match rest.takeWhile Char.isDigit, rest.dropWhile Char.isDigit with
    | c :: cs, ':' :: d :: _ => if d.isDigit then some (Decimal.ofDigits (c :: cs)) else none
    | _, _ => none
  | _ => none

/-- The line of the first place in the program. -/
def firstLine? (script : List Char) : List Char → Option Nat
  | [] => lineAt? script []
  | c :: cs =>
    match lineAt? script (c :: cs) with
    | some n => some n
    | none => firstLine? script cs

/-- The line of a snippet with `count` lines, which begins behind `offset` lines of the program,
at which something was thrown. -/
def failingLine (script : String) (offset : Int) (count : Nat) (t : Thrown) : Json :=
  match firstLine? script.toList t.stackText.toList with
  | none => .str "unknown"
  | some n =>
    let line := (n : Int) - offset
    if 0 < line && line ≤ count then .int line else .str "unknown"

/-! ### As data -/

/-- The types of errors. -/
def errorTypes : List String := ["TypeError", "RangeError", "SyntaxError"]

/-- What data describe as thrown. -/
def Thrown.ofJson (v : Json) : Thrown :=
  match v.get? "value" with
  | some data => .value (.ofJson data)
  | none =>
    let type := v.partText "type"
    let standard := if errorTypes.contains type then type else "Error"
    let name := ((v.get? "name").map Json.asText).getD standard
    let message := v.partText "message"
    .error name message ((v.get? "stack").getD (.str (name ++ ": " ++ message)))

/-- What data describe as thrown, if anything: the undefined value counts as nothing. -/
def Thrown.ofJson? : Json → Option Thrown
  | .obj fields =>
    match Thrown.ofJson (.obj fields) with
    | .value .undefined => none
    | t => some t
  | _ => none

end SnippetProfiler.Braced
