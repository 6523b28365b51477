import SnippetProfiler.Json.Writer

/-!
# Hooks

The statements that a rewritten snippet calls the profiler with.  A hook that stands
behind a statement without a semicolon begins with one.  No hook has a newline in its
text, so that a rewritten snippet keeps its lines.
-/

namespace SnippetProfiler.Braced

/-- The name under which a program knows the profiler. -/
def hookName : String := "__probe"

/-- A call of the profiler.  `line` reports that a statement begins, `rebind` puts a
tracing function in the place of the function of that name, `vars` reports the values of
variables that a statement on a line gave them. -/
inductive Hook where
  | line (number : Nat)
  | rebind (separate : Bool) (name : String)
  | vars (separate : Bool) (names : List String) (line : Nat)
  deriving DecidableEq, Repr

/-- The text of a name between quotation marks. -/
def quoted (name : String) : String := .ofList (Json.quote name)

/-- A semicolon, if one is needed. -/
def separator (separate : Bool) : String := if separate then ";" else ""

/-- The entry of a variable. -/
def variableEntry (line : Nat) (name : String) : String :=
  "[" ++ quoted name ++ ", " ++ name ++ ", " ++ toString line ++ "]"

/-- The text of a hook. -/
def Hook.text : Hook → String
  | .line number => hookName ++ ".line(" ++ toString number ++ ");"
  | .rebind separate name =>
    separator separate ++ name ++ " = " ++ hookName ++ ".traced(" ++ name ++ ", " ++ quoted name ++ ");"
  | .vars separate names number =>
    separator separate ++ hookName ++ ".vars(["
      ++ ", ".intercalate (names.eraseDups.map (variableEntry number)) ++ "]);"

/-- A hook and the position in front of which it is written. -/
structure Insertion where
  position : Nat
  hook : Hook
  deriving DecidableEq, Repr

end SnippetProfiler.Braced
