import SnippetProfiler.Decimal.Read
import SnippetProfiler.Json.Basic

/-!
# Parts of data values

Readers for parts of data values that are not checked: a part that is missing or has another
shape counts as empty.
-/

namespace SnippetProfiler.Json

/-- The value of a key, or null. -/
def part (v : Json) (key : String) : Json := (v.get? key).getD .null

/-- The text that a value is, or the empty one. -/
def asText : Json → String
  | .str s => s
  | _ => ""

/-- The text of a key. -/
def partText (v : Json) (key : String) : String := (v.part key).asText

/-- The items of a list. -/
def items : Json → List Json
  | .arr vs => vs
  | _ => []

/-- The fields of an object. -/
def fields : Json → List (String × Json)
  | .obj fs => fs
  | _ => []

/-- The integer that a value is. -/
def int? : Json → Option Int
  | .int n => some n
  | _ => none

/-- The number that a value is. -/
def number? : Json → Option Float
  | .int n => some (Decimal.ofInt n)
  | .float x => some x
  | _ => none

/-- The texts in a list. -/
def asTexts (v : Json) : List String := v.items.map asText

/-- Whether a value is true. -/
def isTrue (v : Json) : Bool := v matches .bool true

end SnippetProfiler.Json
