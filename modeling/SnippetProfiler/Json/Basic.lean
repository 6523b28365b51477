/-!
# Data values

A `Json` value is null, a truth value, an integer of any size, a float, a text, a
list, or an object.  Integers and floats are different values even when they are
equal as numbers.  The fields of an object keep the order in which their keys
first came.
-/

namespace SnippetProfiler

/-- A data value. -/
inductive Json where
  | null
  | bool (b : Bool)
  | int (n : Int)
  | float (x : Float)
  | str (s : String)
  | arr (items : List Json)
  | obj (fields : List (String × Json))
  deriving Inhabited, Repr

namespace Json

/-- Gives a key a value: a key that is already there keeps its place. -/
def put (fields : List (String × Json)) (key : String) (value : Json) : List (String × Json) :=
  match fields with
  | [] => [(key, value)]
  | (k, v) :: rest => if k = key then (key, value) :: rest else (k, v) :: put rest key value

/-- The value of a key among the fields of an object. -/
def lookup (fields : List (String × Json)) (key : String) : Option Json :=
  (fields.find? fun field => field.1 == key).map Prod.snd

/-- The value of a key, if the value is an object that has the key. -/
def get? (value : Json) (key : String) : Option Json :=
  match value with
  | .obj fields => lookup fields key
  | _ => none

/-- A text or null. -/
def ofText? : Option String → Json
  | some s => .str s
  | none => .null

/-- An integer or null. -/
def ofInt? : Option Int → Json
  | some n => .int n
  | none => .null

/-- A float or null. -/
def ofFloat? : Option Float → Json
  | some x => .float x
  | none => .null

/-- The list of the values of a function. -/
def list {α : Type} (f : α → Json) (xs : List α) : Json := .arr (xs.map f)

/-- A list of texts. -/
def texts (xs : List String) : Json := .arr (xs.map .str)

/-- The word for the type of a value. -/
def typeName : Json → String
  | .null => "NoneType"
  | .bool _ => "bool"
  | .int _ => "int"
  | .float _ => "float"
  | .str _ => "str"
  | .arr _ => "list"
  | .obj _ => "dict"

/-- Whether a value counts as present: not null, false, zero or empty. -/
def truthy : Json → Bool
  | .null => false
  | .bool b => b
  | .int n => n != 0
  | .float x => x != 0
  | .str s => !s.isEmpty
  | .arr items => !items.isEmpty
  | .obj fields => !fields.isEmpty

end Json

end SnippetProfiler
