import SnippetProfiler.Validation.Value

/-!
# Reading records

The fields of a record have names in camel case.  Data may also spell them with low lines,
`total_duration_ms` for `totalDurationMs`; the first spelling wins when both are there, and
a fault names the spelling that was found.  Fields that the record does not know are
skipped.  A variant is a record that names its alternative in a tag.
-/

namespace SnippetProfiler.Validation

/-- The spelling of a name with low lines. -/
def lowLined (name : String) : String :=
  .ofList (name.toList.flatMap fun c => if c.isUpper then ['_', c.toLower] else [c])

/-- The fields of an object. -/
abbrev Fields := List (String × Json)

/-- The value of a field, with the spelling of its name. -/
def Fields.find (fields : Fields) (name : String) : Option (String × Json) :=
  match Json.lookup fields name with
  | some v => some (name, v)
  | none => (Json.lookup fields (lowLined name)).map fun v => (lowLined name, v)

/-- Reads a field that has to be there. -/
def Fields.required {α : Type} (fields : Fields) (name : String) (read : Json → Checked α) :
    Checked α :=
  match fields.find name with
  | some (key, v) => (read v).under (.key key)
  | none => .faulty [⟨[.key name], .missing⟩]

/-- Reads a field that has a value when it is not there. -/
def Fields.optional {α : Type} (fields : Fields) (name : String) (default : α)
    (read : Json → Checked α) : Checked α :=
  match fields.find name with
  | some (key, v) => (read v).under (.key key)
  | none => .valid default

/-- Reads a record. -/
def record {α : Type} (read : Fields → Checked α) : Json → Checked α
  | .obj fields => read fields
  | _ => .fault .notARecord

/-- Reads a record inside another one whose own fields are read as attributes. -/
def attributes {α : Type} (read : Fields → Checked α) : Json → Checked α
  | .obj fields => read fields
  | _ => .fault .noAttributes

/-- Reads a variant, whose alternative is named by the field `tag`. -/
def variant {α : Type} (tag : String) (alternative : String → Option (Fields → Checked α)) :
    Json → Checked α
  | .obj fields =>
    match Json.lookup fields tag with
    | none => .fault .tagMissing
    | some (.str word) =>
      match alternative word with
      | some read => (read fields).under (.key word)
      | none => .fault .tagUnknown
    | some _ => .fault .tagUnknown
  | _ => .fault .noAttributes

end SnippetProfiler.Validation
