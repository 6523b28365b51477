/-!
# Faults of data

Reading data into a record reports everything that is wrong with it.  A `Fault` has a
path to the place and a reason.  A value of `Checked α` is a valid result or a list of
faults; two checks combine into one that has the faults of both, the first ones first.
-/

namespace SnippetProfiler.Validation

/-- A step of the path to a fault: the key of a field, the tag of a variant, or the index
of an item. -/
inductive Step where
  | key (name : String)
  | index (n : Nat)
  deriving DecidableEq, Repr

/-- What can be wrong with a value. -/
inductive Reason where
  | missing
  | notARecord
  | noAttributes
  | tagMissing
  | tagUnknown
  | floatUnreadable
  | floatType
  | intUnreadable
  | intTooLong
  | intHasFraction
  | intNotFinite
  | intType
  | stringType
  | listType
  | boolUnreadable
  | boolType
  | notTheLiteral
  | notInEnumeration
  | notGreater
  | tooShort
  deriving DecidableEq, Repr

/-- The word for a reason. -/
def Reason.word : Reason → String
  | .missing => "missing"
  | .notARecord => "model_type"
  | .noAttributes => "model_attributes_type"
  | .tagMissing => "union_tag_not_found"
  | .tagUnknown => "union_tag_invalid"
  | .floatUnreadable => "float_parsing"
  | .floatType => "float_type"
  | .intUnreadable => "int_parsing"
  | .intTooLong => "int_parsing_size"
  | .intHasFraction => "int_from_float"
  | .intNotFinite => "finite_number"
  | .intType => "int_type"
  | .stringType => "string_type"
  | .listType => "list_type"
  | .boolUnreadable => "bool_parsing"
  | .boolType => "bool_type"
  | .notTheLiteral => "literal_error"
  | .notInEnumeration => "enum"
  | .notGreater => "greater_than"
  | .tooShort => "too_short"

/-- Something wrong at a place, the outermost step first. -/
structure Fault where
  path : List Step
  reason : Reason
  deriving DecidableEq, Repr

/-- A fault of a part, below the step that leads to the part. -/
def Fault.below (step : Step) (f : Fault) : Fault := { f with path := step :: f.path }

/-- A valid result, or what is wrong. -/
inductive Checked (α : Type) where
  | valid (value : α)
  | faulty (faults : List Fault)
  deriving Repr

namespace Checked

variable {α β : Type}

/-- A fault at the value itself. -/
def fault (reason : Reason) : Checked α := faulty [⟨[], reason⟩]

/-- A function of a valid result. -/
def map (f : α → β) : Checked α → Checked β
  | valid a => valid (f a)
  | faulty fs => faulty fs

/-- A function and its argument, both checked. -/
def apply : Checked (α → β) → Checked α → Checked β
  | valid f, valid a => valid (f a)
  | valid _, faulty fs => faulty fs
  | faulty fs, valid _ => faulty fs
  | faulty fs, faulty gs => faulty (fs ++ gs)

/-- A check that needs a valid result. -/
def andThen (a : Checked α) (f : α → Checked β) : Checked β :=
  match a with
  | valid a => f a
  | faulty fs => faulty fs

instance : Applicative Checked where
  pure := valid
  seq f a := apply f (a ())

/-- Puts a step in front of the path of each fault. -/
def under (step : Step) : Checked α → Checked α
  | valid a => valid a
  | faulty fs => faulty (fs.map (Fault.below step))

/-- The faults of a check. -/
def faults : Checked α → List Fault
  | valid _ => []
  | faulty fs => fs

/-- The result of a check, if it is valid. -/
def value? : Checked α → Option α
  | valid a => some a
  | faulty _ => none

end Checked

end SnippetProfiler.Validation
