import SnippetProfiler.Run.Request
import SnippetProfiler.Comparison.Engine

/-!
# What requests ask for

The records that the content of a request holds: a snippet to run, two snippets to compare, a
snippet to profile over samples, or a snippet to analyse.  A request for a run that names no id,
or an empty one, gets a fresh one.
-/

namespace SnippetProfiler.Service

open Validation (Checked Fields float positive string nullable)

/-- A snippet to run. -/
structure ExecuteBody where
  code : String
  language : String
  input : Option String := none
  options : TrackingOptions := {}
  timeout : Option Float := none
  id : Option String := none
  deriving Repr

/-- Two snippets to compare. -/
structure CompareBody where
  first : String
  second : String
  language : String
  input : Option String := none
  options : TrackingOptions := {}
  deriving Repr

/-- A snippet to profile. -/
structure ProfileBody where
  code : String
  language : String
  samples : List Sample
  options : TrackingOptions := {}
  deriving Repr

/-- A snippet to analyse. -/
structure GrowthBody where
  code : String
  language : String
  deriving Repr

/-! ### Reading -/

/-- The options among fields. -/
def optionsField (fields : Fields) : Checked TrackingOptions :=
  fields.optional "options" {} (Validation.attributes TrackingOptions.ofFields)

/-- The input among fields. -/
def inputField (fields : Fields) : Checked (Option String) :=
  fields.optional "input" none (nullable string)

/-- Reads a snippet to run. -/
def ExecuteBody.ofFields (fields : Fields) : Checked ExecuteBody :=
  ExecuteBody.mk <$> fields.required "code" string
    <*> fields.required "language" string
    <*> inputField fields
    <*> optionsField fields
    <*> fields.optional "timeout" none (nullable positive)
    <*> fields.optional "execution_id" none (nullable string)

/-- Reads two snippets to compare. -/
def CompareBody.ofFields (fields : Fields) : Checked CompareBody :=
  CompareBody.mk <$> fields.required "code1" string
    <*> fields.required "code2" string
    <*> fields.required "language" string
    <*> inputField fields
    <*> optionsField fields

/-- Reads a sample. -/
def sampleOfFields (fields : Fields) : Checked Sample :=
  (fun size input => ⟨size, inputLines input⟩) <$> fields.required "size" float
    <*> fields.optional "input" "" string

/-- Reads a list of samples, of which there must be one. -/
def readSamples (v : Json) : Checked (List Sample) :=
  (Validation.list (Validation.attributes sampleOfFields) v).andThen fun samples =>
    if samples.isEmpty then .fault .tooShort else .valid samples

/-- Reads a snippet to profile. -/
def ProfileBody.ofFields (fields : Fields) : Checked ProfileBody :=
  ProfileBody.mk <$> fields.required "code" string
    <*> fields.required "language" string
    <*> fields.required "samples" readSamples
    <*> optionsField fields

/-- Reads a snippet to analyse. -/
def GrowthBody.ofFields (fields : Fields) : Checked GrowthBody :=
  GrowthBody.mk <$> fields.required "code" string <*> fields.required "language" string

/-! ### Requests for runs -/

/-- The id that a request for a run names. -/
def ExecuteBody.givenId? (b : ExecuteBody) : Option String := b.id.filter (!·.isEmpty)

/-- The request for a run. -/
def ExecuteBody.request (b : ExecuteBody) (id : String) : RunRequest where
  code := b.code
  language := b.language
  input := (b.input.map inputLines).getD []
  options := b.options
  id
  timeout := b.timeout

/-- The request for the run of one side of a comparison. -/
def CompareBody.request (b : CompareBody) (code id : String) : RunRequest where
  code
  language := b.language
  input := (b.input.map inputLines).getD []
  options := b.options
  id

/-- The request for the runs of a profile. -/
def ProfileBody.request (b : ProfileBody) (id : String) : RunRequest where
  code := b.code
  language := b.language
  options := b.options
  id

end SnippetProfiler.Service
