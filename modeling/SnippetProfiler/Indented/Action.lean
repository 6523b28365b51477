import SnippetProfiler.Indented.Exception
import SnippetProfiler.Json.Access
import SnippetProfiler.Json.Writer
import SnippetProfiler.Trace.Data

/-!
# What Python snippets do

The actions of a snippet that its hooks can notice, what they give, and why they fail.  A call
runs the actions of its body and then raises an exception or returns a value.

`Action.ofJson` reads an action that is written as data.
-/

namespace SnippetProfiler.Indented

/-- An exception that is to be raised, if it can be made. -/
abbrev Raise := Except ArgumentError Exception

/-- A call, with how it ends. -/
structure Call where
  name : String
  arguments : List Value := []
  named : List (String × Value) := []
  raises : Option Raise := none
  returns : Value := .none

/-- What a snippet does. -/
inductive Action where
  | start (options : TrackingOptions) (mapping : Option (List (Int × Option Int)))
    (lines : List String)
  | tick (amount : Float)
  | openLine (line : Int)
  | closeLine (line : Int)
  | assign (name : String) (value : Value) (line : Option Int)
  | sample (forced : Bool)
  | now
  | summarize (value : Value)
  | generate
  | call (call : Call) (body : List Action)
  | spawn (id : String) (call : Call) (body : List Action)
  | resume (id : String)
  | finish (raised : Option Raise)

/-- What an action gives. -/
inductive Reply where
  | nothing
  | unheeded
  | time (t : Float)
  | text (s : String)
  | untouched
  | returned (value : Value) (name : Option String)

/-- Why an action fails. -/
inductive Trouble where
  | noCollector (member : String)
  | unfit (cause : ArgumentError)
  | raised (e : Exception)

namespace Trouble

/-- The type of the exception that an action fails with. -/
def type : Trouble → String
  | noCollector _ => "AttributeError"
  | unfit cause => cause.exceptionType
  | raised e => e.type

/-- The wording of a failure. -/
def message : Trouble → String
  | noCollector member => "'NoneType' object has no attribute '" ++ member ++ "'"
  | unfit cause => cause.message
  | raised e => e.message

end Trouble

/-- What an action gives, as data. -/
def Reply.toJson : Reply → Json
  | .nothing => .null
  | .unheeded => .bool false
  | .time t => .float t
  | .text s => .str s
  | .untouched => .obj [("untouched", .bool true)]
  | .returned v name => .obj (("returned", .str v.literal)
      :: match name with
        | some n => [("name", .str n)]
        | none => [])

/-! ### Actions as data -/

/-- An argument of an exception: a list stands for a tuple. -/
def Value.asArgument : Value → Value
  | list items => tuple items
  | v => v

/-- The place that a list of a file, a function and a line stands for. -/
def Place.ofJson (v : Json) : Place :=
  let item (i : Nat) := v.items.getD i .null
  ⟨(item 0).asText, (item 1).asText, (item 2).int?.getD 0⟩

mutual

/-- The exceptions that data stand for: the first one, and its causes. -/
def linksOfJson : Json → Except ArgumentError (List Link)
  | .obj fields =>
    let v := Json.obj fields
    let arguments := (v.part "args").items.map fun a => (Value.ofJson a).asArgument
    match Link.make (v.partText "type") arguments ((v.part "frames").items.map Place.ofJson) with
    | .error e => .error e
    | .ok l => (causesOfFields fields).map (l :: ·)
  | _ => .ok []

/-- The causes among the fields of an exception. -/
def causesOfFields : List (String × Json) → Except ArgumentError (List Link)
  | [] => .ok []
  | (key, v) :: fields => if key = "cause" then linksOfJson v else causesOfFields fields

end

/-- The exception that data stand for, if they stand for one. -/
def Raise.ofJson? (v : Json) : Option Raise :=
  match linksOfJson v with
  | .error e => some (.error e)
  | .ok [] => none
  | .ok (l :: causes) => some (.ok { l with causes })

/-- The call that data stand for. -/
def Call.ofJson (v : Json) : Call where
  name := v.partText "name"
  arguments := (v.part "args").items.map Value.ofJson
  named := (v.part "kwargs").fields.map fun (key, a) => (key, Value.ofJson a)
  raises := Raise.ofJson? (v.part "raise")
  returns := Value.ofJson (v.part "returns")

/-- The lines of the snippet for those of the program, written as an object. -/
def mappingOfJson : Json → Option (List (Int × Option Int))
  | .obj fields => some (fields.filterMap fun (key, v) =>
    key.toInt?.map fun n => (n, v.int?))
  | _ => none

/-- The action of a kind, with its fields and its body. -/
def Action.ofFields (fields : List (String × Json)) (body : List Action) : Action :=
  let v := Json.obj fields
  let line := (v.part "line").int?
  let call := Call.ofJson v
  let id := Json.write Json.compact (v.part "id")
  match v.partText "op" with
  | "start" => .start (TrackingOptions.ofPresent Json.truthy (v.part "options")) (mappingOfJson (v.part "line_map"))
      ((v.part "source_lines").items.map Json.asText)
  | "tick" => .tick ((v.part "s").number?.getD 0)
  | "enter_line" => .openLine (line.getD 0)
  | "exit_line" => .closeLine (line.getD 0)
  | "var" => .assign (v.partText "name") (Value.ofJson (v.part "value")) line
  | "sample" => .sample (v.part "force").truthy
  | "now" => .now
  | "summarize" => .summarize (Value.ofJson (v.part "value"))
  | "call" =>
    if ["generator", "asyncgen"].contains (v.partText "kind") then .generate else .call call body
  | "spawn" => .spawn id call body
  | "resume" => .resume id
  | _ => .finish (Raise.ofJson? (v.part "exc"))

mutual

/-- The action that data stand for. -/
def Action.ofJson : Json → Action
  | .obj fields => .ofFields fields (bodyOfFields fields)
  | _ => .now

/-- The actions that data stand for. -/
def actionsOfJsons : List Json → List Action
  | [] => []
  | v :: vs => Action.ofJson v :: actionsOfJsons vs

/-- The actions of the body among the fields of an action. -/
def bodyOfFields : List (String × Json) → List Action
  | [] => []
  | (key, .arr vs) :: fields => if key = "body" then actionsOfJsons vs else bodyOfFields fields
  | _ :: fields => bodyOfFields fields

end

end SnippetProfiler.Indented
