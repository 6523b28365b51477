import SnippetProfiler.Braced.Thrown
import SnippetProfiler.Json.Writer
import SnippetProfiler.Trace.Data

/-!
# What JavaScript snippets do

The actions of a snippet that its hooks can notice, what they give, and why they stop.  A call
runs the actions of its body and then throws or returns a value.

`Action.ofJson` reads an action that is written as data.
-/

namespace SnippetProfiler.Braced

/-- A call, with how it ends. -/
structure Call where
  /-- The name that the hooks know. -/
  name : String
  /-- The name of the function. -/
  ownName : String
  /-- The parameters that the function declares. -/
  parameters : Nat := 2
  arguments : List Value := []
  throws : Option Thrown := none
  returns : Value := .undefined
  /-- Whether the call makes an object. -/
  makes : Bool := false

/-- What a snippet does. -/
inductive Action where
  | start (options : TrackingOptions) (lines : List String) (script : String) (offset : Int)
  | tick (amount : Float)
  | beginLine (line : Int)
  | assign (entries : List (String × Value × Option Int))
  | trace (value : Value)
  | generate
  | call (call : Call) (body : List Action)
  | spawn (id : String) (call : Call) (body : List Action)
  | resume (id : String)
  | finish (thrown : Option Thrown)
  | fail (thrown : Option Thrown)
  | uncaught (thrown : Option Thrown)
  | exit (code : Value)

/-- What an action gives. -/
inductive Reply where
  | nothing
  | kind (word : String)
  | untouched
  | returned (call : Call)
  deriving Inhabited

/-- Why an action stops. -/
inductive Stop where
  | thrown (t : Thrown)
  /-- The program has ended. -/
  | exited

/-! ### Answers as data -/

/-- What an action gives, as data. -/
def Reply.toJson : Reply → Json
  | .nothing => .null
  | .kind word => .str word
  | .untouched => .obj [("untouched", .bool true)]
  | .returned c =>
    let made := [("made", Json.bool true), ("instance", .bool true)]
    let value := match c.returns with
      | .undefined => [("returned", Json.str "undefined")]
      | v => (v.toJson?.map fun data => ("returned", data)).toList
    .obj ([("name", .str c.ownName), ("length", .int c.parameters), ("again", .bool true)]
      ++ if c.makes then made else value)

/-- What a rejected promise shows. -/
def Stop.toJson : Stop → Json
  | .thrown (.error _ message _) => .str message
  | .thrown (.value v) => v.toJson?.getD .null
  | .exited => .null

/-- The name and the message of what is thrown, as far as it has them. -/
def Thrown.fields : Thrown → List (String × Json)
  | .error name message _ => [("error", .str name), ("message", .str message)]
  | .value v =>
    [("error", "name"), ("message", "message")].filterMap fun (key, entry) =>
      (v.field? entry).bind fun part => part.toJson?.map fun data => (key, data)

mutual

/-- Data in which numbers have no fraction when they are integral and below the bound up to
which they are written without an exponent. -/
def plainNumbers : Json → Json
  | .float x =>
    match Decimal.toInt? x with
    | some n => if n.natAbs < tenTo 21 then .int n else .float x
    | none => .float x
  | .arr items => .arr (plainItems items)
  | .obj fields => .obj (plainFields fields)
  | v => v

/-- Items in which numbers are plain. -/
def plainItems : List Json → List Json
  | [] => []
  | v :: vs => plainNumbers v :: plainItems vs

/-- Fields in which numbers are plain. -/
def plainFields : List (String × Json) → List (String × Json)
  | [] => []
  | (key, v) :: fields => (key, plainNumbers v) :: plainFields fields

end

/-! ### Actions as data -/

/-- The call that data stand for. -/
def Call.ofJson (v : Json) : Call where
  name := v.partText "name"
  ownName := ((v.get? "own_name").getD (v.part "name")).asText
  parameters := if v.partText "kind" = "arrow" then 1 else 2
  arguments := (v.part "args").items.map Value.ofJson
  throws := (v.get? "raise").map Thrown.ofJson
  returns := ((v.get? "returns").map Value.ofJson).getD .undefined
  makes := (v.part "new").isTrue

/-- The assignment that a list of a name, a value and a line stands for. -/
def assignmentOfJson (v : Json) : String × Value × Option Int :=
  let item (i : Nat) := v.items.getD i .null
  ((item 0).asText, .ofJson (item 1), (item 2).int?)

/-- Whether a value counts as true. -/
def isOn : Json → Bool
  | .arr _ | .obj _ => true
  | .float x => x < 0 || 0 < x
  | v => v.truthy

/-- The key that a value stands for. -/
def keyOfJson : Json → String
  | .str s => s
  | v => Json.write Json.compact v

/-- The action of a kind, with its fields and its body. -/
def Action.ofFields (fields : List (String × Json)) (body : List Action) : Action :=
  let v := Json.obj fields
  let call := Call.ofJson v
  let thrown := Thrown.ofJson? (v.part "exc")
  let id := keyOfJson (v.part "id")
  match v.partText "op" with
  | "start" => .start (TrackingOptions.ofPresent isOn (v.part "options"))
      (v.part "source_lines").asTexts
      (v.partText "script")
      ((v.part "offset").int?.getD 4)
  | "tick" => .tick ((v.part "ms").number?.getD 0)
  | "line" => .beginLine ((v.part "line").int?.getD 0)
  | "vars" => .assign ((v.part "entries").items.map assignmentOfJson)
  | "traced_value" => .trace (.ofJson (v.part "value"))
  | "call" =>
    if ["generator", "asyncgen"].contains (v.partText "kind") then .generate else .call call body
  | "spawn" => .spawn id call body
  | "resume" => .resume id
  | "finish" => .finish thrown
  | "fail" => .fail thrown
  | "uncaught" => .uncaught thrown
  | _ => .exit (.ofJson (v.part "code"))

mutual

/-- The action that data stand for. -/
def Action.ofJson : Json → Action
  | .obj fields => .ofFields fields (bodyOfFields fields)
  | _ => .generate

/-- The actions that data stand for. -/
def actionsOfJsons : List Json → List Action
  | [] => []
  | v :: vs => Action.ofJson v :: actionsOfJsons vs

/-- The actions of the body among the fields of an action. -/
def bodyOfFields : List (String × Json) → List Action
  | [] => []
  | (key, .arr vs) :: fields => if key = "body" then actionsOfJsons vs else bodyOfFields fields
  | _ :: fields => bodyOfFields fields

end

end SnippetProfiler.Braced
