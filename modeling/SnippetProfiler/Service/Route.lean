import SnippetProfiler.Text.Lines

/-!
# Routes

The paths that the service knows, and the method of each.  An id in a path is any text without
a slash.
-/

namespace SnippetProfiler.Service

/-- What a path leads to. -/
inductive Route where
  | execute
  | events (id : String)
  | report (id : String)
  | callGraph (id : String)
  | compare
  | profile
  | languages
  | growth
  | health
  deriving DecidableEq, Repr

namespace Route

/-- The method of a route. -/
def method : Route → String
  | execute | compare | profile | growth => "POST"
  | _ => "GET"

/-- The route for the parts of a path between slashes. -/
def ofParts : List String → Option Route
  | ["execute"] => some execute
  | ["executions", id] => if id.isEmpty then none else some (report id)
  | ["executions", id, "events"] => if id.isEmpty then none else some (events id)
  | ["executions", id, "call-graph"] => if id.isEmpty then none else some (callGraph id)
  | ["compare"] => some compare
  | ["profile"] => some profile
  | ["languages"] => some languages
  | ["analyze-complexity"] => some growth
  | ["health"] => some health
  | _ => none

/-- A path without a newline at its end. -/
def chomped (path : List Char) : List Char :=
  if path.getLast? = some '\n' then path.dropLast else path

/-- The route for a path.  A newline after the last word of a path does not count. -/
def ofPath? (path : List Char) : Option Route :=
  let parts (path : List Char) : Option (List String) :=
    match (Text.splitOnChar '/' path).map String.ofList with
    | "" :: parts => some parts
    | _ => none
  ((parts path).bind ofParts).or ((parts (chomped path)).bind ofParts)

/-- Whether a path leads somewhere once the slashes at its end are taken away. -/
def isSlashed (path : List Char) : Bool :=
  path ≠ ['/'] && path.getLast? = some '/'
    && (ofPath? (path.reverse.dropWhile (· = '/')).reverse).isSome

end Route

end SnippetProfiler.Service
