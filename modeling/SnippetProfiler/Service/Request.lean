import SnippetProfiler.Json.Encoding
import SnippetProfiler.Json.Reader
import SnippetProfiler.Text.Blank
import SnippetProfiler.Text.Lines
import SnippetProfiler.Text.Lower
import SnippetProfiler.Text.Percent

/-!
# Requests to the service

A request names a method and a target, and has headers and content.  The names of headers may
be in capitals or not.  Content is read as a data value when the headers say that it is one.

A page of any origin may ask the service.  Before it asks it may send a request of its own,
which says with what method and headers it means to ask; the answer tells whether it may.
-/

namespace SnippetProfiler.Service

/-- A request to the service. -/
structure Request where
  method : String
  target : String
  headers : List (String × String) := []
  content : String := ""
  deriving Repr

/-- What the content of a request is. -/
inductive Content where
  | missing
  | value (v : Json)
  /-- A text that stands for itself. -/
  | opaqueText
  /-- A text that should be a value but has a fault at a position. -/
  | broken (position : Nat)
  /-- A value that is beyond what is read. -/
  | unreadable
  deriving Repr

namespace Request

/-- The value of a header. -/
def header? (r : Request) (name : String) : Option String :=
  (r.headers.find? fun h => Text.lower h.1 = name).map Prod.snd

/-- The parts of a path between slashes without those for a directory itself, and without those
for the directory above together with the part in front of them. -/
def withoutDots (parts : List (List Char)) : List (List Char) :=
  parts.foldl (fun kept part =>
    if part = ['.'] then kept
    else if part = ['.', '.'] then (if kept = [[]] then kept else kept.dropLast)
    else kept ++ [part]) []

/-- A path as seen from the root of the service, whose name in front of the path does not count. -/
def fromRoot (path : List Char) : List Char :=
  let path := match path with
    | '/' :: '/' :: rest => rest.dropWhile (· ≠ '/')
    | path => path
  ['/'].intercalate (withoutDots (Text.splitOnChar '/' ('/' :: path.dropWhile (· = '/'))))

/-- The path of a request: the target up to a query or a fragment. -/
def path (r : Request) : List Char :=
  Text.percentDecoded (fromRoot (r.target.toList.takeWhile fun c => c ≠ '?' && c ≠ '#'))

/-- Whether a type of content is that of data values. -/
def isData (type : String) : Bool :=
  let word := (Text.strip (type.toList.takeWhile (· ≠ ';'))).map Char.toLower
  match Text.splitOnChar '/' word with
  | [main, sub] =>
    main = "application".toList && (sub = "json".toList || "+json".toList.isSuffixOf sub)
  | _ => false

/-- Whether the headers of a request say that its content is a data value. -/
def sendsData (r : Request) : Bool :=
  match r.header? "content-type" with
  | some type => isData type
  | none => false

/-- The content of a request as it is read. -/
def body (r : Request) : Content :=
  if r.content.isEmpty then .missing
  else if !r.sendsData then .opaqueText
  else
    match Json.Encoding.text? (Text.Utf8.encode r.content) with
    | none => .unreadable
    | some text =>
      match Json.parse text with
      | .ok .null => .missing
      | .ok v => .value v
      | .error (.fault _ position) => .broken position
      | .error _ => .unreadable

end Request

/-! ### Requests from other origins -/

/-- A header. -/
abbrev Header := String × String

namespace Request

/-- The methods with which pages may ask. -/
def openMethods : List String := ["GET", "POST", "OPTIONS"]

/-- The method with which a page means to ask, if that is what a request is about. -/
def announced? (r : Request) : Option String :=
  if r.method = "OPTIONS" && (r.header? "origin").isSome then
    r.header? "access-control-request-method"
  else none

/-- The headers which let a page read an answer. -/
def originHeaders (r : Request) : List Header :=
  if (r.header? "origin").isSome then [("access-control-allow-origin", "*")] else []

/-- What a page means to do and must not: ask with some other method, or from a private network. -/
def disallowed (r : Request) (method : String) : List String :=
  (if openMethods.contains method then [] else ["method"])
  ++ (if (r.header? "access-control-request-private-network").isSome then ["private-network"]
    else [])

/-- The headers of an answer to a page that means to ask. -/
def announcementHeaders (r : Request) : List Header :=
  (match r.header? "access-control-request-headers" with
    | some names => [("access-control-allow-headers", names)]
    | none => [])
  ++ [("access-control-allow-methods", String.intercalate ", " openMethods),
    ("access-control-allow-origin", "*"), ("access-control-max-age", "600")]

end Request

end SnippetProfiler.Service
