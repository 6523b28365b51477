import SnippetProfiler.Metrics.Dot
import SnippetProfiler.Service.Basic
import SnippetProfiler.Service.Body
import SnippetProfiler.Service.Request
import SnippetProfiler.Service.Route

/-!
# Answers of the service

What the service answers to a request: a data value, a list of messages, or a text.  A data
value with a number that is not finite cannot be written, and the answer is an error then.
-/

namespace SnippetProfiler

namespace Service

open Validation (Checked Fault Fields Step)

/-! ### Responses -/

/-- The body of a response. -/
inductive ResponseBody where
  | data (v : Json)
  | lines (vs : List Json)
  | text (s : String)
  deriving Repr

/-- A response. -/
structure Response where
  status : Nat
  type : Option String
  body : ResponseBody
  headers : List Header := []
  deriving Repr

mutual

/-- Whether all numbers in a value are finite. -/
def isFinite : Json → Bool
  | .float x => Decimal.isFinite x
  | .arr items => areFinite items
  | .obj fields => fieldsFinite fields
  | _ => true

/-- Whether all numbers in some values are finite. -/
def areFinite : List Json → Bool
  | [] => true
  | v :: vs => isFinite v && areFinite vs

/-- Whether all numbers in the values of fields are finite. -/
def fieldsFinite : List (String × Json) → Bool
  | [] => true
  | (_, v) :: fields => isFinite v && fieldsFinite fields

end

namespace Response

/-- The type of plain texts. -/
def plain : String := "text/plain; charset=utf-8"

/-- The type of data. -/
def dataType : String := "application/json"

/-- The response when something unforeseen happens. -/
def failure : Response := ⟨500, some plain, .text "Internal Server Error", []⟩

/-- A response with data. -/
def ofData (v : Json) (status : Nat := 200) : Response :=
  if isFinite v then ⟨status, some dataType, .data v, []⟩ else failure

/-- A response with a reason why there is nothing else. -/
def ofDetail (status : Nat) (detail : String) : Response :=
  ofData (.obj [("detail", .str detail)]) status

/-- The status for an error. -/
def statusOf : RunError → Nat
  | .unsupportedLanguage _ => 400
  | .duplicateExecution _ => 409
  | .side _ .unsupportedLanguage _ _ => 400
  | .side _ .duplicateExecution _ _ => 409
  | _ => 422

/-- The response for an error. -/
def ofError (e : RunError) : Response :=
  match e.toJson with
  | .obj fields =>
    ofData (.obj (fields.foldl (fun out (k, v) => Json.put out k v) [("status", .str "error")]))
      (statusOf e)
  | _ => failure

/-- The response for the reason why a run does not start. -/
def ofStartError : StartError → Response
  | .refused e => ofError e
  | .shutDown => failure

/-- The response for the reason why a comparison or a profile fails. -/
def ofEngineError : EngineError → Response
  | .noReport (.start e) => ofStartError e
  | .language e | .side e => ofError e
  | _ => failure

end Response

/-! ### Faults of content -/

/-- The value at a place. -/
def valueAt (v : Json) : List Step → Json
  | [] => v
  | .key k :: path => valueAt ((v.get? k).getD .null) path
  | .index n :: path =>
    match v with
    | .arr items => valueAt (items.getD n .null) path
    | _ => .null

/-- The value that a response shows for a fault: what is wrong, or what lacks something. -/
def shown (v : Json) (f : Fault) : Json :=
  valueAt v (if f.reason = .missing then f.path.dropLast else f.path)

/-- The response for content with faults. -/
def faulty (v : Json) (faults : List Fault) : Response :=
  if areFinite (faults.map (shown v)) then
    .ofData (.obj [("detail", Validation.faultsJson (faults.map (·.below (.key "body"))))]) 422
  else .failure

/-- The response for content that is not a value. -/
def broken (position : Nat) : Response :=
  .ofData (.obj [("detail", .arr [.obj [("loc", .arr [.str "body", .int position]),
    ("type", .str "json_invalid")]])]) 422

/-- The response to a request whose content is a record. -/
def withBody {σ α : Type} (s : Service σ) (r : Request) (read : Fields → Checked α)
    (answer : α → Service σ × Response) : Service σ × Response :=
  match r.body with
  | .missing => (s, faulty .null [⟨[], .missing⟩])
  | .opaqueText => (s, faulty .null [⟨[], .noAttributes⟩])
  | .broken position => (s, broken position)
  | .unreadable => (s, .ofDetail 400 "There was an error parsing the body")
  | .value v =>
    match Validation.attributes read v with
    | .valid a => answer a
    | .faulty faults => (s, faulty v faults)

/-! ### Answers -/

section Answers

variable {σ : Type}

/-- Draws an id. -/
def fresh (env : Environment σ) (s : Service σ) : String × Service σ :=
  let (id, workshop) := s.workshop.fresh env
  (id, { s with workshop })

/-- Starts a run. -/
def answerExecute (env : Environment σ) (s : Service σ) (b : ExecuteBody) : Service σ × Response :=
  let (id, s) := match b.givenId? with
    | some id => (id, s)
    | none => s.fresh env
  match s.execute (b.request id) with
  | (s, .error e) => (s, .ofStartError e)
  | (s, .ok number) =>
    ((s.begin env number).settle env,
      .ofData (.obj [("status", .str "started"), ("executionId", .str id)]))

/-- Compares two snippets. -/
def answerCompare (env : Environment σ) (s : Service σ) (b : CompareBody) : Service σ × Response :=
  let (id, s) := s.fresh env
  let first := b.request b.first id
  let (id, s) := s.fresh env
  let second := b.request b.second id
  match s.during fun w => w.compare env first second with
  | (s, .ok report) => (s, .ofData report.toJson)
  | (s, .error e) => (s, .ofEngineError e)

/-- Profiles a snippet. -/
def answerProfile (env : Environment σ) (s : Service σ) (b : ProfileBody) : Service σ × Response :=
  let (id, s) := s.fresh env
  match s.during fun w => w.profile env (b.request id) b.samples with
  | (s, .ok estimate) => (s, .ofData estimate.toJson)
  | (s, .error e) => (s, .ofEngineError e)

/-- The growth that the code of a snippet suggests. -/
def answerGrowth (s : Service σ) (b : GrowthBody) : Response :=
  match s.workshop.orchestrator.registry.resolve (Text.lower b.language) with
  | .error e => .ofError e
  | .ok handler =>
    match handler.hint b.code with
    | .error _ => .failure
    | .ok hint =>
      .ofData (.obj [("time", .str hint.growth),
        ("derivation", .str (hint.derivation ++ " (Local Analysis)"))])

/-- The state of a feed, or the report that it has. -/
def answerReport (f : Feed) (id : String) : Response :=
  match f.report with
  | some report => .ofData report.toJson
  | none =>
    .ofData (.obj [("status", .str (if f.finished then "error" else "running")),
      ("executionId", .str id)])

/-- The drawing of a call graph. -/
def answerCallGraph (f : Feed) : Response :=
  match f.report.bind RunReport.metrics with
  | some metrics =>
    ⟨200, some "text/vnd.graphviz; charset=utf-8", .text (Dot.render metrics.callGraph), []⟩
  | none => .ofDetail 409 "Execution has not completed successfully"

/-- The languages of the service. -/
def answerLanguages (s : Service σ) : Response :=
  .ofData (Json.list (fun entry : String × Handler => entry.2.language.toJson)
    s.workshop.orchestrator.registry.handlers)

/-- How the service is. -/
def answerHealth (s : Service σ) : Response :=
  .ofData (.obj [("status", .str "ok"),
    ("inFlight", .int s.workshop.orchestrator.registry.ids.length)])

/-- The response for an id that has no feed. -/
def unknownId (id : String) : Response := .ofDetail 404 ("Unknown execution '" ++ id ++ "'")

/-- Follows a feed to its end. -/
def answerEvents (env : Environment σ) (s : Service σ) (id : String) : Service σ × Response :=
  match s.feeds.number? id with
  | none => (s, unknownId id)
  | some feed =>
    let (s, messages) := s.followed env feed
    (s, ⟨200, some "application/x-ndjson", .lines (messages.map Message.toJson), []⟩)

/-- Answers a request for a route. -/
def answerRoute (env : Environment σ) (s : Service σ) (r : Request) : Route → Service σ × Response
  | .execute => withBody s r ExecuteBody.ofFields (answerExecute env s)
  | .events id => answerEvents env s id
  | .report id => (s, ((s.feeds.get? id).map (answerReport · id)).getD (unknownId id))
  | .callGraph id => (s, ((s.feeds.get? id).map answerCallGraph).getD (unknownId id))
  | .compare => withBody s r CompareBody.ofFields (answerCompare env s)
  | .profile => withBody s r ProfileBody.ofFields (answerProfile env s)
  | .languages => (s, answerLanguages s)
  | .growth => withBody s r GrowthBody.ofFields fun b => (s, answerGrowth s b)
  | .health => (s, answerHealth s)

/-- A response without its body, as a request for the head alone gets it. -/
def headOnly (r : Request) (response : Response) : Response :=
  if r.method = "HEAD" then { response with body := .text "" } else response

/-- Answers a request that is not an announcement. -/
def answerPlain (env : Environment σ) (s : Service σ) (r : Request) : Service σ × Response :=
  match Route.ofPath? r.path with
  | some route =>
    if r.method = route.method then answerRoute env s r route
    else (s, headOnly r (.ofDetail 405 "Method Not Allowed"))
  | none =>
    if Route.isSlashed r.path then (s, ⟨307, none, .text "", []⟩)
    else (s, headOnly r (.ofDetail 404 "Not Found"))

/-- Answers a request. -/
def answer (env : Environment σ) (s : Service σ) (r : Request) : Service σ × Response :=
  match r.announced? with
  | some method =>
    let (status, text) := match r.disallowed method with
      | [] => (200, "OK")
      | failures => (400, "Disallowed CORS " ++ ", ".intercalate failures)
    (s, ⟨status, some Response.plain, .text text, r.announcementHeaders⟩)
  | none =>
    let (s, response) := answerPlain env s r
    (s, if response.status = 500 then response else { response with headers := r.originHeaders })

end Answers

end Service

end SnippetProfiler
