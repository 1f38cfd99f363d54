import PageBuilder.Event.StoreHost
import PageBuilder.Inspector.Capabilities
import PageBuilder.Inspector.PropGate
import PageBuilder.Program.Files
import PageBuilder.Web.MediaType

/-!
# The API

Requests to the program and its answers. Each request carries the design that it is about, as JSON;
the answer is JSON too, or for a dispatch a stream of named events. A request for nothing that is
there, by a wrong method, or with a body that cannot be read is refused with a status alone. Of a
body the first thing that is wrong decides: what is no JSON, or JSON of another shape.
-/

namespace PageBuilder
namespace Api

open Inspector Policy

/-- A request to the program. -/
structure Call where
  method : String := "POST"
  path : String
  contentType : Option String := none
  body : String := ""

/-- What an answer carries. -/
inductive Content where
  | none
  | json (v : Json)
  | events (es : List (String × Json))

/-- An answer. -/
structure Answer where
  status : Nat
  content : Content := .none

/-- An answer of JSON. -/
def ok (v : Json) : Answer := ⟨200, .json v⟩

/-! ### The operations -/

/-- The value of a formula and its truth, or what is wrong with it. -/
def evaluate (formula : String) (scope : Json) : Json :=
  match Formula.parse formula with
  | .ok x =>
    let v := Formula.eval (.ofJson scope) x
    .object (Json.field "result" (Formula.isTruthy v) ++ [("value", v.getD .null)])
  | .error e => .object (Json.field "error" e.message ++ Json.field "result" false)

/-- The capabilities of a node, and the properties that are shown for it. -/
def capabilities (r : Registry) (n : Node) (m : Mode) (data : Json)
    (project : Option Project) : Json :=
  let c := Capabilities.ofNode r n m
  let props := (visibleProps r n (.ofDesign data (some n) project)).map PropSchema.key
  .object (Json.field "capabilities" c.report ++
    Json.field "visibleProps" (props.filter c.allowsProp))

/-- The styles of a node at a viewport, from its own declarations and from the sheet. -/
def styles (p : Project) (n : Node) (q : SheetQuery) : Json := .object <|
  Json.field "breakdown" (p.styleSheet.breakdown n q.theme q.state) ++
    Json.field "effective" (n.effectiveStyle p.viewports q.viewport) ++
    Json.field "sheet" (p.styleSheet.resolve n q) ++ Json.field "viewport" q.viewport

/-- Fire an event on a node of a project that has just been opened. -/
def dispatch (carry : Web.Transport) (p : Project) (data : Json) (nodeId event : String) :
    Report × StoreHost :=
  (StoreHost.host carry).dispatch nodeId event { store := .start (.opened p data) }

/-! ### Bodies -/

/-- An operation on a body: what is expected of it, and the answer to one that can be read. -/
structure Handler where
  shape : Json.Shape
  answer : Json → Except DecodeError Answer

/-- Evaluate a formula. -/
def handleEvaluate : Handler where
  shape := .record [Json.mustHave String "expr", Json.mayHave Json "scope"]
  answer v := do
    v.checkObject
    return ok (evaluate (← Json.required v "expr") (Json.valueOrNull v "scope"))

/-- The data that a body gives; none counts as an empty object. -/
def dataOf (v : Json) : Json :=
  match Json.valueOrNull v "data" with
  | .null => Json.empty
  | data => data

/-- Say what may be edited on a node. -/
def handleCapabilities (r : Registry) : Handler where
  shape := .record [Json.mustHave Node "node", Json.mayHave Mode "mode", Json.mayHave Json "data",
    Json.mayHaveOrNull Project "project"]
  answer v := do
    v.checkObject
    let n : Node ← Json.required v "node"
    let m ← Json.withDefault v "mode" Mode.standard
    let project : Option Project ← Json.optional v "project"
    return ok (capabilities r n m (dataOf v) project)

/-- Say which styles a node has. -/
def handleStyles : Handler where
  shape := .record [Json.mustHave Project "project", Json.mustHave String "nodeId",
    Json.mayHaveOrNull String "viewport", Json.mayHaveOrNull String "theme",
    Json.mayHaveOrNull String "state"]
  answer v := do
    v.checkObject
    let p : Project ← Json.required v "project"
    let nodeId : String ← Json.required v "nodeId"
    let viewport : Option String ← Json.optional v "viewport"
    let theme : Option String ← Json.optional v "theme"
    let state : Option String ← Json.optional v "state"
    match p.node? nodeId with
    | none =>
      return ⟨400, .json (.object (Json.field "error" (StoreError.nodeNotFound nodeId).message))⟩
    | some n =>
      return ok
        (styles p n { viewport := viewport.getD p.viewports.base, theme := theme, state := state })

/-- Fire an event, and tell of its effects and of the outcome. -/
def handleDispatch (carry : Web.Transport) : Handler where
  shape := .record [Json.mustHave Project "project", Json.mayHave Json "data",
    Json.mustHave String "nodeId", Json.mustHave String "event"]
  answer v := do
    v.checkObject
    let p : Project ← Json.required v "project"
    let nodeId : String ← Json.required v "nodeId"
    let event : String ← Json.required v "event"
    let (report, host) := dispatch carry p (dataOf v) nodeId event
    return ⟨200,
      .events (host.notices.map (fun n => ("effect", encode n)) ++ [("report", report.toJson)])⟩

/-- Whether a content type says that the body is JSON. -/
def isJsonType (contentType : String) : Bool :=
  (Web.MediaType.parse? contentType).any Web.MediaType.isJson

/-- The largest body, in bytes. -/
def bodyLimit : Nat := 2 * 1024 * 1024

/-- The status for a body that cannot be read. -/
def faultStatus : Json.Fault → Nat
  | .malformed => 400
  | .mismatch => 422

/-- Read the body, and answer it. -/
def withBody (c : Call) (handler : Handler) : Answer :=
  if !c.contentType.any isJsonType then ⟨415, .none⟩
  else if bodyLimit < c.body.utf8ByteSize then ⟨413, .none⟩
  else match Json.ofTextAs handler.shape c.body with
    | .error fault => ⟨faultStatus fault, .none⟩
    | .ok v =>
      match handler.answer v with
      | .ok answer => answer
      | .error _ => ⟨faultStatus .mismatch, .none⟩

/-- The operation under a path that takes a body. -/
def handler? (r : Registry) (carry : Web.Transport) : String → Option Handler
  | "/api/evaluate" => some handleEvaluate
  | "/api/capabilities" => some (handleCapabilities r)
  | "/api/styles/resolve" => some handleStyles
  | "/api/dispatch/stream" => some (handleDispatch carry)
  | _ => none

/-- Answer a request. Anyone may ask which methods are allowed. -/
def answer (r : Registry) (carry : Web.Transport) (c : Call) : Answer :=
  let path := String.ofList (c.path.toList.takeWhile fun ch => ch != '?' && ch != '#')
  if c.method = "OPTIONS" then ⟨200, .none⟩
  else if path = "/api/health" then
    if c.method = "GET" then ok (.object (Json.field "status" "ok"))
    else if c.method = "HEAD" then ⟨200, .none⟩
    else ⟨405, .none⟩
  else match handler? r carry path with
    | none => ⟨404, .none⟩
    | some handler => if c.method = "POST" then withBody c handler else ⟨405, .none⟩

end Api
end PageBuilder
