import PageBuilder.Text.UpperCase
import PageBuilder.Web.Request

/-!
# Actions

The steps that run when an event fires on a node. Steps are stored as records with a `kind`; a kind
that is not known is kept as `unknown` and does nothing.
-/

namespace PageBuilder

/-- A step that sends a request. -/
structure HttpStep where
  method : String := "GET"
  url : String
  /-- The body; `null` for a request without one. -/
  body : Json := .null
  headers : Option (Dict String) := none
  /-- The data path that receives the answer. -/
  saveTo : Option String := none

/-- The request of a step. Its method is in upper case. -/
def HttpStep.request (h : HttpStep) : Request :=
  { method := String.ofList (Text.upper h.method.toList)
    url := h.url
    body := h.body
    headers := h.headers.getD [] }

/-- One step of an action. -/
inductive Step where
  | alert (message : String)
  | setData (path : String) (value : Json)
  | setProps (nodeId : String) (patch : Dict Json)
  | http (request : HttpStep)
  /-- Publish on a topic; a payload of `null` is none. -/
  | emit (topic : String) (payload : Json)
  | navigate (pageId : String)
  | openFragment (fragmentId : String)
  /-- Close a fragment, or the topmost one. -/
  | closeFragment (fragmentId : Option String)
  | unknown

/-- The kind under which a step is stored. -/
def Step.kind : Step → String
  | alert _ => "alert"
  | setData .. => "setData"
  | setProps .. => "setProps"
  | http _ => "http"
  | emit .. => "emit"
  | navigate _ => "navigate"
  | openFragment _ => "openFragment"
  | closeFragment _ => "closeFragment"
  | unknown => "unknown"

/-- The steps for one event, behind a gate. -/
structure ActionBag where
  /-- The formula that must hold for the steps to run. -/
  when : Option String := none
  steps : List Step := []

/-! ### Stored form -/

open Json

/-- The step that a value stores. -/
def Step.ofJson (v : Json) : Except DecodeError Step := do
  v.checkObject
  let kind : String ← required v "kind"
  match kind with
  | "alert" => return .alert (← required v "message")
  | "setData" => return .setData (← required v "path") (valueOrNull v "value")
  | "setProps" => return .setProps (← required v "nodeId") (← withDefault v "patch" [])
  | "http" =>
    return .http {
      method := ← withDefault v "method" "GET"
      url := ← required v "url"
      body := valueOrNull v "body"
      headers := ← optional v "headers"
      saveTo := ← optional v "saveTo" }
  | "emit" => return .emit (← required v "topic") (valueOrNull v "payload")
  | "navigate" => return .navigate (← required v "toPageId")
  | "openFragment" => return .openFragment (← required v "fragmentId")
  | "closeFragment" => return .closeFragment (← optional v "fragmentId")
  | _ => return .unknown

instance : Codec Step where
  encode s := .object <| match s with
    | .alert message => field "kind" s.kind ++ field "message" message
    | .setData path value => field "kind" s.kind ++ field "path" path ++ field "value" value
    | .setProps nodeId patch => field "kind" s.kind ++ field "nodeId" nodeId ++ field "patch" patch
    | .http h =>
      fieldIfValue "body" h.body ++ fieldIfSome "headers" h.headers ++ field "kind" s.kind ++
        field "method" h.method ++ fieldIfSome "saveTo" h.saveTo ++ field "url" h.url
    | .emit topic payload =>
      field "kind" s.kind ++ fieldIfValue "payload" payload ++ field "topic" topic
    | .navigate pageId => field "kind" s.kind ++ field "toPageId" pageId
    | .openFragment id => field "fragmentId" id ++ field "kind" s.kind
    | .closeFragment id => fieldIfSome "fragmentId" id ++ field "kind" s.kind
    | .unknown => field "kind" s.kind
  decode := Step.ofJson
  shape := .tagged "kind" none fun v => (Step.ofJson v).toBool

instance : Codec ActionBag where
  encode b := .object (field "steps" b.steps ++ fieldIfSome "when" b.when)
  decode v := do
    v.checkObject
    return { when := ← optional v "when", steps := ← withDefault v "steps" [] }
  shape := .record [mayHaveOrNull String "when", mayHave (List Step) "steps"]

end PageBuilder
