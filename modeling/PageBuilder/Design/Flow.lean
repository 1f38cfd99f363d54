import PageBuilder.Json.Record

/-!
# Flows

A flow edge leads from an event on a node to a page or a fragment, behind a gate. A target of a kind
that is not known is kept as `unknown` and does nothing.
-/

namespace PageBuilder

/-- Where an edge leads. -/
inductive FlowTarget where
  | navigate (pageId : String)
  | openFragment (fragmentId : String)
  /-- Close a fragment, or the topmost one. -/
  | closeFragment (fragmentId : Option String)
  | unknown
deriving DecidableEq

/-- The kind under which a target is stored. -/
def FlowTarget.kind : FlowTarget → String
  | navigate _ => "navigate"
  | openFragment _ => "openFragment"
  | closeFragment _ => "closeFragment"
  | unknown => "unknown"

/-- An edge from an event on a node. -/
structure FlowEdge where
  id : Option String := none
  nodeId : String
  event : String
  /-- The formula that must hold. -/
  gate : Option String := none
  target : FlowTarget
deriving DecidableEq

/-- The edge starts at the event on the node. -/
def FlowEdge.startsAt (e : FlowEdge) (nodeId event : String) : Bool :=
  e.nodeId == nodeId && e.event == event

/-! ### Stored form -/

open Json

/-- The target that a value stores. -/
def FlowTarget.ofJson (v : Json) : Except DecodeError FlowTarget := do
  v.checkObject
  let kind : String ← required v "kind"
  match kind with
  | "navigate" => return .navigate (← required v "toPageId")
  | "openFragment" => return .openFragment (← required v "fragmentId")
  | "closeFragment" => return .closeFragment (← optional v "fragmentId")
  | _ => return .unknown

instance : Codec FlowTarget where
  encode t := .object <| match t with
    | .navigate pageId => field "kind" t.kind ++ field "toPageId" pageId
    | .openFragment id => field "fragmentId" id ++ field "kind" t.kind
    | .closeFragment id => fieldIfSome "fragmentId" id ++ field "kind" t.kind
    | .unknown => field "kind" t.kind
  decode := FlowTarget.ofJson
  shape := .tagged "kind" none fun v => (FlowTarget.ofJson v).toBool

namespace FlowEdge

/-- The start of an edge, as stored. -/
structure Source where
  nodeId : String
  event : String

instance : Codec Source where
  encode s := .object (field "event" s.event ++ field "nodeId" s.nodeId)
  decode v := do
    v.checkObject
    return { nodeId := ← required v "nodeId", event := ← required v "event" }
  shape := .record [mustHave String "nodeId", mustHave String "event"]

/-- The gate of an edge, as stored. -/
structure Condition where
  formula : String

instance : Codec Condition where
  encode c := .object (field "expr" c.formula)
  decode v := do
    v.checkObject
    return { formula := ← required v "expr" }
  shape := .record [mustHave String "expr"]

end FlowEdge

instance : Codec FlowEdge where
  encode e := .object <|
    field "from" (FlowEdge.Source.mk e.nodeId e.event) ++ fieldIfSome "id" e.id ++
      field "to" e.target ++ fieldIfSome "when" (e.gate.map FlowEdge.Condition.mk)
  decode v := do
    v.checkObject
    let id ← optional v "id"
    let source : FlowEdge.Source ← required v "from"
    let condition : Option FlowEdge.Condition ← optional v "when"
    return {
      id := id
      nodeId := source.nodeId
      event := source.event
      gate := condition.map (·.formula)
      target := ← required v "to" }
  shape := .record [mayHaveOrNull String "id", mustHave FlowEdge.Source "from",
    mayHaveOrNull FlowEdge.Condition "when", mustHave FlowTarget "to"]

end PageBuilder
