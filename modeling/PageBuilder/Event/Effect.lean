import PageBuilder.Failure
import PageBuilder.Session.Store
import PageBuilder.Web.Request

/-!
# Effects

The steps and flow edges of an event change nothing themselves: each becomes effects that a host
performs. A host holds a state, shows the current snapshot, performs effects or refuses them, and is
told about every step or edge that failed. A `Notice` is what a host lets others see of an effect.
-/

namespace PageBuilder

/-- What a host is asked to do. -/
inductive Effect where
  | alert (message : String)
  | setData (path : String) (value : Json)
  | setProps (nodeId : String) (patch : Dict Json)
  /-- Send a request; its result is the answer. -/
  | http (request : Request)
  /-- Publish on a topic; a payload of `null` is none. -/
  | emit (topic : String) (payload : Json)
  | navigate (pageId : String)
  | openFragment (fragmentId : String)
  /-- Close a fragment, or the topmost one. -/
  | closeFragment (fragmentId : Option String)

/-- The name of an effect. -/
def Effect.name : Effect → String
  | alert _ => "alert"
  | setData .. => "setData"
  | setProps .. => "setProps"
  | http _ => "http"
  | emit .. => "emit"
  | navigate _ => "navigate"
  | openFragment _ => "openFragment"
  | closeFragment _ => "closeFragment"

/-- A host with states in `σ`. -/
structure Host (σ : Type) where
  /-- The current snapshot. -/
  snapshot : σ → Snapshot
  /-- Perform an effect. All but the answer to a request is `null`. -/
  perform : Effect → σ → Except Failure Json × σ
  /-- Take note of a step or an edge of some kind that failed. -/
  failed : String → Failure → σ → σ

/-- What others see of an effect. -/
inductive Notice where
  | alert (message : String)
  | emit (topic : String) (payload : Json)
  | dataChanged (path : String)
  | propsChanged (nodeId : String)
  | navigated (pageId : String)
  | fragmentOpened (fragmentId : String)
  | fragmentClosed (fragmentId : Option String)
  | httpCompleted (url : String) (status : UInt16)
  /-- A step or an edge failed. -/
  | error (kind message : String)

open Json

instance : Codec UInt16 where
  encode n := .ofNat n.toNat
  decode
    | .number (.int n) =>
      if 0 ≤ n ∧ n < UInt16.size then .ok (UInt16.ofNat n.toNat)
      else .error (.mismatch "an integer of 16 bits")
    | _ => .error (.mismatch "an integer of 16 bits")

/-- The type under which a notice is stored. -/
def Notice.type : Notice → String
  | alert _ => "alert"
  | emit .. => "emit"
  | dataChanged _ => "dataChanged"
  | propsChanged _ => "propsChanged"
  | navigated _ => "navigated"
  | fragmentOpened _ => "fragmentOpened"
  | fragmentClosed _ => "fragmentClosed"
  | httpCompleted .. => "httpCompleted"
  | error .. => "error"

instance : Codec Notice where
  encode n := .object <| match n with
    | .alert message => field "message" message ++ field "type" n.type
    | .emit topic payload =>
      fieldIfValue "payload" payload ++ field "topic" topic ++ field "type" n.type
    | .dataChanged path => field "path" path ++ field "type" n.type
    | .propsChanged nodeId => field "nodeId" nodeId ++ field "type" n.type
    | .navigated pageId => field "pageId" pageId ++ field "type" n.type
    | .fragmentOpened id => field "fragmentId" id ++ field "type" n.type
    | .fragmentClosed id => fieldOrNull "fragmentId" id ++ field "type" n.type
    | .httpCompleted url status => field "status" status ++ field "type" n.type ++ field "url" url
    | .error kind message => field "kind" kind ++ field "message" message ++ field "type" n.type
  decode v := do
    v.checkObject
    let type : String ← required v "type"
    match type with
    | "alert" => return .alert (← required v "message")
    | "emit" => return .emit (← required v "topic") (valueOrNull v "payload")
    | "dataChanged" => return .dataChanged (← required v "path")
    | "propsChanged" => return .propsChanged (← required v "nodeId")
    | "navigated" => return .navigated (← required v "pageId")
    | "fragmentOpened" => return .fragmentOpened (← required v "fragmentId")
    | "fragmentClosed" => return .fragmentClosed (← optional v "fragmentId")
    | "httpCompleted" => return .httpCompleted (← required v "url") (← required v "status")
    | "error" => return .error (← required v "kind") (← required v "message")
    | word => throw (.unknownWord word)

end PageBuilder
