import PageBuilder.Json.Path
import PageBuilder.Session.Snapshot

/-!
# Commands

A command is the only way in which a snapshot changes. `Command.apply` gives the next snapshot, or
says why there is none; it never moves the revision.
-/

namespace PageBuilder

/-- A change of a snapshot. -/
inductive Command where
  /-- Write a value at a dotted path of the data. -/
  | setData (path : String) (value : Json)
  /-- Lay a patch over the properties of a node. -/
  | setProps (nodeId : String) (patch : Dict Json)
  | navigate (pageId : String)
  | openFragment (fragmentId : String)
  /-- Close a fragment, or the one opened last. -/
  | closeFragment (fragmentId : Option String)
  | setViewport (name : String)
  /-- Patch the declaration of a node at a viewport; a key with `null` is removed. -/
  | setNodeStyle (nodeId viewport : String) (patch : Declaration)
  /-- Make or patch the rule of the style sheet for a node at a viewport. -/
  | upsertStyleRule (nodeId : String) (viewport : Option String) (patch : Declaration)

/-- Why a command does not apply. -/
inductive StoreError where
  | nodeNotFound (id : String)
  | pageNotFound (id : String)
  | fragmentNotFound (id : String)
  | invalidPath (path : String)
  | unknownViewport (name : String)
deriving DecidableEq

/-- The text of an error. -/
def StoreError.message : StoreError → String
  | nodeNotFound id => "Node not found: " ++ id
  | pageNotFound id => "Page not found: " ++ id
  | fragmentNotFound id => "Fragment not found: " ++ id
  | invalidPath path => "Invalid data path: '" ++ path ++ "'"
  | unknownViewport name => "Unknown viewport: " ++ name

/-- Lay a patch over a declaration; a key with `null` is removed. -/
def Declaration.patch (d patch : Declaration) : Declaration :=
  patch.foldl (fun d e => if e.2.isNull then d.erase e.1 else d.insert e.1 e.2) d

namespace Node

/-- Lay a patch over the properties. -/
def patchProps (n : Node) (patch : Dict Json) : Node := { n with props := n.props.overlay patch }

/-- Patch the declaration of a viewport. -/
def patchStyle (n : Node) (viewport : String) (patch : Declaration) : Node :=
  { n with styles := Dict.insert viewport (.object ((n.styleFor viewport).patch patch)) n.styles }

end Node

namespace Snapshot

/-- Change a node that is there. -/
def modifyNode (s : Snapshot) (id : String) (f : Node → Node) : Except StoreError Snapshot :=
  if s.project.nodes.contains id then
    .ok { s with project := { s.project with nodes := s.project.nodes.modify id f } }
  else .error (.nodeNotFound id)

end Snapshot

namespace Command

/-- The kind under which a command is stored. -/
def kind : Command → String
  | setData .. => "setData"
  | setProps .. => "setProps"
  | navigate _ => "navigate"
  | openFragment _ => "openFragment"
  | closeFragment _ => "closeFragment"
  | setViewport _ => "setViewport"
  | setNodeStyle .. => "setNodeStyle"
  | upsertStyleRule .. => "upsertStyleRule"

/-- The snapshot after a command. A style rule that has to be made gets the identifier `ruleId`. -/
def apply (ruleId : String) (c : Command) (s : Snapshot) : Except StoreError Snapshot :=
  match c with
  | setData path value =>
    match Json.putText? path value s.data with
    | some data => .ok { s with data := data }
    | none => .error (.invalidPath path)
  | setProps nodeId patch => s.modifyNode nodeId fun n => n.patchProps patch
  | navigate pageId =>
    if (s.project.page? pageId).isSome then
      .ok { s with ui := { s.ui with activePage := some pageId } }
    else .error (.pageNotFound pageId)
  | openFragment id =>
    if (s.project.fragment? id).isSome then
      .ok { s with
        ui := { s.ui with openFragments := (s.ui.openFragments.filter fun f => f != id) ++ [id] } }
    else .error (.fragmentNotFound id)
  | closeFragment (some id) =>
    .ok { s with ui := { s.ui with openFragments := s.ui.openFragments.filter fun f => f != id } }
  | closeFragment none =>
    .ok { s with ui := { s.ui with openFragments := s.ui.openFragments.dropLast } }
  | setViewport name =>
    if s.project.viewports.contains name then .ok { s with ui := { s.ui with viewport := name } }
    else .error (.unknownViewport name)
  | setNodeStyle nodeId viewport patch =>
    if s.project.viewports.contains viewport then s.modifyNode nodeId fun n =>
      n.patchStyle viewport patch
    else .error (.unknownViewport viewport)
  | upsertStyleRule nodeId viewport patch =>
    if s.project.nodes.contains nodeId then
      let sheet := s.project.styleSheet.upsert ruleId nodeId viewport patch
      .ok { s with project := { s.project with styleSheet := sheet } }
    else .error (.nodeNotFound nodeId)

/-- The command has to make a style rule. -/
def needsRule (c : Command) (s : Snapshot) : Bool :=
  match c with
  | upsertStyleRule nodeId viewport _ => s.project.styleSheet.needsRule nodeId viewport
  | _ => false

end Command

/-! ### Stored form -/

open Json

instance : Codec Command where
  encode c := .object <| match c with
    | .setData path value => field "kind" c.kind ++ field "path" path ++ field "value" value
    | .setProps nodeId patch => field "kind" c.kind ++ field "nodeId" nodeId ++ field "patch" patch
    | .navigate pageId => field "kind" c.kind ++ field "pageId" pageId
    | .openFragment id => field "fragmentId" id ++ field "kind" c.kind
    | .closeFragment id => fieldIfSome "fragmentId" id ++ field "kind" c.kind
    | .setViewport name => field "kind" c.kind ++ field "name" name
    | .setNodeStyle nodeId viewport patch =>
      field "kind" c.kind ++ field "nodeId" nodeId ++ field "patch" patch ++
        field "viewport" viewport
    | .upsertStyleRule nodeId viewport patch =>
      field "kind" c.kind ++ field "nodeId" nodeId ++ field "patch" patch ++
        fieldIfSome "viewport" viewport
  decode v := do
    v.checkObject
    let kind : String ← required v "kind"
    match kind with
    | "setData" => return .setData (← required v "path") (← required v "value")
    | "setProps" => return .setProps (← required v "nodeId") (← required v "patch")
    | "navigate" => return .navigate (← required v "pageId")
    | "openFragment" => return .openFragment (← required v "fragmentId")
    | "closeFragment" => return .closeFragment (← optional v "fragmentId")
    | "setViewport" => return .setViewport (← required v "name")
    | "setNodeStyle" =>
      return .setNodeStyle (← required v "nodeId") (← required v "viewport") (← required v "patch")
    | "upsertStyleRule" =>
      return .upsertStyleRule (← required v "nodeId") (← optional v "viewport")
        (← required v "patch")
    | word => .error (.unknownWord word)

end PageBuilder
