import PageBuilder.Design.Flow
import PageBuilder.Design.StyleSheet

/-!
# Projects

A project holds pages, fragments (overlays that pages share), the nodes of both by their keys, the
flows between them, and how they are styled.
-/

namespace PageBuilder

/-- A page. -/
structure Page where
  id : String
  name : String := ""
  root : Option String := none
deriving DecidableEq

/-- An overlay such as a dialog or a drawer. -/
structure Fragment where
  id : String
  name : String := ""
  root : Option String := none
deriving DecidableEq

/-- A project. -/
structure Project where
  id : String := ""
  name : String := ""
  pages : List Page := []
  fragments : List Fragment := []
  nodes : Dict Node := []
  flows : List FlowEdge := []
  viewports : Viewports := {}
  styleSheet : StyleSheet := {}

namespace Project

def node? (p : Project) (id : String) : Option Node := p.nodes.get? id

def page? (p : Project) (id : String) : Option Page := p.pages.find? fun page => page.id == id

def fragment? (p : Project) (id : String) : Option Fragment := p.fragments.find? fun f => f.id == id

/-- The edges that start at an event on a node. -/
def edgesFrom (p : Project) (nodeId event : String) : List FlowEdge :=
  p.flows.filter fun e => e.startsAt nodeId event

end Project

/-! ### Stored form -/

open Json

instance : Codec Page where
  encode p := .object (field "id" p.id ++ field "name" p.name ++ fieldIfSome "root" p.root)
  decode v := do
    v.checkObject
    return {
      id := ← required v "id"
      name := ← withDefault v "name" ""
      root := ← optional v "root" }
  shape := .record [mustHave String "id", mayHave String "name", mayHaveOrNull String "root"]

instance : Codec Fragment where
  encode f := .object (field "id" f.id ++ field "name" f.name ++ fieldIfSome "root" f.root)
  decode v := do
    v.checkObject
    return {
      id := ← required v "id"
      name := ← withDefault v "name" ""
      root := ← optional v "root" }
  shape := .record [mustHave String "id", mayHave String "name", mayHaveOrNull String "root"]

instance : Codec Project where
  encode p := .object <|
    field "flows" p.flows ++ field "fragments" p.fragments ++ field "id" p.id ++
      field "name" p.name ++ field "nodes" p.nodes ++ field "pages" p.pages ++
      field "styleSheet" p.styleSheet ++ field "viewports" p.viewports
  decode v := do
    v.checkObject
    return {
      id := ← withDefault v "id" ""
      name := ← withDefault v "name" ""
      pages := ← withDefault v "pages" []
      fragments := ← withDefault v "fragments" []
      nodes := ← withDefault v "nodes" []
      flows := ← withDefault v "flows" []
      viewports := ← withDefault v "viewports" {}
      styleSheet := ← withDefault v "styleSheet" {} }
  shape := .record [mayHave String "id", mayHave String "name", mayHave (List Page) "pages",
    mayHave (List Fragment) "fragments", mayHave (Dict Node) "nodes",
    mayHave (List FlowEdge) "flows", mayHave Viewports "viewports", mayHave StyleSheet "styleSheet"]

end PageBuilder
