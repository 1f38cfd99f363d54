import PageBuilder.Design.Action
import PageBuilder.Design.Viewport

/-!
# Nodes

A node is one element of the design. Its component says what it is; the property `tag` may name
another tag than the one that the component would give it.
-/

namespace PageBuilder

/-- One element of the design. -/
structure Node where
  id : String
  component : String
  props : Dict Json := []
  /-- Declarations by viewport. -/
  styles : Dict Json := []
  classes : List String := []
  children : List String := []
  hidden : Bool := false
  locked : Bool := false
  /-- The template that the node was made from. -/
  template : Option String := none
  /-- Formulas that show or hide single properties of the node. -/
  propVisibility : Dict String := []
  /-- The steps for each event. -/
  actions : Dict ActionBag := []

namespace Node

/-- The property that names the tag of a node. -/
def tagProp : String := "tag"

/-- The tag that the node itself names; an empty name does not count. -/
def tagOverride? (n : Node) : Option String :=
  match n.props.get? tagProp with
  | some (.string tag) => if tag = "" then none else some tag
  | _ => none

/-- The declaration stored for a viewport. -/
def styleFor (n : Node) (viewport : String) : Declaration := .ofJson? (n.styles.get? viewport)

/-- The declaration that applies at a viewport. -/
def effectiveStyle (n : Node) (vs : Viewports) (active : String) : Declaration :=
  vs.effective n.styles active

end Node

open Json in
instance : Codec Node where
  encode n := .object <|
    fieldIfAny "actions" n.actions ++ field "children" n.children ++ field "classes" n.classes ++
      field "component" n.component ++ field "hidden" n.hidden ++ field "id" n.id ++
      field "locked" n.locked ++ fieldIfAny "propVisibility" n.propVisibility ++
      field "props" n.props ++ field "styles" n.styles ++ fieldIfSome "template" n.template
  decode v := do
    v.checkObject
    return {
      id := ← required v "id"
      component := ← required v "component"
      props := ← withDefault v "props" []
      styles := ← withDefault v "styles" []
      classes := ← withDefault v "classes" []
      children := ← withDefault v "children" []
      hidden := ← withDefault v "hidden" false
      locked := ← withDefault v "locked" false
      template := ← optional v "template"
      propVisibility := ← withDefault v "propVisibility" []
      actions := ← withDefault v "actions" [] }
  shape := .record [mustHave String "id", mustHave String "component", mayHave (Dict Json) "props",
    mayHave (Dict Json) "styles", mayHave (List String) "classes", mayHave (List String) "children",
    mayHave Bool "hidden", mayHave Bool "locked", mayHaveOrNull String "template",
    mayHave (Dict String) "propVisibility", mayHave (Dict ActionBag) "actions"]

end PageBuilder
