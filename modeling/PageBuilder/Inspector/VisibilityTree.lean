import PageBuilder.Policy.Registry
import PageBuilder.Text.Split

/-!
# The visibility tree

The inspector shows controls in groups. The tree starts with the controls that every tag has and
those of the tag's style groups, all visible; overlays then hide groups or controls, and what is
hidden stays hidden.
-/

namespace PageBuilder
namespace Inspector

open Policy

/-- A group of controls, each with its visibility. -/
structure Group where
  visible : Bool := true
  controls : Dict Bool := []
deriving DecidableEq

/-- The groups of the inspector. -/
abbrev VisibilityTree := Dict Group

namespace VisibilityTree

/-- The group that holds the controls of every tag. -/
def coreGroup : String := "layout"

/-- The controls of every tag. -/
def coreControls : List String := ["display", "size", "overflow"]

/-- A group, whether or not it is in the tree. -/
def group (t : VisibilityTree) (name : String) : Group := (t.get? name).getD {}

/-- Enter a group, and hide it unless `visible`. -/
def markGroup (t : VisibilityTree) (name : String) (visible : Bool) : VisibilityTree :=
  let g := t.group name
  Dict.insert name { g with visible := g.visible && visible } t

/-- Enter a control of a group, and hide it unless `visible`. -/
def markControl (t : VisibilityTree) (name control : String) (visible : Bool) : VisibilityTree :=
  let g := t.group name
  let old := (g.controls.get? control).getD true
  Dict.insert name { g with controls := Dict.insert control (old && visible) g.controls } t

/-- Enter controls of a group. -/
def addControls (t : VisibilityTree) (name : String) (controls : List String) : VisibilityTree :=
  controls.foldl (fun t c => t.markControl name c true) t

/-- The tree of a tag before any overlay. -/
def seed (tag : Option TagPolicy) : VisibilityTree :=
  let core := addControls [] coreGroup coreControls
  match tag with
  | none => core
  | some p => p.styleGroups.foldl (fun t e => (t.markGroup e.1 true).addControls e.1 e.2) core

/-- Apply one entry of an overlay. Its path is a group, or a group and a control with a dot between
them. -/
def applyEntry (t : VisibilityTree) (path : String) (entry : OverlayEntry) : VisibilityTree :=
  let visible := entry.visible.getD true
  match Text.cut? '.' path.toList with
  | some (name, control) => t.markControl (String.ofList name) (String.ofList control) visible
  | none => t.markGroup path visible

/-- Apply an overlay. -/
def applyOverlay (t : VisibilityTree) (o : Overlay) : VisibilityTree :=
  o.foldl (fun t e => t.applyEntry e.1 e.2) t

/-- A group is visible unless it is hidden. -/
def isGroupVisible (t : VisibilityTree) (name : String) : Bool := (t.group name).visible

/-- A control is visible unless it or its group is hidden. -/
def isVisible (t : VisibilityTree) (name control : String) : Bool :=
  let g := t.group name
  g.visible && (g.controls.get? control).getD true

end VisibilityTree

open Json in
instance : Codec Group where
  encode g := .object <|
    [("controls", .object (g.controls.map fun e => (e.1, .object (field "visible" e.2))))] ++
      field "visible" g.visible
  decode v := do
    v.checkObject
    let controls : Dict OverlayEntry ← required v "controls"
    return {
      visible := ← required v "visible"
      controls := controls.map fun e => (e.1, e.2.visible.getD true) }

end Inspector
end PageBuilder
