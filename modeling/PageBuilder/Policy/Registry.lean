import PageBuilder.NameSet
import PageBuilder.Policy.StyleSpec

/-!
# The policy registry

Policies come in four layers, the broadest first: styles in general, tags, components, and
templates. The first two add and deny; a `Narrowing` of the last two can only take away. All of it
is data that is loaded once.
-/

namespace PageBuilder
namespace Policy

/-- Style keys that are added, and style keys that are denied; the denial always wins. -/
structure StyleLists where
  allow : List String := []
  deny : List String := []
deriving DecidableEq

/-- A layer that takes away: without an allowed set all is kept but what is denied. -/
structure Narrowing where
  allow : Option NameSet := none
  deny : NameSet := .empty
deriving DecidableEq

/-- Whether a layer lets a name through. -/
def Narrowing.permits (n : Narrowing) (name : String) : Bool :=
  decide (name ∉ n.deny) && n.allow.all fun allowed => decide (name ∈ allowed)

/-- The general lists, further lists for single tags, and the values of style keys. -/
structure GlobalStyles where
  allow : List String := []
  deny : List String := []
  perTag : Dict StyleLists := []
  specs : Dict StyleSpec := []

/-- The policy of a tag. A list that is not there allows everything. -/
structure TagPolicy where
  sections : Option (List String) := none
  /-- Style keys by the group of the inspector that shows them. -/
  styleGroups : Dict (List String) := []
  styles : Option StyleLists := none
  attributes : Option (List String) := none
  events : Option (List String) := none

namespace TagPolicy

/-- A list that is not there allows everything. -/
def listAllows (list : Option (List String)) (name : String) : Bool :=
  list.all fun names => names.contains name

def allowsSection (t : TagPolicy) (name : String) : Bool := listAllows t.sections name

def allowsAttribute (t : TagPolicy) (name : String) : Bool := listAllows t.attributes name

def allowsEvent (t : TagPolicy) (name : String) : Bool := listAllows t.events name

/-- The style keys of all groups. -/
def groupKeys (t : TagPolicy) : List String := t.styleGroups.flatMap Prod.snd

end TagPolicy

/-- A property of a component. It is shown if every entry of `when` equals the property of the node,
and `whenExpr` is true. -/
structure PropSchema where
  key : String
  label : Option String := none
  when : Option (Dict Json) := none
  whenExpr : Option String := none

/-- What a component declares about itself. -/
structure Component where
  /-- The tags that its nodes may have. -/
  tags : List String := []
  defaultTag : Option String := none
  canHaveChildren : Bool := false
  props : List PropSchema := []

/-- An entry of an inspector overlay. -/
structure OverlayEntry where
  visible : Option Bool := none
deriving DecidableEq

/-- Entries for `group.control`, or for a whole group. -/
abbrev Overlay := Dict OverlayEntry

/-- The policy for the nodes of a component. -/
structure ComponentPolicy where
  inspector : Overlay := []
  styles : Option Narrowing := none

/-- What the inspector offers for the nodes made from a template. -/
structure Filter where
  styles : Narrowing := {}
  props : Narrowing := {}
  actions : Narrowing := {}
  flows : Narrowing := {}
deriving DecidableEq

/-- A template. -/
structure Template where
  name : String := ""
  inspector : Filter := {}

/-- All policies. -/
structure Registry where
  styles : GlobalStyles := {}
  tags : Dict TagPolicy := []
  components : Dict Component := []
  componentPolicies : Dict ComponentPolicy := []
  templates : Dict Template := []

instance : Inhabited Registry := ⟨{}⟩

namespace Registry

def tag? (r : Registry) (name : String) : Option TagPolicy := r.tags.get? name

def component? (r : Registry) (id : String) : Option Component := r.components.get? id

def componentPolicy? (r : Registry) (id : String) : Option ComponentPolicy :=
  r.componentPolicies.get? id

def template? (r : Registry) (id : String) : Option Template := r.templates.get? id

def spec? (r : Registry) (key : String) : Option StyleSpec := r.styles.specs.get? key

end Registry

/-! ### Errors and references -/

/-- Why a registry or a style value is refused. -/
inductive Error where
  /-- A component names a tag without a policy. -/
  | unknownTag (component tag : String)
  /-- A component policy is for a component that is not declared. -/
  | unknownComponent (component : String)
  | invalidStyleValue (key : String) (fault : StyleFault)

/-- The text of an error. -/
def Error.message : Error → String
  | unknownTag component tag =>
    "Component '" ++ component ++ "' references unknown tag '" ++ tag ++ "'"
  | unknownComponent component => "Policy for unknown component: " ++ component
  | invalidStyleValue key fault => "Invalid value for style '" ++ key ++ "': " ++ fault.message

/-- Judge the value of a style key. -/
def StyleSpec.check (m : StyleSpec) (key : String) (v : Json) : Except Error Unit :=
  (m.validate v).mapError (.invalidStyleValue key)

namespace Registry

/-- The first tag of a component that has no policy; the default tag comes last. -/
def missingTag? (r : Registry) (c : Component) : Option String :=
  (c.tags ++ c.defaultTag.toList).find? fun t => !r.tags.contains t

/-- Every tag that a component names has a policy, and every component policy is for a declared
component. -/
def checkReferences (r : Registry) : Except Error Unit :=
  match r.components.findSome? fun e => (r.missingTag? e.2).map fun tag => (e.1, tag) with
  | some (component, tag) => .error (.unknownTag component tag)
  | none =>
    match r.componentPolicies.find? fun e => !r.components.contains e.1 with
    | some (component, _) => .error (.unknownComponent component)
    | none => .ok ()

end Registry

/-! ### Stored form -/

open Json

instance : Codec StyleLists where
  encode l := .object (field "allow" l.allow ++ field "deny" l.deny)
  decode v := do
    v.checkObject
    return { allow := ← withDefault v "allow" [], deny := ← withDefault v "deny" [] }
  shape := .record [mayHave (List String) "allow", mayHave (List String) "deny"]

instance : Codec Narrowing where
  encode n :=
    .object (fieldIfSome "allow" n.allow ++ if n.deny.isEmpty then [] else field "deny" n.deny)
  decode v := do
    v.checkObject
    return { allow := ← optional v "allow", deny := ← withDefault v "deny" .empty }
  shape := .record [mayHaveOrNull NameSet "allow", mayHave NameSet "deny"]

instance : Codec GlobalStyles where
  encode g :=
    .object (field "allow" g.allow ++ field "deny" g.deny ++ field "meta" g.specs ++
      field "perTag" g.perTag)
  decode v := do
    v.checkObject
    return {
      allow := ← withDefault v "allow" []
      deny := ← withDefault v "deny" []
      perTag := ← withDefault v "perTag" []
      specs := ← withDefault v "meta" [] }
  shape := .record [mayHave (List String) "allow", mayHave (List String) "deny",
    mayHave (Dict StyleLists) "perTag", mayHave (Dict StyleSpec) "meta"]

instance : Codec TagPolicy where
  encode t := .object <|
    fieldOrNull "attributes" t.attributes ++ fieldOrNull "events" t.events ++
      fieldOrNull "sections" t.sections ++ field "styleGroups" t.styleGroups ++
        fieldOrNull "styles" t.styles
  decode v := do
    v.checkObject
    return {
      sections := ← optional v "sections"
      styleGroups := ← withDefault v "styleGroups" []
      styles := ← optional v "styles"
      attributes := ← optional v "attributes"
      events := ← optional v "events" }
  shape := .record [mayHaveOrNull (List String) "sections",
    mayHave (Dict (List String)) "styleGroups", mayHaveOrNull StyleLists "styles",
    mayHaveOrNull (List String) "attributes", mayHaveOrNull (List String) "events"]

instance : Codec PropSchema where
  encode p := .object <|
    field "key" p.key ++ fieldIfSome "label" p.label ++ fieldIfSome "when" p.when ++
      fieldIfSome "whenExpr" p.whenExpr
  decode v := do
    v.checkObject
    return {
      key := ← required v "key"
      label := ← optional v "label"
      when := ← optional v "when"
      whenExpr := ← optional v "whenExpr" }
  shape := .record [mustHave String "key", mayHaveOrNull String "label",
    mayHaveOrNull (Dict Json) "when", mayHaveOrNull String "whenExpr"]

instance : Codec Component where
  encode c := .object <|
    field "canHaveChildren" c.canHaveChildren ++ fieldOrNull "defaultTag" c.defaultTag ++
      field "props" c.props ++ field "tags" c.tags
  decode v := do
    v.checkObject
    return {
      tags := ← withDefault v "tags" []
      defaultTag := ← optional v "defaultTag"
      canHaveChildren := ← withDefault v "canHaveChildren" false
      props := ← withDefault v "props" [] }
  shape := .record [mayHave (List String) "tags", mayHaveOrNull String "defaultTag",
    mayHave Bool "canHaveChildren", mayHave (List PropSchema) "props"]

instance : Codec OverlayEntry where
  encode e := .object (fieldIfSome "visible" e.visible)
  decode v := do
    v.checkObject
    return { visible := ← optional v "visible" }
  shape := .record [mayHaveOrNull Bool "visible"]

instance : Codec ComponentPolicy where
  encode p := .object (field "inspector" p.inspector ++ fieldOrNull "styles" p.styles)
  decode v := do
    v.checkObject
    return { inspector := ← withDefault v "inspector" [], styles := ← optional v "styles" }
  shape := .record [mayHave Overlay "inspector", mayHaveOrNull Narrowing "styles"]

instance : Codec Filter where
  encode f := .object <|
    field "actions" f.actions ++ field "flows" f.flows ++ field "props" f.props ++
      field "styles" f.styles
  decode v := do
    v.checkObject
    return {
      styles := ← withDefault v "styles" {}
      props := ← withDefault v "props" {}
      actions := ← withDefault v "actions" {}
      flows := ← withDefault v "flows" {} }
  shape := .record [mayHave Narrowing "styles", mayHave Narrowing "props",
    mayHave Narrowing "actions", mayHave Narrowing "flows"]

instance : Codec Template where
  encode t := .object (field "inspector" t.inspector ++ field "name" t.name)
  decode v := do
    v.checkObject
    return { name := ← withDefault v "name" "", inspector := ← withDefault v "inspector" {} }
  shape := .record [mayHave String "name", mayHave Filter "inspector"]

instance : Codec Registry where
  encode r := .object <|
    field "componentPolicies" r.componentPolicies ++ field "components" r.components ++
      field "styles" r.styles ++ field "tags" r.tags ++ field "templates" r.templates
  decode v := do
    v.checkObject
    return {
      styles := ← withDefault v "styles" {}
      tags := ← withDefault v "tags" []
      components := ← withDefault v "components" []
      componentPolicies := ← withDefault v "componentPolicies" []
      templates := ← withDefault v "templates" [] }
  shape := .record [mayHave GlobalStyles "styles", mayHave (Dict TagPolicy) "tags",
    mayHave (Dict Component) "components", mayHave (Dict ComponentPolicy) "componentPolicies",
    mayHave (Dict Template) "templates"]

end Policy
end PageBuilder
