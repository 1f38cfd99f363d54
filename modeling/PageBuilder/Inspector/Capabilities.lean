import PageBuilder.Design.Node
import PageBuilder.Inspector.AllowedStyles
import PageBuilder.Inspector.VisibilityTree

/-!
# Capabilities

What may be edited on a node right now: the tag, general, component and template policies put
together for one node in one mode of the inspector. Template mode leaves out the component policy,
and expert mode the template too; what is denied for the tag or in general stays denied in every
mode.
-/

namespace PageBuilder
namespace Inspector

open Policy

/-- The modes of the inspector. -/
inductive Mode where
  /-- Every layer applies. -/
  | standard
  /-- The component policy is left out. -/
  | template
  /-- The component policy and the template are left out. -/
  | expert
deriving DecidableEq

namespace Mode

/-- The name of a mode. -/
def name : Mode → String
  | standard => "standard"
  | template => "template"
  | expert => "expert"

/-- The mode of a name in any case of letters; the error is the name in lower case. -/
def ofName (text : String) : Except String Mode :=
  match String.ofList (text.toList.map Char.toLower) with
  | "standard" => .ok .standard
  | "template" => .ok .template
  | "expert" => .ok .expert
  | other => .error other

/-- The text of the error for a name that is no mode. -/
def unknownMessage (name : String) : String := "unknown inspector mode '" ++ name ++ "'"

/-- The component policy applies. -/
def usesComponent (m : Mode) : Bool := m == standard

/-- The template applies. -/
def usesTemplate (m : Mode) : Bool := m != expert

end Mode

/-- The tag of a node: its own, or else that of its component, or else the general container. -/
def resolveTag (r : Registry) (n : Node) : String :=
  match n.tagOverride? with
  | some tag => tag
  | none => ((r.component? n.component).bind fun c => c.defaultTag).getD "div"

/-- A style that a patch may not set, and why. -/
inductive StyleViolation where
  | notAllowed (key tag : String)
  | invalid (error : Policy.Error)

/-- The text of a violation. -/
def StyleViolation.reason : StyleViolation → String
  | notAllowed key tag => "style '" ++ key ++ "' is not allowed on <" ++ tag ++ ">"
  | invalid error => error.message

/-- What may be edited on a node. -/
structure Capabilities where
  tag : String
  tagPolicy : Option TagPolicy
  specs : Dict StyleSpec
  allowed : NameSet
  tree : VisibilityTree
  filter : Option Filter

namespace Capabilities

/-- The component policy that applies to a node. -/
def componentPolicy? (r : Registry) (n : Node) (m : Mode) : Option ComponentPolicy :=
  if m.usesComponent then r.componentPolicy? n.component else none

/-- The template filter that applies to a node. -/
def filter? (r : Registry) (n : Node) (m : Mode) : Option Filter :=
  if m.usesTemplate then (n.template.bind r.template?).map Template.inspector else none

/-- The layers that narrow the styles of a node. -/
def layers (r : Registry) (n : Node) (m : Mode) : List Narrowing :=
  ((componentPolicy? r n m).bind ComponentPolicy.styles).toList ++
    ((filter? r n m).map Filter.styles).toList

/-- The capabilities of a node. -/
def ofNode (r : Registry) (n : Node) (m : Mode) : Capabilities :=
  let tag := resolveTag r n
  { tag := tag
    tagPolicy := r.tag? tag
    specs := r.styles.specs
    allowed := allowedStyles r tag (layers r n m)
    tree :=
      (VisibilityTree.seed (r.tag? tag)).applyOverlay
        ((componentPolicy? r n m).elim [] ComponentPolicy.inspector)
    filter := filter? r n m }

def isAllowed (c : Capabilities) (key : String) : Bool := decide (key ∈ c.allowed)

def isVisible (c : Capabilities) (group control : String) : Bool := c.tree.isVisible group control

/-- A section is shown if the tag has a policy that allows it. -/
def isSectionAllowed (c : Capabilities) (name : String) : Bool :=
  c.tagPolicy.any fun t => t.allowsSection name

def allowsAttribute (c : Capabilities) (name : String) : Bool :=
  c.tagPolicy.any fun t => t.allowsAttribute name

def allowsEvent (c : Capabilities) (name : String) : Bool :=
  c.tagPolicy.any fun t => t.allowsEvent name

def allowsProp (c : Capabilities) (key : String) : Bool := c.filter.all fun f => f.props.permits key

/-- Steps of a kind may be added. -/
def allowsActionKind (c : Capabilities) (kind : String) : Bool :=
  c.filter.all fun f => f.actions.permits kind

/-- Flow edges with a target of a kind may be added. -/
def allowsFlowKind (c : Capabilities) (kind : String) : Bool :=
  c.filter.all fun f => f.flows.permits kind

/-- What is wrong with setting a style. -/
def checkStyle (c : Capabilities) (key : String) (v : Json) : Option StyleViolation :=
  if c.isAllowed key then
    match c.specs.get? key with
    | none => none
    | some m =>
      match m.check key v with
      | .ok () => none
      | .error e => some (.invalid e)
  else some (.notAllowed key c.tag)

/-- The styles of a patch that may not be set. -/
def checkPatch (c : Capabilities) (patch : Dict Json) : List (String × StyleViolation) :=
  patch.filterMap fun e => (c.checkStyle e.1 e.2).map (e.1, ·)

/-- The summary that is sent to the inspector. -/
def report (c : Capabilities) : Json := .object <|
  Json.field "allowedStyles" c.allowed ++ Json.field "knownTag" c.tagPolicy.isSome ++
    Json.fieldIfSome "sections" (c.tagPolicy.bind TagPolicy.sections) ++ Json.field "tag" c.tag ++
    Json.field "visibility" c.tree

end Capabilities

instance : Codec Mode where
  encode m := .string m.name
  decode v :=
    match v.word? with
    | some "standard" => .ok .standard
    | some "template" => .ok .template
    | some "expert" => .ok .expert
    | some word => .error (.unknownWord word)
    | none => .error (.mismatch "a mode")
  shape := .word ["standard", "template", "expert"]

end Inspector
end PageBuilder
