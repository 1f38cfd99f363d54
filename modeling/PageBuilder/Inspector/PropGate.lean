import PageBuilder.Design.Scope
import PageBuilder.Policy.Registry

/-!
# Visible properties

A property is shown if every gate passes: the formula that the node itself sets for it, the values
that the schema asks for, and the formula of the schema. A gate that is not there passes.
-/

namespace PageBuilder
namespace Inspector

open Policy

/-- Every entry equals the property of the node. -/
def propsMatch (expected props : Dict Json) : Bool :=
  expected.all fun e => Formula.equals (props.get? e.1) (some e.2)

/-- Whether a property is shown. -/
def isPropVisible (p : PropSchema) (n : Node) (s : Scope) : Bool :=
  Formula.gateOpen (n.propVisibility.get? p.key) s &&
    p.when.all (fun expected => propsMatch expected n.props) &&
    Formula.gateOpen p.whenExpr s

/-- The properties of a node's component that are shown, in the order of their declaration. -/
def visibleProps (r : Registry) (n : Node) (s : Scope) : List PropSchema :=
  match r.component? n.component with
  | some c => c.props.filter fun p => isPropVisible p n s
  | none => []

end Inspector
end PageBuilder
