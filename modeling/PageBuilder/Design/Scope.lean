import PageBuilder.Design.Project
import PageBuilder.Formula.Eval

/-!
# What formulas see of a design

A formula sees the runtime data, and the stored forms of the node at hand and of the project; a node
or project that is not there is `null`.
-/

namespace PageBuilder

/-- The scope of the data, a node and a project. -/
def Scope.ofDesign (data : Json) (node : Option Node) (project : Option Project) : Scope :=
  { data := data
    node := (node.map encode).getD .null
    project := (project.map encode).getD .null }

end PageBuilder
