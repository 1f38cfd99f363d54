import PageBuilder.Json.Basic

/-!
# Formulas

A formula is a literal, a path into the values in scope, a comparison, a chain of operands joined by
one connective, or a negation.
-/

namespace PageBuilder

namespace Formula

/-- The comparisons. -/
inductive Comparison where
  | equal
  | notEqual
  | greater
  | atLeast
  | less
  | atMost
deriving DecidableEq

/-- How a comparison is written. -/
def Comparison.symbol : Comparison → String
  | .equal => "=="
  | .notEqual => "!="
  | .greater => ">"
  | .atLeast => ">="
  | .less => "<"
  | .atMost => "<="

/-- The value that a path starts from. Any name may be written, but only three have a value. -/
inductive Root where
  | data
  | node
  | project
  | other (name : String)
deriving DecidableEq

/-- The root of a name. -/
def Root.ofName (name : String) : Root :=
  if name = "data" then .data
  else if name = "node" then .node
  else if name = "project" then .project
  else .other name

end Formula

/-- A formula. -/
inductive Formula where
  | literal (value : Json)
  | path (root : Formula.Root) (keys : List String)
  | compare (op : Formula.Comparison) (left right : Formula)
  /-- The operands joined by "and". -/
  | all (operands : List Formula)
  /-- The operands joined by "or". -/
  | any (operands : List Formula)
  | not (operand : Formula)

end PageBuilder
