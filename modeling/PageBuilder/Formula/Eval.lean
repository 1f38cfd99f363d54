import PageBuilder.Formula.Parser
import PageBuilder.Json.Path
import PageBuilder.Json.Record

/-!
# Evaluating formulas

A formula is judged against three values: the runtime data, the node at hand and the project. A path
that leads nowhere is undefined (`none`), which is apart from `null`. Chains yield the operand that
decides them. Evaluation never fails, and a text that is no formula counts as false.
-/

namespace PageBuilder

/-- The values that formulas can see. -/
structure Scope where
  data : Json := Json.empty
  node : Json := .null
  project : Json := .null

namespace Scope

/-- The scope written as an object with up to three entries. -/
def ofJson (v : Json) : Scope :=
  { data := (v.get? "data").getD Json.empty
    node := (v.get? "node").getD .null
    project := (v.get? "project").getD .null }

/-- The value at the end of a path. -/
def lookup (s : Scope) (root : Formula.Root) (keys : List String) : Option Json :=
  match root with
  | .data => s.data.at? keys
  | .node => s.node.at? keys
  | .project => s.project.at? keys
  | .other _ => none

end Scope

namespace Formula

/-- `false`, `null`, undefined, zero and the empty text are falsy; all else is truthy. -/
def isTruthy : Option Json → Bool
  | none | some .null => false
  | some (.bool b) => b
  | some (.number n) => !n.toFloat.isZero
  | some (.string s) => s ≠ ""
  | some (.array _) | some (.object _) => true

/-- Equality without conversion. Two numbers are compared by value; inside lists and objects their
kinds count too. -/
def equals : Option Json → Option Json → Bool
  | none, none => true
  | some (.number a), some (.number b) => a.toFloat.same b.toFloat
  | some a, some b => a.same b
  | _, _ => false

/-- The order of two numbers or of two texts; no other values are ordered. -/
def order? : Option Json → Option Json → Option Ordering
  | some (.number a), some (.number b) => some (Ord.compare a.toFloat.value b.toFloat.value)
  | some (.string s), some (.string t) => some (Ord.compare s t)
  | _, _ => none

/-- Whether a comparison holds. -/
def Comparison.holds (op : Comparison) (left right : Option Json) : Bool :=
  match op with
  | .equal => equals left right
  | .notEqual => !equals left right
  | .greater => (order? left right).any Ordering.isGT
  | .atLeast => (order? left right).any Ordering.isGE
  | .less => (order? left right).any Ordering.isLT
  | .atMost => (order? left right).any Ordering.isLE

mutual

/-- The value of a formula. -/
def eval (s : Scope) : Formula → Option Json
  | .literal v => some v
  | .path root keys => s.lookup root keys
  | .compare op left right => some (.bool (op.holds (eval s left) (eval s right)))
  | .all operands => decideAt s false none operands
  | .any operands => decideAt s true none operands
  | .not x => some (.bool !isTruthy (eval s x))

/-- The value of the first operand whose truth is `stop`, or else of the last one; `last` is the
value so far. -/
def decideAt (s : Scope) (stop : Bool) (last : Option Json) : List Formula → Option Json
  | [] => last
  | x :: xs =>
    let v := eval s x
    if isTruthy v = stop then v else decideAt s stop v xs

end

/-- The truth of a text; one that is no formula is false. -/
def holds (text : String) (s : Scope) : Bool :=
  match parse text with
  | .ok x => isTruthy (eval s x)
  | .error _ => false

/-- The truth of a gate; a gate that is not there is open. -/
def gateOpen (gate : Option String) (s : Scope) : Bool :=
  match gate with
  | some text => holds text s
  | none => true

end Formula

end PageBuilder
