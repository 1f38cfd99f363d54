import PageBuilder.Inspector.PropGate
import PageBuilder.Proofs.Formula.Spelling
import PageBuilder.Proofs.Json.Fields

/-!
# Expected properties as formulas

The values that a schema expects of the properties of a node can be written as a formula, a
comparison for each of them. The formula reads the stored form of the node and the schema reads the
node itself, and both judge alike (`propsMatch_eq_holds`).
-/

namespace PageBuilder
namespace Inspector

open Policy Formula

/-- The text that compares a property of the node with a value. -/
def propCondition (quote : Char) (e : String × Json) : String :=
  "node.props." ++ e.1 ++ " == " ++ literalText quote e.2

/-- The comparisons of all expected values, joined by `&&`. -/
def propConditions (quote : Char) (expected : Dict Json) : String :=
  " && ".intercalate (expected.map (propCondition quote))

/-- The formula that compares a property of the node with a value. -/
def propFormula (e : String × Json) : Formula :=
  .compare .equal (.path .node ["props", e.1]) (.literal e.2)

/-- A property with a word for its key and a constant for its value can be written in a formula. -/
def IsWritable (e : String × Json) : Prop := IsWord e.1.toList ∧ e.2.isConstant = true

/-! ### The text is the formula -/

section Text

variable {quote : Char} (h : isQuote quote = true)

include h

theorem exists_spells_propCondition {e : String × Json} (he : IsWritable e) :
    ∃ d : Derivation .comparison, Spells (propCondition quote e) d ∧ d.nesting = 0 ∧
      d.formula = propFormula e := by
  obtain ⟨l, hvalue, hl⟩ := exists_spells_literal h he.2
  have hfree : "node" ∉ reservedWords := by decide
  have hkeys : ∀ key ∈ ["props", e.1], IsWord key.toList := by
    simp only [List.forall_mem_cons, List.not_mem_nil, false_imp_iff, implies_true, and_true]
    exact ⟨by decide, he.1⟩
  have hpath : Spells ("node.props." ++ e.1) (.path "node" ["props", e.1] hfree) :=
    spells_path (by simp [Token.keyChars]) (by decide) hkeys hfree
  refine ⟨.compare .equal (.path "node" ["props", e.1] hfree) (.literal l),
    .compare ?_ hpath hl, rfl, ?_⟩
  · simp [propCondition, Comparison.mark, Mark.chars]
  · simp only [Derivation.formula, hvalue]
    rfl

theorem exists_spells_propConditions {e : String × Json} {es : Dict Json}
    (hes : ∀ e' ∈ e :: es, IsWritable e') :
    ∃ d : Derivation (.chain .and), Spells (propConditions quote (e :: es)) d ∧ d.nesting = 0 ∧
      d.operands = (e :: es).map propFormula := by
  -- along the separators of the text, so with the first condition apart
  induction es generalizing e with
  | nil =>
    obtain ⟨x, hx, hnesting, hformula⟩ := exists_spells_propCondition h (hes e List.mem_cons_self)
    exact ⟨.last .and x, hx, hnesting, congrArg (fun y => [y]) hformula⟩
  | cons e' es ih =>
    obtain ⟨he, hes⟩ := List.forall_mem_cons.mp hes
    obtain ⟨x, hx, hnesting, hformula⟩ := exists_spells_propCondition h he
    obtain ⟨xs, hxs, hnestings, hoperands⟩ := ih hes
    have htext : propConditions quote (e :: e' :: es) =
        propCondition quote e ++ Connective.and.text ++ propConditions quote (e' :: es) :=
          String.intercalate_cons_cons
    refine ⟨.link .and x xs, ?_, ?_, ?_⟩
    · rw [htext]
      exact Spells.link hx hxs
    · show max x.nesting xs.nesting = 0
      rw [hnesting, hnestings]
      rfl
    · show x.formula :: xs.operands = _
      rw [hformula, hoperands]
      rfl

/-- The text is parsed to the conjunction of the comparisons; a single one stands for itself. -/
theorem parse_propConditions {expected : Dict Json} (hne : expected ≠ [])
    (hexpected : ∀ e ∈ expected, IsWritable e) :
    parse (propConditions quote expected) = .ok (join .all (expected.map propFormula)) := by
  obtain ⟨e, es, rfl⟩ := List.exists_cons_of_ne_nil hne
  obtain ⟨d, hd, hnesting, hoperands⟩ := exists_spells_propConditions h hexpected
  let sentence : Sentence := .last .or d
  have hparse : parse (propConditions quote (e :: es)) = .ok sentence.formula :=
    Spells.parse_eq hd (Nat.le_trans (Nat.le_of_eq hnesting) (Nat.zero_le _))
  rw [hparse]
  show Except.ok d.formula = _
  rw [d.formula_eq_join, hoperands]
  rfl

end Text

/-! ### The formula judges as the schema does -/

/-- The properties of a node are found in its stored form. -/
theorem at?_props (n : Node) (key : String) : (encode n).at? ["props", key] = n.props.get? key := by
  have hprops : (encode n).get? "props" = some (.object n.props) := by
    simp only [encode]
    simp [Dict.get?_append, Json.encode_dict_json]
  rw [Json.at?_cons, hprops]
  simp [Json.at?_cons]

theorem isTruthy_eval_propFormula (data : Json) (n : Node) (project : Option Project)
    (e : String × Json) :
    isTruthy (eval (.ofDesign data (some n) project) (propFormula e)) =
      Formula.equals (n.props.get? e.1) (some e.2) := by
  have hlookup : (Scope.ofDesign data (some n) project).lookup .node ["props", e.1] =
    n.props.get? e.1 := at?_props n e.1
  rw [propFormula, eval, eval, eval, hlookup]
  rfl

/-- **Expected properties as a formula**: for properties whose keys are words, and for which texts,
truth values or `null` are expected, the text that compares each of them with its value holds for a
node exactly if the schema finds all of them on the node. A property that the node lacks fails both,
whatever is expected. So a schema may ask by the text and show the same property for the same
nodes. -/
theorem propsMatch_eq_holds {quote : Char} (h : isQuote quote = true) {expected : Dict Json}
    (hne : expected ≠ []) (hexpected : ∀ e ∈ expected, IsWritable e) (data : Json) (n : Node)
    (project : Option Project) :
    let s := Scope.ofDesign data (some n) project
    let text := propConditions quote expected
    propsMatch expected n.props = holds text s ∧
      (∀ e ∈ expected, n.props.get? e.1 = none → propsMatch expected n.props = false ∧
        holds text s = false) ∧
      ∀ schema : PropSchema, schema.when = some expected → schema.whenExpr = none →
        isPropVisible schema n s =
          isPropVisible { schema with when := none, whenExpr := some text } n s := by
  intro s text
  have hagree : propsMatch expected n.props = holds text s := by
    rw [holds_of_parse (parse_propConditions h hne hexpected), Bool.eq_iff_iff, propsMatch,
      List.all_eq_true, isTruthy_eval_join_all s (by simpa using hne)]
    simp only [List.forall_mem_map, s, isTruthy_eval_propFormula]
  refine ⟨hagree, fun e he habsent => ?_, fun schema hwhen hexpr => ?_⟩
  · have hfails : propsMatch expected n.props = false := by
      refine List.all_eq_false.mpr ⟨e, he, ?_⟩
      rw [habsent]
      exact Bool.false_ne_true
    exact ⟨hfails, hagree ▸ hfails⟩
  · simp [isPropVisible, hwhen, hexpr, gateOpen, hagree]

/-- An anchor whose label has both kinds of quotes and a backslash in it. -/
def quotedAnchor : Node :=
  { id := "a", component := "Link", props := [("label", .string "a\'\"b"), ("title", .null)] }

theorem propsMatch_quotedAnchor :
    isQuote '"' = true ∧ propsMatch quotedAnchor.props quotedAnchor.props = true ∧
      propConditions '"' quotedAnchor.props =
        "node.props.label == \"a'\\\"b\" && node.props.title == null" ∧
      holds (propConditions '"' quotedAnchor.props) (.ofDesign .null (some quotedAnchor) none) =
        true := by
  have h : isQuote '"' = true := by decide
  have hmatch : propsMatch quotedAnchor.props quotedAnchor.props = true := by decide +kernel
  have hwritable : ∀ e ∈ quotedAnchor.props, IsWritable e := by
    unfold IsWritable
    decide
  have hholds := (propsMatch_eq_holds h (List.cons_ne_nil _ _) hwritable .null quotedAnchor none).1
  exact ⟨h, hmatch, by decide +kernel, hholds.symm.trans hmatch⟩

end Inspector
end PageBuilder
