import PageBuilder.Proofs.Formula.Dependence
import PageBuilder.Proofs.Formula.Parsing

/-!
# The height of formulas

The limit of the parser counts open negations and parentheses, and comparisons and chains add nodes
that it does not count. But a level of the grammar adds one node at most, however long a chain is,
and only a negation or a parenthesis leads back to the loosest level. So the height of a formula is
bounded by its nesting (`Derivation.height_formula_le`) and the bound is attained
(`Derivation.height_deepest`). An evaluator whose calls are counted needs no more of them at once
than the height (`evalWithin_of_height_le`).
-/

namespace PageBuilder
namespace Formula

/-! ### Height and parts -/

mutual

/-- The number of nodes on the longest way down; a leaf counts one. -/
def height : Formula → Nat
  | .literal _ => 1
  | .path .. => 1
  | .compare _ left right => max (height left) (height right) + 1
  | .all operands => heightOf operands + 1
  | .any operands => heightOf operands + 1
  | .not x => height x + 1

/-- The height of the highest operand. -/
def heightOf : List Formula → Nat
  | [] => 0
  | x :: xs => max (height x) (heightOf xs)

end

theorem height_le_heightOf {x : Formula} {xs : List Formula} (h : x ∈ xs) :
    x.height ≤ heightOf xs := by
  induction xs with
  | nil => cases h
  | cons y ys ih =>
    rw [heightOf]
    rcases List.mem_cons.mp h with rfl | h
    · exact Nat.le_max_left _ _
    · exact Nat.le_trans (ih h) (Nat.le_max_right _ _)

mutual

/-- All formulas in a formula, itself first. -/
def parts : Formula → List Formula
  | .literal v => [.literal v]
  | .path root keys => [.path root keys]
  | .compare op left right => .compare op left right :: (parts left ++ parts right)
  | .all operands => .all operands :: partsOf operands
  | .any operands => .any operands :: partsOf operands
  | .not x => .not x :: parts x

/-- All formulas in the operands of a chain. -/
def partsOf : List Formula → List Formula
  | [] => []
  | x :: xs => parts x ++ partsOf xs

end

/-- The chains among some formulas have at least two operands each. -/
def Branching (parts : List Formula) : Prop :=
  ∀ c : Connective, ∀ xs, c.node xs ∈ parts → 2 ≤ xs.length

theorem branching_append {ps qs : List Formula} :
    Branching (ps ++ qs) ↔ Branching ps ∧ Branching qs := by
  simp only [Branching, List.mem_append]
  exact ⟨fun h => ⟨fun c xs hx => h c xs (.inl hx), fun c xs hx => h c xs (.inr hx)⟩,
    fun ⟨hp, hq⟩ c xs hx => hx.elim (hp c xs) (hq c xs)⟩

/-- A formula that is no chain may stand anywhere. -/
theorem branching_cons {x : Formula} {ps : List Formula} (h : ∀ c xs, Connective.node c xs ≠ x) :
    Branching (x :: ps) ↔ Branching ps := by
  simp only [Branching, List.mem_cons, h, false_or]

/-! ### The height of what the grammar derives -/

/-- The number of levels of the grammar from this one down to the tightest, both included. -/
def Level.rank : Level → Nat
  | .operand => 1
  | .comparison => 2
  | .chain .and => 3
  | .chain .or => 4

theorem Level.rank_chain (c : Connective) : (Level.chain c).rank = c.inner.rank + 1 := by
  cases c <;> rfl

theorem height_node (c : Connective) (xs : List Formula) :
    (c.node xs).height = heightOf xs + 1 := by
  cases c <;> simp only [Connective.node, height]

theorem parts_node (c : Connective) (xs : List Formula) :
    (c.node xs).parts = c.node xs :: partsOf xs := by
  cases c <;> simp only [Connective.node, parts]

namespace Derivation

/-- A derivation is at most three nodes higher for each level of nesting, and one for each level of
the grammar. -/
theorem height_le {l : Level} (d : Derivation l) :
    d.formula.height ≤ 3 * d.nesting + l.rank ∧
      heightOf d.operands + 1 ≤ 3 * d.nesting + l.rank := by
  -- the second half is what the operands of a chain leave to the node that joins them
  induction d with
  | literal l => simp [formula, height, operands, heightOf, nesting, Level.rank]
  | path head keys free => simp [formula, height, operands, heightOf, nesting, Level.rank]
  | not x ih | group x ih =>
    obtain ⟨hx, -⟩ := ih
    simp only [formula, height, operands, heightOf, nesting, Level.rank] at hx ⊢
    omega
  | lone x ih =>
    obtain ⟨hx, -⟩ := ih
    simp only [formula, operands, heightOf, nesting, Level.rank] at hx ⊢
    omega
  | compare op left right ihl ihr =>
    obtain ⟨hl, -⟩ := ihl
    obtain ⟨hr, -⟩ := ihr
    simp only [formula, height, operands, heightOf, nesting, Level.rank] at hl hr ⊢
    omega
  | last c x ih =>
    obtain ⟨hx, -⟩ := ih
    simp only [formula, operands, heightOf, nesting, Level.rank_chain]
    omega
  | link c x xs ih ihs =>
    obtain ⟨hx, -⟩ := ih
    obtain ⟨-, hxs⟩ := ihs
    rw [Level.rank_chain] at hxs
    simp only [formula, height_node, operands, heightOf, nesting, Level.rank_chain]
    omega

theorem height_formula_le (d : Sentence) : d.formula.height ≤ 3 * d.nesting + 4 := d.height_le.1

/-- Only a second operand makes a node of a chain. -/
theorem branching {l : Level} (d : Derivation l) :
    Branching d.formula.parts ∧ Branching (partsOf d.operands) := by
  have hnil : Branching (partsOf []) := by simp [Branching, partsOf]
  induction d with
  | literal l | path head keys free =>
    exact ⟨(branching_cons fun c xs => by cases c <;> simp [Connective.node]).mpr hnil, hnil⟩
  | not x ih =>
    exact ⟨(branching_cons fun c xs => by cases c <;> simp [Connective.node]).mpr ih.1, hnil⟩
  | group x ih => exact ⟨ih.1, hnil⟩
  | lone x ih => exact ⟨ih.1, hnil⟩
  | compare op left right ihl ihr =>
    exact ⟨(branching_cons fun c xs => by cases c <;> simp [Connective.node]).mpr
      (branching_append.mpr ⟨ihl.1, ihr.1⟩), hnil⟩
  | last c x ih => exact ⟨ih.1, branching_append.mpr ⟨ih.1, hnil⟩⟩
  | link c x xs ih ihs =>
    have hparts : Branching (partsOf (x.formula :: xs.operands)) :=
      branching_append.mpr ⟨ih.1, ihs.2⟩
    refine ⟨fun c' ys hys => ?_, hparts⟩
    rw [formula, parts_node, List.mem_cons] at hys
    rcases hys with hnode | hmem
    · obtain rfl : ys = x.formula :: xs.operands := by
        cases c <;> cases c' <;> cases hnode <;> rfl
      have := List.length_pos_iff.mpr xs.operands_ne_nil
      simp only [List.length_cons]
      omega
    · exact hparts c' ys hmem

/-- In each of so many groups a chain, in it a chain, and in that a comparison with the next
group. -/
def deepest : Nat → Sentence
  | 0 => around (.literal .null)
  | n + 1 => around (.group (deepest n))
where
  around (x : Derivation .operand) : Sentence :=
    .link .or
      (.link .and (.compare .equal x (.literal .null)) (.last .and (.lone (.literal .null))))
      (.last .or (.last .and (.lone (.literal .null))))

theorem nesting_deepest (n : Nat) : (deepest n).nesting = n := by
  induction n with
  | zero => rfl
  | succ n ih => simp [deepest, deepest.around, nesting, ih]

/-- The bound is attained. -/
theorem height_deepest (n : Nat) : (deepest n).formula.height = 3 * (deepest n).nesting + 4 := by
  rw [nesting_deepest]
  induction n with
  | zero => simp [deepest, deepest.around, formula, operands, Connective.node, height, heightOf]
  | succ n ih =>
    simp only [deepest, deepest.around, formula, operands, Connective.node, height, heightOf, ih]
    omega

end Derivation

/-! ### Evaluation with counted calls -/

mutual

/-- The value of a formula, worked out with no more than so many formulas under evaluation at
once. -/
def evalWithin (s : Scope) : Nat → Formula → Option (Option Json)
  | 0, _ => none
  | _ + 1, .literal v => some (some v)
  | _ + 1, .path root keys => some (s.lookup root keys)
  | n + 1, .compare op left right =>
    (evalWithin s n left).bind fun v => (evalWithin s n right).map fun w =>
      some (.bool (op.holds v w))
  | n + 1, .all operands => decideWithin s false n none operands
  | n + 1, .any operands => decideWithin s true n none operands
  | n + 1, .not x => (evalWithin s n x).map fun v => some (.bool !isTruthy v)

/-- The value of the operand that decides a chain, likewise; the operands are evaluated one after
the other. -/
def decideWithin (s : Scope) (stop : Bool) (n : Nat) (last : Option Json) :
    List Formula → Option (Option Json)
  | [] => some last
  | x :: xs =>
    (evalWithin s n x).bind fun v =>
      if isTruthy v = stop then some v else decideWithin s stop n v xs

end

theorem decideWithin_of_operands {s : Scope} {n : Nat} {xs : List Formula}
    (h : ∀ x ∈ xs, evalWithin s n x = some (eval s x)) (stop : Bool) (last : Option Json) :
    decideWithin s stop n last xs = some (decideAt s stop last xs) := by
  induction xs generalizing last with
  | nil => rw [decideWithin, decideAt]
  | cons x xs ih =>
    obtain ⟨hx, hxs⟩ := List.forall_mem_cons.mp h
    rw [decideWithin, decideAt, hx, Option.bind_some, ih hxs]
    split <;> rfl

/-- An evaluation has no more formulas under evaluation at once than the formula is high. -/
theorem evalWithin_of_height_le {s : Scope} {x : Formula} {n : Nat} (h : x.height ≤ n) :
    evalWithin s n x = some (eval s x) := by
  induction x using Formula.induction generalizing n with
  | literal v =>
    obtain ⟨m, rfl⟩ := Nat.exists_eq_add_of_le' h
    rw [height, evalWithin, eval]
  | path root keys =>
    obtain ⟨m, rfl⟩ := Nat.exists_eq_add_of_le' h
    rw [height, evalWithin, eval]
  | compare op left right ihl ihr =>
    obtain ⟨m, rfl⟩ := Nat.exists_eq_add_of_le' (Nat.le_trans (Nat.le_add_left 1 _) h)
    obtain ⟨hl, hr⟩ := Nat.max_le.mp (Nat.le_of_succ_le_succ h)
    rw [evalWithin, eval, ihl hl, ihr hr, Option.bind_some, Option.map_some]
  | all xs ih | any xs ih =>
    obtain ⟨m, rfl⟩ := Nat.exists_eq_add_of_le' (Nat.le_trans (Nat.le_add_left 1 _) h)
    have hxs : heightOf xs ≤ m := Nat.le_of_succ_le_succ h
    rw [evalWithin, eval, decideWithin_of_operands fun x hx =>
      ih x hx (Nat.le_trans (height_le_heightOf hx) hxs)]
  | not x ih =>
    obtain ⟨m, rfl⟩ := Nat.exists_eq_add_of_le' (Nat.le_trans (Nat.le_add_left 1 _) h)
    rw [evalWithin, eval, ih (Nat.le_of_succ_le_succ h), Option.map_some]

/-- **Parsed formulas are low, whatever their length**: three nodes for each negation or parenthesis
that may be open, and four more. Every chain in them has two operands or more, and evaluating them
never has more formulas under evaluation at once than they are high, in any scope. -/
theorem parsed_height_le {text : String} {x : Formula} (h : parse text = .ok x) :
    x.height ≤ 196 ∧
      (∀ xs, .all xs ∈ x.parts ∨ .any xs ∈ x.parts → 2 ≤ xs.length) ∧
      ∀ s, evalWithin s 196 x = some (eval s x) := by
  obtain ⟨d, -, hnesting, rfl⟩ := parse_eq_ok_iff.mp h
  have hheight : d.formula.height ≤ 196 := by
    have := d.height_formula_le
    have : d.nesting ≤ 64 := hnesting
    omega
  refine ⟨hheight, fun xs hxs => ?_, fun s => evalWithin_of_height_le hheight⟩
  rcases hxs with hall | hany
  · exact d.branching.1 .and xs hall
  · exact d.branching.1 .or xs hany

/-- A negated group with a chain in a chain. -/
theorem parsed_height_le_in_group :
    let x : Formula :=
      .not (.any
        [.all [.compare .equal (.path .data ["a"]) (.literal .null), .literal (.string "x")],
          .literal (.bool true)])
    parse "!(data.a == null && 'x' || true)" = .ok x ∧ x.height ≤ 196 ∧
      (∀ xs, .all xs ∈ x.parts ∨ .any xs ∈ x.parts → 2 ≤ xs.length) ∧
      ∀ s, evalWithin s 196 x = some (eval s x) := by
  intro x
  have hparse : parse "!(data.a == null && 'x' || true)" = .ok x :=
    parse_eq_ok_iff.mpr ⟨.last .or (.last .and (.lone (.not (.group
      (.link .or
        (.link .and (.compare .equal (.path "data" ["a"] (by decide)) (.literal .null))
          (.last .and (.lone (.literal (.text "x")))))
        (.last .or (.last .and (.lone (.literal .yes))))))))), by decide +kernel, by decide, rfl⟩
  exact ⟨hparse, parsed_height_le hparse⟩

end Formula
end PageBuilder
