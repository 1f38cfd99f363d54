import PageBuilder.Proofs.Formula.Composition

/-!
# The algebra of chains

A chain yields the value of one of its operands, and not only its truth: the first operand whose
truth is the one at which the chain stops, or else the last one (`eval_node_eq`). So a chain inside
a chain of the same connective may be written without its parentheses (`eval_node_flatten`), and a
negation changes the connective as far as the truth goes (`isTruthy_not_node`); `chains_decide` puts
the laws together.
-/

namespace PageBuilder
namespace Formula

namespace Connective

/-- The truth at which a chain stops. -/
def stop : Connective → Bool
  | and => false
  | or => true

/-- The other connective. -/
def dual : Connective → Connective
  | and => or
  | or => and

theorem stop_dual (c : Connective) : c.dual.stop = !c.stop := by cases c <;> rfl

end Connective

variable (s : Scope)

theorem eval_node (c : Connective) (xs : List Formula) :
    eval s (c.node xs) = decideAt s c.stop none xs := by
  cases c <;> rw [Connective.node, eval, Connective.stop]

theorem isTruthy_eval_not (x : Formula) : isTruthy (eval s (.not x)) = !isTruthy (eval s x) := by
  rw [eval, isTruthy]

/-! ### The operand that decides -/

theorem decideAt_eq_elim (stop : Bool) (last : Option Json) (xs : List Formula) :
    decideAt s stop last xs =
      ((xs.find? fun x => isTruthy (eval s x) == stop).or xs.getLast?).elim last (eval s) := by
  induction xs generalizing last with
  | nil => rfl
  | cons x xs ih =>
    rw [decideAt]
    by_cases hx : isTruthy (eval s x) = stop
    · simp [hx]
    · -- the chain goes on with the value of `x`, which stays if nothing follows
      have hlast : (x :: xs).getLast? = some (xs.getLast?.getD x) := List.getLast?_cons
      rw [if_neg hx, ih, List.find?_cons_of_neg (by simpa using hx), hlast]
      cases xs.find? fun y => isTruthy (eval s y) == stop with
      | some y => rfl
      | none => cases xs.getLast? <;> rfl

/-- A chain has the value of the first operand that stops it, or else of the last one. -/
theorem eval_node_eq (c : Connective) (xs : List Formula) :
    eval s (c.node xs) = ((xs.find? fun x => isTruthy (eval s x) == c.stop).or xs.getLast?).bind
      (eval s) := by
  rw [eval_node, decideAt_eq_elim]
  cases (xs.find? fun x => isTruthy (eval s x) == c.stop).or xs.getLast? <;> rfl

/-! ### Chains in chains -/

/-- With an operand to come, the value so far does not count. -/
theorem decideAt_of_ne_nil {xs : List Formula} (h : xs ≠ []) (stop : Bool)
    (last last' : Option Json) :
    decideAt s stop last xs = decideAt s stop last' xs := by
  obtain ⟨x, xs, rfl⟩ := List.exists_cons_of_ne_nil h
  rw [decideAt, decideAt]

theorem decideAt_append {xs : List Formula} (h : xs ≠ []) (ys : List Formula) (stop : Bool)
    (last : Option Json) :
    decideAt s stop last (xs ++ ys) =
      if isTruthy (decideAt s stop last xs) = stop then decideAt s stop last xs
      else decideAt s stop (decideAt s stop last xs) ys := by
  induction xs generalizing last with
  | nil => exact absurd rfl h
  | cons x xs ih =>
    rw [List.cons_append, decideAt, decideAt]
    by_cases hx : isTruthy (eval s x) = stop
    · simp only [hx, if_true]
    · simp only [hx, if_false]
      cases xs with
      | nil => simp [decideAt, hx]
      | cons y ys' => exact ih (List.cons_ne_nil _ _) _

theorem decideAt_flatten (c : Connective) {inner : List Formula} (h : inner ≠ [])
    (before after : List Formula) (last : Option Json) :
    decideAt s c.stop last (before ++ c.node inner :: after) =
      decideAt s c.stop last (before ++ inner ++ after) := by
  induction before generalizing last with
  | nil =>
    rw [List.nil_append, List.nil_append, decideAt, eval_node, decideAt_append s h,
      decideAt_of_ne_nil s h c.stop none last]
  | cons x before ih =>
    rw [List.cons_append, List.cons_append, List.cons_append, decideAt, decideAt, ih]

/-- A chain inside a chain of the same connective has no parentheses of its own. -/
theorem eval_node_flatten (c : Connective) {inner : List Formula} (h : inner ≠ [])
    (before after : List Formula) :
    eval s (c.node (before ++ c.node inner :: after)) =
      eval s (c.node (before ++ inner ++ after)) := by
  rw [eval_node, eval_node, decideAt_flatten s c h]

/-! ### Negations -/

theorem isTruthy_node_eq_stop_iff (c : Connective) {xs : List Formula} (h : xs ≠ []) :
    isTruthy (eval s (c.node xs)) = c.stop ↔ ∃ x ∈ xs, isTruthy (eval s x) = c.stop := by
  obtain ⟨x, xs, rfl⟩ := List.exists_cons_of_ne_nil h
  rw [eval_node, isTruthy_decideAt_eq_iff]

/-- A negated operand stops the one chain if the operand itself stops the other. -/
theorem exists_not_eq_stop_iff (c : Connective) (xs : List Formula) :
    (∃ y ∈ xs.map .not, isTruthy (eval s y) = c.dual.stop) ↔
      ∃ x ∈ xs, isTruthy (eval s x) = c.stop := by
  rw [c.stop_dual]
  constructor
  · rintro ⟨y, hy, hstop⟩
    obtain ⟨x, hx, rfl⟩ := List.mem_map.mp hy
    rw [isTruthy_eval_not, Bool.not_inj_iff] at hstop
    exact ⟨x, hx, hstop⟩
  · rintro ⟨x, hx, hstop⟩
    exact ⟨.not x, List.mem_map_of_mem hx, by rw [isTruthy_eval_not, hstop]⟩

/-- A negated chain holds if the other chain of the negated operands does. -/
theorem isTruthy_not_node (c : Connective) {xs : List Formula} (h : xs ≠ []) :
    isTruthy (eval s (.not (c.node xs))) = isTruthy (eval s (c.dual.node (xs.map .not))) := by
  have hnot : xs.map Formula.not ≠ [] := fun hnil => h (List.map_eq_nil_iff.mp hnil)
  have hdual : isTruthy (eval s (c.dual.node (xs.map .not))) = !c.stop ↔
      isTruthy (eval s (c.node xs)) = c.stop := by
    rw [← c.stop_dual, isTruthy_node_eq_stop_iff s _ hnot, isTruthy_node_eq_stop_iff s c h,
      exists_not_eq_stop_iff]
  rw [isTruthy_eval_not]
  by_cases hstop : isTruthy (eval s (c.node xs)) = c.stop
  · rw [hdual.mpr hstop, hstop]
  · have hdual' : isTruthy (eval s (c.dual.node (xs.map .not))) = c.stop :=
      Bool.not_eq_not.mp (mt hdual.mp hstop)
    rw [hdual', Bool.eq_not.mpr hstop, Bool.not_not]

/-- **Chains by value**: in a chain, a chain of the same connective that has operands may be
replaced by these, wherever it stands, and the value stays, be it undefined. A chain has the value
of its first operand that stops it, a falsy one for "and" and a truthy one for "or", or else of its
last. The negation of a chain with operands holds if the other chain of their negations does, and
two negations give the truth of what is negated. -/
theorem chains_decide (c : Connective) :
    (∀ before inner after, inner ≠ [] →
      eval s (c.node (before ++ c.node inner :: after)) =
        eval s (c.node (before ++ inner ++ after))) ∧
    (∀ xs, eval s (c.node xs) =
      ((xs.find? fun x => isTruthy (eval s x) == c.stop).or xs.getLast?).bind (eval s)) ∧
    (∀ xs, xs ≠ [] →
      isTruthy (eval s (.not (c.node xs))) = isTruthy (eval s (c.dual.node (xs.map .not)))) ∧
    ∀ x, eval s (.not (.not x)) = some (.bool (isTruthy (eval s x))) := by
  refine ⟨fun before inner after h => eval_node_flatten s c h before after, eval_node_eq s c,
    fun xs h => isTruthy_not_node s c h, fun x => ?_⟩
  rw [eval, isTruthy_eval_not, Bool.not_not]

/-- A chain of falsy operands, the last of which is undefined, in a chain with `null` before it. -/
theorem chains_decide_undefined :
    let s : Scope := {}
    let inner : List Formula := [.literal (.string ""), .path .data ["a"]]
    inner ≠ [] ∧ eval s (.any [.literal .null, .any inner]) =
      eval s (.any (.literal .null :: inner)) ∧
      eval s (.any (.literal .null :: inner)) = none ∧
      isTruthy (eval s (.not (.any inner))) = isTruthy (eval s (.all (inner.map .not))) := by
  intro s inner
  have h : inner ≠ [] := List.cons_ne_nil _ _
  obtain ⟨hflatten, hvalue, hnot, -⟩ := chains_decide s .or
  exact ⟨h, hflatten [.literal .null] inner [] h, hvalue _, hnot inner h⟩

end Formula
end PageBuilder
