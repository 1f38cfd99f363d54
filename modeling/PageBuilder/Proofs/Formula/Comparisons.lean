import PageBuilder.Formula.Eval
import PageBuilder.Proofs.Json.Equivalence

/-!
# The comparisons of formulas

Equality and order are two functions with cases of their own, yet they fit together: two numbers,
and two texts, stand in one of three orders, from which all six comparisons are read off
(`holds_of_order?`). No other two values are ordered, and equality is an equivalence on all values
and what is undefined (`equals_equivalence`).
-/

namespace PageBuilder

namespace Json

/-- A number as a decimal; any other value as it is. -/
def asDecimal : Json → Json
  | .number n => .number (.float n.toFloat)
  | v => v

end Json

namespace Formula

/-! ### Equality -/

/-- Equality is structural equality once numbers have been made decimals. -/
theorem equals_some (v w : Json) : equals (some v) (some w) = v.asDecimal.same w.asDecimal := by
  cases v <;> cases w <;> rfl

theorem equals_none_left {v : Option Json} : equals none v = true ↔ v = none := by
  cases v <;> simp [equals]

theorem equals_none_right {v : Option Json} : equals v none = true ↔ v = none := by
  cases v <;> simp [equals]

theorem equals_equivalence : Equivalence fun v w : Option Json => equals v w = true where
  refl v := by
    cases v with
    | none => rfl
    | some v =>
      rw [equals_some]
      exact Json.same_equivalence.refl _
  symm {v w} h := by
    cases v with
    | none => rw [equals_none_left.mp h, equals_none_left]
    | some v =>
      cases w with
      | none => cases equals_none_right.mp h
      | some w =>
        rw [equals_some] at h ⊢
        exact Json.same_equivalence.symm h
  trans {u v w} h h' := by
    cases v with
    | none =>
      rw [equals_none_right.mp h]
      exact h'
    | some v =>
      cases u with
      | none => cases equals_none_left.mp h
      | some u =>
        cases w with
        | none => cases equals_none_right.mp h'
        | some w =>
          rw [equals_some] at h h' ⊢
          exact Json.same_equivalence.trans h h'

/-! ### Order -/

/-- Two numbers, or two texts. -/
inductive Comparable : Option Json → Option Json → Prop where
  | numbers (m n : Number) : Comparable (some (.number m)) (some (.number n))
  | texts (s t : String) : Comparable (some (.string s)) (some (.string t))

variable {u v w : Option Json}

theorem order?_numbers (m n : Number) :
    order? (some (.number m)) (some (.number n)) =
      some (Ord.compare m.toFloat.value n.toFloat.value) := rfl

theorem order?_texts (s t : String) :
    order? (some (.string s)) (some (.string t)) = some (Ord.compare s t) := rfl

theorem comparable_of_order? {o : Ordering} (h : order? v w = some o) : Comparable v w := by
  unfold order? at h
  split at h
  case h_1 m n => exact .numbers m n
  case h_2 s t => exact .texts s t
  case h_3 => cases h

theorem order?_eq_none (h : ¬ Comparable v w) : order? v w = none := by
  cases ho : order? v w with
  | none => rfl
  | some o => exact absurd (comparable_of_order? ho) h

/-- Comparable operands stand in some order, and are equal if it is the order of equals. -/
theorem exists_order? (h : Comparable v w) :
    ∃ o, order? v w = some o ∧ equals v w = (o == .eq) := by
  cases h with
  | numbers m n =>
    refine ⟨_, order?_numbers m n, ?_⟩
    show (m.toFloat.value == n.toFloat.value) = _
    rw [Bool.eq_iff_iff, beq_iff_eq, beq_iff_eq, Std.LawfulEqOrd.compare_eq_iff_eq]
  | texts s t =>
    refine ⟨_, order?_texts s t, ?_⟩
    show (s == t) = _
    rw [Bool.eq_iff_iff, beq_iff_eq, beq_iff_eq, Std.LawfulEqOrd.compare_eq_iff_eq]

theorem less_holds_iff : Comparison.less.holds v w = true ↔ order? v w = some .lt := by
  unfold Comparison.holds
  cases order? v w with
  | none => simp
  | some o => cases o <;> simp

theorem less_holds_trans (h : Comparison.less.holds u v = true)
    (h' : Comparison.less.holds v w = true) :
    Comparison.less.holds u w = true := by
  rw [less_holds_iff] at h h' ⊢
  cases comparable_of_order? h with
  | numbers m n =>
    cases comparable_of_order? h' with
    | numbers n k =>
      rw [order?_numbers, Option.some.injEq] at h h' ⊢
      exact Std.TransCmp.lt_trans h h'
  | texts s t =>
    cases comparable_of_order? h' with
    | texts t r =>
      rw [order?_texts, Option.some.injEq] at h h' ⊢
      exact Std.TransCmp.lt_trans h h'

/-- The six comparisons of comparable operands. -/
theorem holds_of_comparable (h : Comparable v w) :
    [Comparison.less, .equal, .greater].countP (fun op => op.holds v w) = 1 ∧
      Comparison.atMost.holds v w = (Comparison.less.holds v w || Comparison.equal.holds v w) ∧
      Comparison.atLeast.holds v w =
        (Comparison.greater.holds v w || Comparison.equal.holds v w) := by
  obtain ⟨o, horder, hequals⟩ := exists_order? h
  unfold Comparison.holds
  rw [horder, hequals]
  cases o <;> decide

/-- Other operands are in no order. -/
theorem holds_of_not_comparable (h : ¬ Comparable v w) {op : Comparison} (hne : op ≠ .equal)
    (hne' : op ≠ .notEqual) :
    op.holds v w = false := by
  have horder : order? v w = none := order?_eq_none h
  cases op with
  | equal => exact absurd rfl hne
  | notEqual => exact absurd rfl hne'
  | greater | atLeast | less | atMost =>
    rw [Comparison.holds, horder]
    rfl

/-! ### What the values are compared by -/

theorem less_holds_numbers_iff {m n : Number} :
    Comparison.less.holds (some (.number m)) (some (.number n)) = true ↔
      m.toFloat.value < n.toFloat.value := by
  rw [less_holds_iff, order?_numbers, Option.some.injEq]
  exact compareOfLessAndEq_eq_lt

theorem equal_holds_numbers_iff {m n : Number} :
    Comparison.equal.holds (some (.number m)) (some (.number n)) = true ↔
      m.toFloat.value = n.toFloat.value :=
  Finite64.same_iff _ _

theorem less_holds_texts_iff {s t : String} :
    Comparison.less.holds (some (.string s)) (some (.string t)) = true ↔ s < t := by
  rw [less_holds_iff, order?_texts, Option.some.injEq]
  exact compareOfLessAndEq_eq_lt

theorem equal_holds_texts_iff {s t : String} :
    Comparison.equal.holds (some (.string s)) (some (.string t)) = true ↔ s = t :=
  beq_iff_eq

/-- **The comparisons cohere**: of two numbers, and of two texts, exactly one of `<`, `==` and `>`
holds; `<=` holds if `<` or `==` does, and `>=` if `>` or `==` does. Numbers are compared by their
binary64 values, and texts character by character. Any other two operands, undefined ones too, are
in no order. `<` is transitive, `!=` is the negation of `==`, and `==` is an equivalence in which
what is undefined equals nothing else. -/
theorem comparisons_cohere :
    (∀ v w, Comparable v w →
      [Comparison.less, .equal, .greater].countP (fun op => op.holds v w) = 1 ∧
      Comparison.atMost.holds v w = (Comparison.less.holds v w || Comparison.equal.holds v w) ∧
      Comparison.atLeast.holds v w = (Comparison.greater.holds v w || Comparison.equal.holds v w)) ∧
    (∀ m n : Number,
      (Comparison.less.holds (some (.number m)) (some (.number n)) = true ↔
        m.toFloat.value < n.toFloat.value) ∧
      (Comparison.equal.holds (some (.number m)) (some (.number n)) = true ↔
        m.toFloat.value = n.toFloat.value)) ∧
    (∀ s t : String,
      (Comparison.less.holds (some (.string s)) (some (.string t)) = true ↔ s < t) ∧
      (Comparison.equal.holds (some (.string s)) (some (.string t)) = true ↔ s = t)) ∧
    (∀ u v w, Comparison.less.holds u v = true → Comparison.less.holds v w = true →
      Comparison.less.holds u w = true) ∧
    (∀ v w, ¬ Comparable v w → ∀ op : Comparison, op ≠ .equal → op ≠ .notEqual →
      op.holds v w = false) ∧
    (∀ v w, Comparison.notEqual.holds v w = !Comparison.equal.holds v w) ∧
    Equivalence (fun v w => Comparison.equal.holds v w = true) ∧
    ∀ v, Comparison.equal.holds none v = true ↔ v = none :=
  ⟨fun _ _ => holds_of_comparable, fun _ _ => ⟨less_holds_numbers_iff, equal_holds_numbers_iff⟩,
    fun _ _ => ⟨less_holds_texts_iff, equal_holds_texts_iff⟩, fun _ _ _ => less_holds_trans,
    fun _ _ h _ => holds_of_not_comparable h, fun _ _ => rfl, equals_equivalence, fun _ =>
      equals_none_left⟩

/-- Two integers that are one as binary64 numbers, three texts in a row, and `null` beside what is
undefined. -/
theorem comparisons_cohere_rounded :
    let large : Option Json := some (.number (.int 9007199254740992))
    let larger : Option Json := some (.number (.int 9007199254740993))
    let a : Option Json := some (.string "a")
    let b : Option Json := some (.string "ab")
    let c : Option Json := some (.string "é")
    Comparable large larger ∧ Comparison.atMost.holds larger large = true ∧
      Comparison.less.holds a b = true ∧ Comparison.less.holds b c = true ∧
      Comparison.less.holds a c = true ∧
      ¬ Comparable (some .null) none ∧ Comparison.atMost.holds (some .null) none = false := by
  intro large larger a b c
  obtain ⟨hcomparable, hnumbers, htexts, htrans, hnot, -⟩ := comparisons_cohere
  have hequal : Comparison.equal.holds larger large = true :=
    (hnumbers _ _).2.mpr (by decide +kernel)
  have hab : Comparison.less.holds a b = true := (htexts _ _).1.mpr (by decide)
  have hbc : Comparison.less.holds b c = true := (htexts _ _).1.mpr (by decide)
  have hnull : ¬ Comparable (some .null) none := by
    intro h
    cases h
  refine ⟨.numbers _ _, ?_, hab, hbc, htrans a b c hab hbc, hnull,
    hnot _ _ hnull .atMost (by decide) (by decide)⟩
  rw [(hcomparable larger large (.numbers _ _)).2.1, hequal, Bool.or_true]

end Formula
end PageBuilder
