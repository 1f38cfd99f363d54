import PageBuilder.Formula.Parser

/-!
# The grammar of formulas

The grammar on its own, apart from any parser:

* `or := and ('||' and)*`, `and := cmp ('&&' cmp)*`, `cmp := unary (op unary)?`,
* `unary := '!' unary | primary`, `primary := literal | path | '(' or ')'`.

A `Derivation` is one way to build a stretch of tokens by these rules. It has the tokens that it
spells (`kinds`), the number of negations and parentheses around its deepest point (`nesting`), and
the formula that it stands for (`formula`).
-/

namespace PageBuilder
namespace Formula

/-! ### Words of the grammar -/

/-- The connectives that join operands in a chain. -/
inductive Connective where
  | and
  | or
deriving DecidableEq

namespace Connective

/-- The mark that stands between two operands. -/
def mark : Connective → Mark
  | and => .and
  | or => .or

/-- The formula of a chain of two or more operands. -/
def node : Connective → List Formula → Formula
  | and => .all
  | or => .any

end Connective

/-- The mark of a comparison. -/
def Comparison.mark : Comparison → Mark
  | .equal => .equal
  | .notEqual => .notEqual
  | .greater => .greater
  | .atLeast => .atLeast
  | .less => .less
  | .atMost => .atMost

/-- The literals. -/
inductive Literal where
  | number (x : Binary64)
  | text (s : String)
  | yes
  | no
  | null

namespace Literal

/-- The token of a literal. -/
def kind : Literal → TokenKind
  | number x => .number x
  | text s => .text s
  | yes => .word "true"
  | no => .word "false"
  | null => .word "null"

/-- The value of a literal. -/
def value : Literal → Json
  | number x => numberLiteral x
  | text s => .string s
  | yes => .bool true
  | no => .bool false
  | null => .null

end Literal

/-- The words that are literals where a path could begin. -/
def reservedWords : List String := ["true", "false", "null"]

/-! ### Derivations -/

/-- The levels of the grammar, the tightest first: a unary formula, a comparison, and the two
chains. -/
inductive Level where
  | operand
  | comparison
  | chain (c : Connective)
deriving DecidableEq

/-- The level of the operands of a chain: comparisons between `&&`, and those chains between
`||`. -/
def Connective.inner : Connective → Level
  | and => .comparison
  | or => .chain .and

/-- The marks with which a derivation of a level could go on. -/
def Level.joiners : Level → List Mark
  | .operand => [.dot]
  | .comparison => [.dot, .equal, .notEqual, .greater, .atLeast, .less, .atMost]
  | .chain .and => [.dot, .equal, .notEqual, .greater, .atLeast, .less, .atMost, .and]
  | .chain .or => [.dot, .equal, .notEqual, .greater, .atLeast, .less, .atMost, .and, .or]

/-- A derivation of a level ends before these tokens, as none of its joiners comes next. -/
def Level.Closed (l : Level) (ks : List TokenKind) : Prop :=
  ∀ m ∈ l.joiners, ks.head? ≠ some (.mark m)

namespace Level

theorem closed_nil (l : Level) : l.Closed [] := by simp [Closed]

theorem closed_mark_cons {l : Level} {m : Mark} {ks : List TokenKind} :
    l.Closed (.mark m :: ks) ↔ m ∉ l.joiners := by
  simp only [Closed, List.head?_cons, ne_eq, Option.some.injEq, TokenKind.mark.injEq]
  exact ⟨fun h hm => h m hm rfl, fun h j hj e => h (e ▸ hj)⟩

theorem operand_closed_iff {ks : List TokenKind} :
    operand.Closed ks ↔ ks.head? ≠ some (.mark .dot) := by
  simp [Closed, joiners]

theorem closed_stop_cons (l : Level) (ks : List TokenKind) :
    l.Closed (.stop :: ks) := by simp [Closed]

/-- Where a level is closed, so is every tighter one. -/
theorem Closed.mono {l l' : Level} {ks : List TokenKind} (h : l'.Closed ks)
    (hl : l.joiners ⊆ l'.joiners) :
    l.Closed ks := fun m hm => h m (hl hm)

theorem Closed.inner {c : Connective} {ks : List TokenKind} (h : (chain c).Closed ks) :
    c.inner.Closed ks :=
  h.mono (by cases c <;> decide)

theorem Closed.operand {ks : List TokenKind} (h : comparison.Closed ks) : operand.Closed ks :=
  h.mono (by decide)

/-- An operand of a chain ends before the mark of the chain. -/
theorem inner_closed_mark (c : Connective) (ks : List TokenKind) :
    c.inner.Closed (.mark c.mark :: ks) :=
  closed_mark_cons.mpr (by cases c <;> decide)

theorem not_closed_mark (c : Connective) (ks : List TokenKind) :
    ¬ (chain c).Closed (.mark c.mark :: ks) :=
  fun h => closed_mark_cons.mp h (by cases c <;> decide)

/-- An operand of a comparison ends before the mark of the comparison. -/
theorem operand_closed_mark (op : Comparison) (ks : List TokenKind) :
    operand.Closed (.mark op.mark :: ks) :=
  closed_mark_cons.mpr (by cases op <;> decide)

theorem not_closed_comparison (op : Comparison) (ks : List TokenKind) :
    ¬ comparison.Closed (.mark op.mark :: ks) :=
  fun h => closed_mark_cons.mp h (by cases op <;> decide)

/-- Every level ends before a closing parenthesis. -/
theorem closed_rightParen (l : Level) (ks : List TokenKind) : l.Closed (.mark .rightParen :: ks) :=
  closed_mark_cons.mpr (by rcases l with _ | _ | _ | _ <;> decide)

end Level

/-- A derivation by the rules of the grammar. -/
inductive Derivation : Level → Type where
  | literal (l : Literal) : Derivation .operand
  | path (head : String) (keys : List String) (free : head ∉ reservedWords) : Derivation .operand
  | not (x : Derivation .operand) : Derivation .operand
  | group (x : Derivation (.chain .or)) : Derivation .operand
  | lone (x : Derivation .operand) : Derivation .comparison
  | compare (op : Comparison) (left right : Derivation .operand) : Derivation .comparison
  | last (c : Connective) (x : Derivation c.inner) : Derivation (.chain c)
  | link (c : Connective) (x : Derivation c.inner) (xs : Derivation (.chain c)) :
      Derivation (.chain c)

/-- The derivations of whole formulas. -/
abbrev Sentence : Type := Derivation (.chain .or)

/-- The tokens of the keys of a path: each key after a dot. Any word may be a key. -/
def keyKinds : List String → List TokenKind
  | [] => []
  | k :: ks => .mark .dot :: .word k :: keyKinds ks

namespace Derivation

/-- The tokens that a derivation spells. -/
def kinds : {l : Level} → Derivation l → List TokenKind
  | _, literal l => [l.kind]
  | _, path head keys _ => .word head :: keyKinds keys
  | _, not x => .mark .not :: x.kinds
  | _, group x => .mark .leftParen :: (x.kinds ++ [.mark .rightParen])
  | _, lone x => x.kinds
  | _, compare op left right => left.kinds ++ .mark op.mark :: right.kinds
  | _, last _ x => x.kinds
  | _, link c x xs => x.kinds ++ .mark c.mark :: xs.kinds

/-- The largest number of negations and parentheses around one point. -/
def nesting : {l : Level} → Derivation l → Nat
  | _, literal _ => 0
  | _, path .. => 0
  | _, not x => x.nesting + 1
  | _, group x => x.nesting + 1
  | _, lone x => x.nesting
  | _, compare _ left right => max left.nesting right.nesting
  | _, last _ x => x.nesting
  | _, link _ x xs => max x.nesting xs.nesting

mutual

/-- The formula of a derivation. A chain of two or more operands is one node; a single operand and
parentheses add none. -/
def formula : {l : Level} → Derivation l → Formula
  | _, literal l => .literal l.value
  | _, path head keys _ => .path (.ofName head) keys
  | _, not x => .not x.formula
  | _, group x => x.formula
  | _, lone x => x.formula
  | _, compare op left right => .compare op left.formula right.formula
  | _, last _ x => x.formula
  | _, link c x xs => c.node (x.formula :: xs.operands)

/-- The formulas of the operands of a chain, in their order. -/
def operands : {l : Level} → Derivation l → List Formula
  | _, last _ x => [x.formula]
  | _, link _ x xs => x.formula :: xs.operands
  | _, literal _ | _, path .. | _, not _ | _, group _ | _, lone _ | _, compare .. => []

end

/-- The token that comes next is none with which a derivation could go on. -/
def Ended : {l : Level} → Derivation l → Option TokenKind → Prop
  | _, literal _, _ => True
  | _, path .., next => next ≠ some (.mark .dot)
  | _, not x, next => x.Ended next
  | _, group _, _ => True
  | _, lone x, next => x.Ended next ∧ ∀ op : Comparison, next ≠ some (.mark op.mark)
  | _, compare _ _ right, next => right.Ended next
  | _, last c x, next => x.Ended next ∧ next ≠ some (.mark c.mark)
  | _, link _ _ xs, next => xs.Ended next

/-- Where a level is closed, all its derivations are ended. -/
theorem ended_of_closed {l : Level} (d : Derivation l) {ks : List TokenKind} (h : l.Closed ks) :
    d.Ended ks.head? := by
  induction d with
  | literal l => trivial
  | path head keys free => exact h .dot (by decide)
  | not x ih => exact ih h
  | group x ih => trivial
  | lone x ih => exact ⟨ih h.operand, fun op => h op.mark (by cases op <;> decide)⟩
  | compare op left right ihl ihr => exact ihr h.operand
  | last c x ih => exact ⟨ih h.inner, h c.mark (by cases c <;> decide)⟩
  | link c x xs ih ihs => exact ihs h

/-- Sentences side by side: each in parentheses, and `&&` between two. -/
def sideBySide (x : Sentence) : List Sentence → Derivation (.chain .and)
  | [] => .last .and (.lone (.group x))
  | y :: ys => .link .and (.lone (.group x)) (sideBySide y ys)

/-- Side by side, sentences nest one level deeper than the deepest of them, however many they
are. -/
theorem nesting_sideBySide_le {n : Nat} {x : Sentence} {xs : List Sentence}
    (h : ∀ y ∈ x :: xs, y.nesting < n) :
    (sideBySide x xs).nesting ≤ n := by
  induction xs generalizing x with
  | nil => exact h x (by simp)
  | cons y ys ih =>
    exact Nat.max_le.mpr ⟨h x (by simp), ih fun z hz => h z (List.mem_cons_of_mem x hz)⟩

theorem operands_sideBySide (x : Sentence) (xs : List Sentence) :
    (sideBySide x xs).operands = (x :: xs).map formula := by
  induction xs generalizing x with
  | nil => rfl
  | cons y ys ih => simp [sideBySide, operands, formula, ih]

end Derivation
end Formula
end PageBuilder
