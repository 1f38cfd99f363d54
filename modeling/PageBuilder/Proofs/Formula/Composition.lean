import PageBuilder.Formula.Eval
import PageBuilder.Proofs.Formula.Seams

/-!
# Formulas put together as texts

Texts in parentheses are put together to longer texts. Their tokens are put together likewise
(`kinds_between`, `kinds_not`), as parentheses are seams; so are their derivations, as long as two
levels of nesting are left; and so are their values (`conditions_compose`).
-/

namespace PageBuilder
namespace Formula

/-- A text in parentheses. -/
def grouped (text : String) : String := "(" ++ text ++ ")"

/-- A connective with blanks around it. -/
def Connective.text : Connective → String
  | and => " && "
  | or => " || "

theorem Connective.toList_text (c : Connective) :
    c.text.toList = ' ' :: (c.mark.chars ++ [' ']) := by cases c <;> rfl

/-- The tokens of the text are a formula, in which at most so many negations and parentheses stand
around any point. -/
def NestsWithin (levels : Nat) (text : String) : Prop :=
  ∃ d : Sentence, d.kinds = Token.kinds text ∧ d.nesting ≤ levels

/-! ### Tokens -/

namespace Token

/-- The kinds of the tokens of a text in parentheses. -/
def groupedKinds (text : String) : List TokenKind :=
  .mark .leftParen :: (kinds text ++ [.mark .rightParen])

/-- A text in parentheses is scanned to its last parenthesis, wherever it stands. -/
theorem scanFrom_grouped {text : String} (h : IsWhole text) (position : Nat) (more : List Char) :
    ∃ ts next, scanFrom position ((grouped text).toList ++ more) = ts ++ scanFrom next more ∧
      ts.map kind = groupedKinds text := by
  have hchars : (grouped text).toList ++ more =
      Mark.leftParen.chars ++ (text.toList ++ (Mark.rightParen.chars ++ more)) := by
    simp [grouped, Mark.chars]
  have hseam : ∀ c ∈ (Mark.rightParen.chars ++ more).head?, isSeam c = true := by
    rintro c ⟨⟩
    decide
  obtain ⟨ts, next, hscan, hts⟩ :=
    h.scanFrom_append hseam (position + Text.size Mark.leftParen.chars)
  refine ⟨⟨.mark .leftParen, position⟩ :: (ts ++ [⟨.mark .rightParen, next⟩]),
    next + Text.size Mark.rightParen.chars, ?_, ?_⟩
  · rw [hchars, scanFrom_mark rfl, hscan, scanFrom_mark rfl]
    simp
  · simp [groupedKinds, hts]

/-- Kinds of tokens that are followed by the end of the text. -/
theorem kinds_of_scan {text : String} {ts : List Token} {next : Nat}
    (h : scan text = ts ++ scanFrom next []) :
    kinds text = ts.map kind := by
  rw [kinds, h, scanFrom, List.dropLast_concat]

theorem kinds_grouped {text : String} (h : IsWhole text) :
    kinds (grouped text) = groupedKinds text := by
  obtain ⟨ts, next, hscan, hts⟩ := scanFrom_grouped h 0 []
  rw [List.append_nil] at hscan
  rw [kinds_of_scan hscan, hts]

theorem kinds_not {text : String} (h : IsWhole text) :
    kinds ("!" ++ grouped text) = .mark .not :: groupedKinds text := by
  obtain ⟨ts, next, hscan, hts⟩ := scanFrom_grouped h (0 + Text.size Mark.not.chars) []
  have hchars : ("!" ++ grouped text).toList = Mark.not.chars ++ ((grouped text).toList ++ []) := by
    simp [Mark.chars]
  have hmark : mark? (Mark.not.chars ++ ((grouped text).toList ++ [])) = some .not := by
    simp [grouped, Mark.chars, mark?]
  have hall : scan ("!" ++ grouped text) = (⟨.mark .not, 0⟩ :: ts) ++ scanFrom next [] := by
    rw [scan, hchars, scanFrom_mark hmark, hscan]
    rfl
  rw [kinds_of_scan hall, List.map_cons, hts]

/-- Two texts in parentheses, and a connective with blanks around it. -/
theorem kinds_between {a b : String} (ha : IsWhole a) (hb : IsWhole b) (c : Connective) :
    kinds (grouped a ++ c.text ++ grouped b) =
      groupedKinds a ++ .mark c.mark :: groupedKinds b := by
  have hmark : ∀ rest, mark? (c.mark.chars ++ rest) = some c.mark := by
    cases c <;> exact fun _ => rfl
  have hblank : Text.isBlank ' ' = true := by decide
  obtain ⟨ts, next, hscan, hts⟩ :=
    scanFrom_grouped ha 0 (' ' :: (c.mark.chars ++ ' ' :: ((grouped b).toList ++ [])))
  obtain ⟨ts', next', hscan', hts'⟩ :=
    scanFrom_grouped hb (next + ' '.utf8Size + Text.size c.mark.chars + ' '.utf8Size) []
  have hall : scan (grouped a ++ c.text ++ grouped b) =
      (ts ++ ⟨.mark c.mark, next + ' '.utf8Size⟩ :: ts') ++ scanFrom next' [] := by
    have hchars : (grouped a ++ c.text ++ grouped b).toList =
        (grouped a).toList ++ ' ' :: (c.mark.chars ++ ' ' :: ((grouped b).toList ++ [])) := by
          simp [c.toList_text]
    rw [scan, hchars, hscan, scanFrom_blank hblank, scanFrom_mark (hmark _),
      scanFrom_blank hblank, hscan']
    simp
  rw [kinds_of_scan hall, List.map_append, List.map_cons, hts, hts']

end Token

/-! ### Derivations -/

namespace Derivation

/-- A sentence in parentheses, as a comparison of one operand. -/
def enclosed (d : Sentence) : Derivation .comparison := .lone (.group d)

/-- The sentence of one comparison. -/
def alone (d : Derivation .comparison) : Sentence := .last .or (.last .and d)

/-- Two sentences, each in parentheses, around a connective. -/
def between (x y : Sentence) : Connective → Sentence
  | .and => .last .or (.link .and x.enclosed (.last .and y.enclosed))
  | .or => .link .or (.last .and x.enclosed) (.alone y.enclosed)

theorem kinds_between (x y : Sentence) (c : Connective) :
    (between x y c).kinds = x.enclosed.kinds ++ .mark c.mark :: y.enclosed.kinds := by
  cases c <;> rfl

theorem nesting_between (x y : Sentence) (c : Connective) :
    (between x y c).nesting = max (x.nesting + 1) (y.nesting + 1) := by
  cases c <;> rfl

theorem formula_between (x y : Sentence) (c : Connective) :
    (between x y c).formula = c.node [x.formula, y.formula] := by
  cases c <;> rfl

end Derivation

/-! ### Values -/

theorem holds_of_parse {text : String} {x : Formula} (h : parse text = .ok x) (s : Scope) :
    holds text s = isTruthy (eval s x) := by
  simp [holds, h]

theorem isTruthy_eval_all (s : Scope) (x y : Formula) :
    isTruthy (eval s (.all [x, y])) = (isTruthy (eval s x) && isTruthy (eval s y)) := by
  cases hx : isTruthy (eval s x) <;> cases hy : isTruthy (eval s y) <;>
    simp [eval, decideAt, hx, hy]

theorem isTruthy_eval_any (s : Scope) (x y : Formula) :
    isTruthy (eval s (.any [x, y])) = (isTruthy (eval s x) || isTruthy (eval s y)) := by
  cases hx : isTruthy (eval s x) <;> cases hy : isTruthy (eval s y) <;>
    simp [eval, decideAt, hx, hy]

/-- A chain has the truth at which it stops exactly if one of its operands has it. -/
theorem isTruthy_decideAt_eq_iff (s : Scope) (stop : Bool) (last : Option Json) (x : Formula)
    (xs : List Formula) :
    isTruthy (decideAt s stop last (x :: xs)) = stop ↔
      ∃ y ∈ x :: xs, isTruthy (eval s y) = stop := by
  induction xs generalizing x last with
  | nil => simp [decideAt]
  | cons y ys ih =>
    have hsplit : (∃ z ∈ x :: y :: ys, isTruthy (eval s z) = stop) ↔
        isTruthy (eval s x) = stop ∨ ∃ z ∈ y :: ys, isTruthy (eval s z) = stop := by simp
    rw [decideAt, hsplit]
    by_cases hx : isTruthy (eval s x) = stop
    · simp only [hx, if_true, true_or]
    · simp only [hx, if_false, false_or, ih]

/-- Operands joined by "and" hold if each of them does; a single one stands for itself. -/
theorem isTruthy_eval_join_all (s : Scope) {xs : List Formula} (h : xs ≠ []) :
    isTruthy (eval s (join .all xs)) = true ↔ ∀ x ∈ xs, isTruthy (eval s x) = true := by
  obtain ⟨x, xs, rfl⟩ := List.exists_cons_of_ne_nil h
  cases xs with
  | nil => simp [join]
  | cons y ys =>
    rw [join, eval, ← Bool.not_eq_false, isTruthy_decideAt_eq_iff]
    · simp
    · intro z hz
      cases hz

/-- What two texts in parentheses around a connective are parsed to. -/
theorem parse_between {a b : String} (ha : Token.IsWhole a) (hb : Token.IsWhole b) {x y : Sentence}
    (hx : x.kinds = Token.kinds a) (hy : y.kinds = Token.kinds b) (hxn : x.nesting < nestingLimit)
    (hyn : y.nesting < nestingLimit) (c : Connective) :
    parse (grouped a ++ c.text ++ grouped b) = .ok (c.node [x.formula, y.formula]) := by
  refine parse_eq_ok_iff.mpr ⟨Derivation.between x y c, ?_, ?_, Derivation.formula_between x y c⟩
  · rw [Derivation.kinds_between, Token.kinds_between ha hb, Token.groupedKinds,
      Token.groupedKinds, ← hx, ← hy]
    rfl
  · rw [Derivation.nesting_between]
    omega

/-- **Conditions compose as texts**: two texts that are all tokens, and formulas with two levels of
nesting left, are joined in parentheses by `&&` and `||` to formulas that hold if both hold, or if
one does; `!` and the parentheses around one hold if it does not; and parentheses alone leave the
formula as it is. -/
theorem conditions_compose {a b : String} (ha : Token.IsWhole a) (hb : Token.IsWhole b)
    (hna : NestsWithin 62 a) (hnb : NestsWithin 62 b) (s : Scope) :
    holds (grouped a ++ " && " ++ grouped b) s = (holds a s && holds b s) ∧
      holds (grouped a ++ " || " ++ grouped b) s = (holds a s || holds b s) ∧
      holds ("!" ++ grouped a) s = (!holds a s) ∧
      ∃ x, parse a = .ok x ∧ parse (grouped a) = .ok x := by
  obtain ⟨x, hx, hxn⟩ := hna
  obtain ⟨y, hy, hyn⟩ := hnb
  have hxlt : x.nesting < nestingLimit := Nat.lt_of_le_of_lt hxn (by decide)
  have hylt : y.nesting < nestingLimit := Nat.lt_of_le_of_lt hyn (by decide)
  have hparse : parse a = .ok x.formula := parse_eq_ok_iff.mpr ⟨x, hx, Nat.le_of_lt hxlt, rfl⟩
  have hparse' : parse b = .ok y.formula := parse_eq_ok_iff.mpr ⟨y, hy, Nat.le_of_lt hylt, rfl⟩
  rw [holds_of_parse hparse, holds_of_parse hparse']
  refine ⟨?_, ?_, ?_, x.formula, hparse, ?_⟩
  · exact (holds_of_parse (parse_between ha hb hx hy hxlt hylt .and) s).trans
      (isTruthy_eval_all s _ _)
  · exact (holds_of_parse (parse_between ha hb hx hy hxlt hylt .or) s).trans
      (isTruthy_eval_any s _ _)
  · have hnot : parse ("!" ++ grouped a) = .ok (.not x.formula) := by
      refine parse_eq_ok_iff.mpr ⟨.alone (.lone (.not (.group x))), ?_, ?_, rfl⟩
      · rw [Token.kinds_not ha, Token.groupedKinds, ← hx]
        rfl
      · show x.nesting + 1 + 1 ≤ nestingLimit
        exact Nat.add_le_add_right hxn 2
    rw [holds_of_parse hnot]
    simp [eval, isTruthy]
  · refine parse_eq_ok_iff.mpr ⟨.alone x.enclosed, ?_, hxlt, rfl⟩
    rw [Token.kinds_grouped ha, Token.groupedKinds, ← hx]
    rfl

/-- A comparison, and a negation with blanks around it. -/
theorem conditions_compose_compared :
    let s : Scope := { data := .object [("a", .string "x")] }
    NestsWithin 62 "data.a == 'x'" ∧ NestsWithin 62 " !false " ∧
      holds "(data.a == 'x') && ( !false )" s =
        (holds "data.a == 'x'" s && holds " !false " s) := by
  intro s
  have ha : NestsWithin 62 "data.a == 'x'" :=
    ⟨.alone (.compare .equal (.path "data" ["a"] (by decide)) (.literal (.text "x"))),
      by decide +kernel, by decide⟩
  have hb : NestsWithin 62 " !false " :=
    ⟨.alone (.lone (.not (.literal .no))), by decide +kernel, by decide⟩
  exact ⟨ha, hb, (conditions_compose (by decide +kernel) (by decide +kernel) ha hb s).1⟩

end Formula
end PageBuilder
