import PageBuilder.Proofs.Formula.Grammar

/-!
# Open negations and parentheses

`Derivation.counted` gives each token of a derivation the number of negations and parentheses that
are open there. Although the grammar says nothing about where a negation ends but that its operand
does, the tokens up to a place determine that number (`Derivation.eq_of_counted`): a pass over the
tokens that keeps a stack of open marks finds the same numbers (`counts_kinds`).
-/

namespace PageBuilder
namespace Formula

namespace Derivation

/-- The tokens of a derivation, each with the number of negations and parentheses that are open
there, itself included, if there are `n` around the derivation. -/
def counted : {l : Level} → Nat → Derivation l → List (TokenKind × Nat)
  | _, n, literal l => [(l.kind, n)]
  | _, n, path head keys _ => (.word head, n) :: (keyKinds keys).map fun k => (k, n)
  | _, n, not x => (.mark .not, n + 1) :: x.counted (n + 1)
  | _, n, group x =>
    (.mark .leftParen, n + 1) :: (x.counted (n + 1) ++ [(.mark .rightParen, n + 1)])
  | _, n, lone x => x.counted n
  | _, n, compare op left right => left.counted n ++ (.mark op.mark, n) :: right.counted n
  | _, n, last _ x => x.counted n
  | _, n, link c x xs => x.counted n ++ (.mark c.mark, n) :: xs.counted n

@[simp] theorem map_fst_counted {l : Level} (d : Derivation l) (n : Nat) :
    (d.counted n).map Prod.fst = d.kinds := by
  induction d generalizing n with
  | literal l => rfl
  | path head keys free => simp [counted, kinds, Function.comp_def]
  | not x ih => simp [counted, kinds, ih]
  | group x ih => simp [counted, kinds, ih]
  | lone x ih => exact ih n
  | compare op left right ihl ihr => simp [counted, kinds, ihl, ihr]
  | last c x ih => exact ih n
  | link c x xs ih ihs => simp [counted, kinds, ih, ihs]

end Derivation

/-! ### Counting with a stack -/

/-- What is left of a stack of open marks where an operand has ended: negations end with their
operand. -/
def settle (opened : List Mark) : List Mark := opened.dropWhile (· = .not)

/-- The number of marks that are open at a token, and the stack of them after it, from the stack
before it. -/
def countNext (opened : List Mark) : TokenKind → Nat × List Mark
  | .mark .not => (opened.length + 1, .not :: opened)
  | .mark .leftParen => (opened.length + 1, .leftParen :: opened)
  | .mark .rightParen => ((settle opened).length, (settle opened).tail)
  | .mark .dot | .word _ | .number _ | .text _ | .stop => (opened.length, opened)
  | .mark _ => ((settle opened).length, settle opened)

/-- Tokens, each with the number of marks that are open there. -/
def counts (opened : List Mark) : List TokenKind → List (TokenKind × Nat)
  | [] => []
  | k :: ks => (k, (countNext opened k).1) :: counts (countNext opened k).2 ks

theorem countNext_literal (l : Literal) (opened : List Mark) :
    countNext opened l.kind = (opened.length, opened) := by
  cases l <;> rfl

theorem countNext_comparison (op : Comparison) (opened : List Mark) :
    countNext opened (.mark op.mark) = ((settle opened).length, settle opened) := by
  cases op <;> rfl

theorem countNext_connective (c : Connective) (opened : List Mark) :
    countNext opened (.mark c.mark) = ((settle opened).length, settle opened) := by
  cases c <;> rfl

/-- Keys leave the stack alone. -/
theorem counts_keyKinds (opened : List Mark) (names : List String) (ks : List TokenKind) :
    counts opened (keyKinds names ++ ks) = (keyKinds names).map (fun k => (k, opened.length)) ++
      counts opened ks := by
  induction names with
  | nil => rfl
  | cons name names ih => simp [keyKinds, counts, countNext, ih]

/-- A derivation is counted right and leaves no more than negations on the stack. Where it may hold
marks of its own, no negation is open around it. -/
theorem counts_kinds {l : Level} (d : Derivation l) :
    ∀ {opened : List Mark}, (l ≠ .operand → settle opened = opened) →
    ∃ after, settle after = settle opened ∧
      ∀ ks, counts opened (d.kinds ++ ks) = d.counted opened.length ++ counts after ks := by
  induction d with
  | literal l =>
    intro opened _
    exact ⟨opened, rfl, fun ks => by
      simp [Derivation.kinds, Derivation.counted, counts, countNext_literal]⟩
  | path head keys free =>
    intro opened _
    exact ⟨opened, rfl, fun ks => by
      simp [Derivation.kinds, Derivation.counted, counts, countNext, counts_keyKinds]⟩
  | not x ih =>
    intro opened _
    obtain ⟨after, hafter, hx⟩ := @ih (.not :: opened) (by simp)
    exact ⟨after, hafter, fun ks => by
      simp [Derivation.kinds, Derivation.counted, counts, countNext, hx]⟩
  | group x ih =>
    intro opened _
    obtain ⟨after, hafter, hx⟩ := @ih (.leftParen :: opened) fun _ => rfl
    have hclose : settle after = .leftParen :: opened := hafter
    exact ⟨opened, rfl, fun ks => by
      simp [Derivation.kinds, Derivation.counted, counts, countNext, hx, hclose]⟩
  | lone x ih =>
    intro opened _
    exact ih (by simp)
  | compare op left right ihl ihr =>
    intro opened h
    have hsettled := h (by simp)
    obtain ⟨mid, hmid, hl⟩ := @ihl opened (by simp)
    obtain ⟨after, hafter, hr⟩ := @ihr opened (by simp)
    refine ⟨after, hafter, fun ks => ?_⟩
    simp [Derivation.kinds, Derivation.counted, counts, hl, countNext_comparison, hmid,
      hsettled, hr]
  | last c x ih =>
    intro opened h
    exact ih fun _ => h (by simp)
  | link c x xs ih ihs =>
    intro opened h
    have hsettled := h (by simp)
    obtain ⟨mid, hmid, hx⟩ := @ih opened fun _ => hsettled
    obtain ⟨after, hafter, hxs⟩ := @ihs opened h
    refine ⟨after, hafter, fun ks => ?_⟩
    simp [Derivation.kinds, Derivation.counted, counts, hx, countNext_connective, hmid,
      hsettled, hxs]

theorem counts_sentence (d : Sentence) : counts [] d.kinds = d.counted 0 := by
  obtain ⟨after, -, hd⟩ := @counts_kinds _ d [] fun _ => rfl
  have hall := hd []
  rwa [List.append_nil, counts, List.append_nil] at hall

/-- What follows a token does not change the count at it. -/
theorem count_eq_of_prefix {opened : List Mark} {ks more more' : List TokenKind} {k : TokenKind}
    {j j' : Nat} {before before' after after' : List (TokenKind × Nat)}
    (hbefore : before.map Prod.fst = ks) (hbefore' : before'.map Prod.fst = ks)
    (h : counts opened (ks ++ k :: more) = before ++ (k, j) :: after)
    (h' : counts opened (ks ++ k :: more') = before' ++ (k, j') :: after') : j = j' := by
  induction ks generalizing opened before before' with
  | nil =>
    obtain rfl := List.map_eq_nil_iff.mp hbefore
    obtain rfl := List.map_eq_nil_iff.mp hbefore'
    exact (Prod.mk.inj (List.cons_eq_cons.mp h).1).2.symm.trans
      (Prod.mk.inj (List.cons_eq_cons.mp h').1).2
  | cons k' ks ih =>
    obtain ⟨p, before, rfl, -, hks⟩ := List.map_eq_cons_iff.mp hbefore
    obtain ⟨p', before', rfl, -, hks'⟩ := List.map_eq_cons_iff.mp hbefore'
    exact ih hks hks' (List.cons_eq_cons.mp h).2 (List.cons_eq_cons.mp h').2

/-- Two sentences that begin alike have as many open marks at the last token that they share. -/
theorem Derivation.eq_of_counted {d e : Sentence} {k : TokenKind} {j j' : Nat}
    {before before' after after' : List (TokenKind × Nat)}
    (hd : d.counted 0 = before ++ (k, j) :: after) (he : e.counted 0 = before' ++ (k, j') :: after')
    (h : before.map Prod.fst = before'.map Prod.fst) : j = j' := by
  have hkinds : d.kinds = before.map Prod.fst ++ k :: after.map Prod.fst := by
    rw [← map_fst_counted d 0, hd]; simp
  have hkinds' : e.kinds = before.map Prod.fst ++ k :: after'.map Prod.fst := by
    rw [← map_fst_counted e 0, he, h]; simp
  rw [← counts_sentence, hkinds] at hd
  rw [← counts_sentence, hkinds'] at he
  exact count_eq_of_prefix rfl h.symm hd he

end Formula
end PageBuilder
