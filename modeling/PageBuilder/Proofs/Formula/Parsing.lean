import PageBuilder.Proofs.Formula.Reading
import PageBuilder.Proofs.Formula.TokenStream

/-!
# The parser reads the grammar

* `Sound`: what a parser of a level reads is spelled by a derivation of the level, within the limit
  of nesting, which is ended there.
* `Derivation.reads`: every derivation within the limit is read, up to a place where it is ended.
* `Derivation.eq_of_kinds_append`: the tokens determine the derivation, so the grammar is not
  ambiguous.

Together they say that a text is a formula exactly if its tokens have a derivation, and which
formula it is.
-/

namespace PageBuilder
namespace Formula

/-- The parser of a level below so many levels of nesting. -/
def Level.parser : Level → Nat → Parser Formula
  | .operand, n => Formula.operand n
  | .comparison, n => Formula.comparison (Formula.operand n)
  | .chain .and, n => conjunction (Formula.operand n)
  | .chain .or, n => disjunction (Formula.operand n)

theorem reads_chain_iff {c : Connective} {n : Nat} {ts rest : List Token} {x : Formula} :
    ((Level.chain c).parser n).Reads ts x rest ↔
      ∃ xs, Parser.Reads (chain c.mark (c.inner.parser n)) ts xs rest ∧ x = join c.node xs := by
  cases c <;> exact reads_map_iff

theorem Derivation.operands_ne_nil {c : Connective} (d : Derivation (.chain c)) :
    d.operands ≠ [] := by
  cases d <;> simp [operands]

/-- The formula of a chain is that of its operands put together. -/
theorem Derivation.formula_eq_join {c : Connective} (d : Derivation (.chain c)) :
    d.formula = join c.node d.operands := by
  cases d with
  | last _ x => simp [formula, operands, join]
  | link _ x xs =>
    obtain ⟨y, ys, hys⟩ := List.exists_cons_of_ne_nil xs.operands_ne_nil
    simp [formula, operands, hys, join]

/-! ### What is read has a derivation -/

/-- A parser reads derivations of its level only, within the limit of nesting, and reads them to
their end. -/
def Sound (l : Level) (n : Nat) : Prop :=
  ∀ ⦃ts x rest⦄, (l.parser n).Reads ts x rest →
    ∃ (d : Derivation l) (pre : List Token), ts = pre ++ rest ∧ pre.map Token.kind = d.kinds ∧
      d.nesting ≤ n ∧
      d.Ended (rest.head?.map Token.kind) ∧ d.formula = x

theorem sound_comparison {n : Nat} (h : Sound .operand n) : Sound .comparison n := by
  intro ts x rest hread
  rcases hread.comparison_cases with ⟨hread, hrest⟩ |
    ⟨op, left, right, t, mid, hleft, ht, hright, rfl⟩
  · obtain ⟨d, pre, hts, hpre, hn, hend, hx⟩ := h hread
    exact ⟨.lone d, pre, hts, hpre, hn, ⟨hend, hrest⟩, hx⟩
  · obtain ⟨d, pre, rfl, hpre, hn, -, rfl⟩ := h hleft
    obtain ⟨d', pre', rfl, hpre', hn', hend, rfl⟩ := h hright
    exact ⟨.compare op d d', pre ++ t :: pre', by simp, by simp [Derivation.kinds, hpre, ht, hpre'],
      Nat.max_le.mpr ⟨hn, hn'⟩, hend, rfl⟩

theorem sound_chain_operands {c : Connective} {n : Nat} (h : Sound c.inner n) {ts rest : List Token}
    {xs : List Formula} (hread : Parser.Reads (chain c.mark (c.inner.parser n)) ts xs rest) :
    ∃ (d : Derivation (.chain c)) (pre : List Token), ts = pre ++ rest ∧
      pre.map Token.kind = d.kinds ∧
      d.nesting ≤ n ∧ d.Ended (rest.head?.map Token.kind) ∧ d.operands = xs := by
  -- the rest of the chain is read off fewer tokens
  induction hk : ts.length using Nat.strongRecOn generalizing ts xs with
  | ind k ih =>
    rcases hread.chain_cases with ⟨x, hx, hrest, rfl⟩ | ⟨x, ys, t, mid, hx, ht, hys, rfl⟩
    · obtain ⟨d, pre, hts, hpre, hn, hend, rfl⟩ := h hx
      exact ⟨.last c d, pre, hts, hpre, hn, ⟨hend, hrest⟩, rfl⟩
    · have hlt : mid.length < k := by
        have := hx.1
        simp only [List.length_cons] at this
        omega
      obtain ⟨d', pre', rfl, hpre', hn', hend, rfl⟩ := ih _ hlt hys rfl
      obtain ⟨d, pre, rfl, hpre, hn, -, rfl⟩ := h hx
      exact ⟨.link c d d', pre ++ t :: pre', by simp, by simp [Derivation.kinds, hpre, ht, hpre'],
        Nat.max_le.mpr ⟨hn, hn'⟩, hend, rfl⟩

theorem sound_chain {c : Connective} {n : Nat} (h : Sound c.inner n) : Sound (.chain c) n := by
  intro ts x rest hread
  obtain ⟨xs, hxs, rfl⟩ := reads_chain_iff.mp hread
  obtain ⟨d, pre, hts, hpre, hn, hend, rfl⟩ := sound_chain_operands h hxs
  exact ⟨d, pre, hts, hpre, hn, hend, d.formula_eq_join⟩

theorem sound_sentence {n : Nat} (h : Sound .operand n) : Sound (.chain .or) n :=
  sound_chain (sound_chain (sound_comparison h))

theorem sound_atom {n : Nat} {ts rest : List Token} {x : Formula}
    (h : Parser.Reads atom ts x rest) :
    ∃ (d : Derivation .operand) (pre : List Token), ts = pre ++ rest ∧
      pre.map Token.kind = d.kinds ∧
      d.nesting ≤ n ∧ d.Ended (rest.head?.map Token.kind) ∧ d.formula = x := by
  rcases reads_atom_iff.mp h with ⟨t, l, rfl, ht, rfl⟩ |
    ⟨t, head, names, tail, rfl, ht, hfree, hkeys, rfl⟩
  · exact ⟨.literal l, [t], rfl, by simp [Derivation.kinds, ht], Nat.zero_le _, trivial, rfl⟩
  · obtain ⟨pre, rfl, hpre, hrest⟩ := keys_eq_ok_iff.mp hkeys
    exact ⟨.path head names hfree, t :: pre, rfl, by simp [Derivation.kinds, ht, hpre],
      Nat.zero_le _, List.head?_map ▸ Level.operand_closed_iff.mp hrest, rfl⟩

theorem sound_operand (n : Nat) : Sound .operand n := by
  induction n with
  | zero =>
    intro ts x rest hread
    change (operandWithin none).Reads ts x rest at hread
    rcases hread.operand_cases with ⟨_, _, _, _, _, _, hnone, _⟩ | ⟨_, _, _, _, _, hnone, _⟩ | hatom
    · simp at hnone
    · simp at hnone
    · exact sound_atom hatom
  | succ n ih =>
    intro ts x rest hread
    change (operandWithin (some (Formula.operand n))).Reads ts x rest at hread
    rcases hread.operand_cases with
      ⟨t, tail, inner, y, rfl, ht, hinner, hy, rfl⟩ | ⟨t, tail, inner, rfl, ht, hinner, hx⟩ | hatom
    · obtain rfl := Option.some.inj hinner
      obtain ⟨d, pre, rfl, hpre, hn, hend, rfl⟩ := ih hy
      exact ⟨.not d, t :: pre, rfl, by simp [Derivation.kinds, ht, hpre],
        Nat.succ_le_succ hn, hend, rfl⟩
    · obtain rfl := Option.some.inj hinner
      obtain ⟨close, hx, hclose⟩ := hx.group_cases
      obtain ⟨d, pre, rfl, hpre, hn, -, rfl⟩ := sound_sentence ih hx
      exact ⟨.group d, t :: (pre ++ [close]), by simp, by simp [Derivation.kinds, ht, hpre, hclose],
        Nat.succ_le_succ hn, trivial, rfl⟩
    · exact sound_atom hatom

theorem sound (l : Level) (n : Nat) : Sound l n :=
  match l with
  | .operand => sound_operand n
  | .comparison => sound_comparison (sound_operand n)
  | .chain .and => sound_chain (sound_comparison (sound_operand n))
  | .chain .or => sound_sentence (sound_operand n)

/-! ### What has a derivation is read -/

theorem reads_operand_of_atom {n : Nat} {ts rest : List Token} {x : Formula}
    (h : Parser.Reads atom ts x rest) :
    (Level.operand.parser n).Reads ts x rest := by
  cases n with
  | zero =>
    show (operandWithin none).Reads ts x rest
    exact reads_operand_atom h
  | succ n =>
    show (operandWithin (some (Formula.operand n))).Reads ts x rest
    exact reads_operand_atom h

namespace Derivation

/-- A derivation within the limit is read up to where it is ended, and a chain operand by
operand. -/
theorem reads {l : Level} (d : Derivation l) : ∀ {n : Nat} {pre rest : List Token}, d.nesting ≤ n →
    pre.map Token.kind = d.kinds → d.Ended (rest.head?.map Token.kind) →
    (l.parser n).Reads (pre ++ rest) d.formula rest ∧
      ∀ c, l = .chain c →
        Parser.Reads (chain c.mark (c.inner.parser n)) (pre ++ rest) d.operands rest := by
  induction d with
  | literal l =>
    intro n pre rest _ hpre _
    obtain ⟨t, rfl, ht⟩ : ∃ t, pre = [t] ∧ t.kind = l.kind := by
      simpa [kinds, List.map_eq_singleton_iff] using hpre
    exact ⟨reads_operand_of_atom (reads_atom_iff.mpr (.inl ⟨t, l, rfl, ht, rfl⟩)),
      fun _ hc => by cases hc⟩
  | path head keys free =>
    intro n pre rest _ hpre hrest
    obtain ⟨t, pre', rfl, ht, hpre'⟩ := List.map_eq_cons_iff.mp hpre
    have hkeys :=
      keys_eq_ok_iff.mpr ⟨pre', rfl, hpre', Level.operand_closed_iff.mpr (List.head?_map ▸ hrest)⟩
    exact ⟨reads_operand_of_atom
      (reads_atom_iff.mpr (.inr ⟨t, head, keys, _, rfl, ht, free, hkeys, rfl⟩)),
      fun _ hc => by cases hc⟩
  | not x ih =>
    intro n pre rest hn hpre hrest
    obtain ⟨t, pre', rfl, ht, hpre'⟩ := List.map_eq_cons_iff.mp hpre
    obtain ⟨m, rfl⟩ : ∃ m, n = m + 1 :=
      Nat.exists_eq_add_of_le' (Nat.le_trans (Nat.le_add_left 1 _) hn)
    exact ⟨reads_operand_not ht (ih (Nat.le_of_succ_le_succ hn) hpre' hrest).1,
      fun _ hc => by cases hc⟩
  | group x ih =>
    intro n pre rest hn hpre _
    obtain ⟨t, tail, rfl, ht, htail⟩ := List.map_eq_cons_iff.mp hpre
    obtain ⟨pre', close, rfl, hpre', hclose⟩ := List.map_eq_append_iff.mp htail
    obtain ⟨c, rfl, hc⟩ : ∃ c, close = [c] ∧ c.kind = .mark .rightParen := by
      simpa [List.map_eq_singleton_iff] using hclose
    obtain ⟨m, rfl⟩ : ∃ m, n = m + 1 :=
      Nat.exists_eq_add_of_le' (Nat.le_trans (Nat.le_add_left 1 _) hn)
    have hmid : x.Ended ((c :: rest).head?.map Token.kind) := by
      rw [List.head?_cons, Option.map_some, hc]
      exact x.ended_of_closed (Level.closed_rightParen _ [])
    have hx := (ih (Nat.le_of_succ_le_succ hn) hpre' hmid).1
    rw [List.cons_append, List.append_assoc]
    exact ⟨reads_operand_group ht (reads_group hx hc), fun _ hc => by cases hc⟩
  | lone x ih =>
    intro n pre rest hn hpre hrest
    exact ⟨reads_comparison_lone (ih hn hpre hrest.1).1 hrest.2, fun _ hc => by cases hc⟩
  | compare op left right ihl ihr =>
    intro n pre rest hn hpre hrest
    obtain ⟨hnl, hnr⟩ := Nat.max_le.mp hn
    obtain ⟨first, tail, rfl, hfirst, htail⟩ := List.map_eq_append_iff.mp hpre
    obtain ⟨t, second, rfl, ht, hsecond⟩ := List.map_eq_cons_iff.mp htail
    have hmid : left.Ended ((t :: (second ++ rest)).head?.map Token.kind) := by
      rw [List.head?_cons, Option.map_some, ht]
      exact left.ended_of_closed (Level.operand_closed_mark op [])
    rw [List.append_assoc]
    exact ⟨reads_comparison_compare (ihl hnl hfirst hmid).1 ht (ihr hnr hsecond hrest).1,
      fun _ hc => by cases hc⟩
  | last c x ih =>
    intro n pre rest hn hpre hrest
    have hread := reads_chain_last (ih hn hpre hrest.1).1 hrest.2
    refine ⟨reads_chain_iff.mpr ⟨_, hread, rfl⟩, fun c' hc => ?_⟩
    cases hc
    exact hread
  | link c x xs ih ihs =>
    intro n pre rest hn hpre hrest
    obtain ⟨hnx, hnxs⟩ := Nat.max_le.mp hn
    obtain ⟨first, tail, rfl, hfirst, htail⟩ := List.map_eq_append_iff.mp hpre
    obtain ⟨t, others, rfl, ht, hothers⟩ := List.map_eq_cons_iff.mp htail
    have hmid : x.Ended ((t :: (others ++ rest)).head?.map Token.kind) := by
      rw [List.head?_cons, Option.map_some, ht]
      exact x.ended_of_closed (Level.inner_closed_mark c [])
    have hread := reads_chain_link (ih hnx hfirst hmid).1 ht ((ihs hnxs hothers hrest).2 c rfl)
    rw [List.append_assoc]
    refine ⟨reads_chain_iff.mpr ⟨_, hread, (link c x xs).formula_eq_join⟩, fun c' hc => ?_⟩
    cases hc
    exact hread

/-! ### The grammar is not ambiguous -/

theorem keyKinds_append_inj {ks ks' : List String} {r s : List TokenKind}
    (h : keyKinds ks ++ r = keyKinds ks' ++ s) (hr : Level.operand.Closed r)
    (hs : Level.operand.Closed s) : ks = ks' ∧ r = s := by
  have hdot (k : String) (ks : List String) (r : List TokenKind) :
      ¬ Level.operand.Closed (keyKinds (k :: ks) ++ r) := fun h =>
        Level.closed_mark_cons.mp h (by decide)
  induction ks generalizing ks' with
  | nil =>
    cases ks' with
    | nil => exact ⟨rfl, h⟩
    | cons k' ks' =>
      obtain rfl : r = _ := h
      exact (hdot k' ks' s hr).elim
  | cons k ks ih =>
    cases ks' with
    | nil =>
      obtain rfl : _ = s := h
      exact (hdot k ks r hs).elim
    | cons k' ks' =>
      simp only [keyKinds, List.cons_append, List.cons.injEq, TokenKind.word.injEq, true_and] at h
      obtain ⟨rfl, hks⟩ := h
      obtain ⟨rfl, hrs⟩ := ih hks
      exact ⟨rfl, hrs⟩

/-- A word that may begin a path is no literal. -/
theorem kind_ne_word (l : Literal) {head : String} (free : head ∉ reservedWords) :
    l.kind ≠ .word head := by
  rintro h
  cases l <;> simp only [Literal.kind, TokenKind.word.injEq, reduceCtorEq] at h <;> subst h <;>
    exact free (by decide)

theorem kind_ne_mark (l : Literal) (m : Mark) : l.kind ≠ .mark m := by cases l <;> nofun

theorem kind_inj {l l' : Literal} (h : l.kind = l'.kind) : l = l' := by
  cases l <;> cases l' <;> simp_all [Literal.kind]

theorem mark_inj {op op' : Comparison} (h : op.mark = op'.mark) : op = op' := by
  have hop := (ofKind?_eq_some_iff (k := .mark op.mark)).mpr rfl
  rw [h, ofKind?_eq_some_iff.mpr rfl] at hop
  exact (Option.some.inj hop).symm

/-- Two derivations of a level that spell the heads of one list of tokens, each up to where it is
closed, are the same. -/
theorem eq_of_kinds_append {l : Level} (d : Derivation l) :
    ∀ (e : Derivation l) {r s : List TokenKind},
    d.kinds ++ r = e.kinds ++ s → l.Closed r → l.Closed s → d = e ∧ r = s := by
  induction d with
  | literal l =>
    intro e r s h hr hs
    cases e with
    | literal l' =>
      obtain ⟨hk, hrs⟩ := List.cons_eq_cons.mp h
      rw [kind_inj hk]
      exact ⟨rfl, hrs⟩
    | path head keys free => exact absurd (List.cons_eq_cons.mp h).1 (kind_ne_word l free)
    | not x => exact absurd (List.cons_eq_cons.mp h).1 (kind_ne_mark l _)
    | group x => exact absurd (List.cons_eq_cons.mp h).1 (kind_ne_mark l _)
  | path head keys free =>
    intro e r s h hr hs
    cases e with
    | literal l => exact absurd (List.cons_eq_cons.mp h).1.symm (kind_ne_word l free)
    | path head' keys' free' =>
      obtain ⟨hhead, hkeys⟩ := List.cons_eq_cons.mp h
      obtain rfl := TokenKind.word.inj hhead
      obtain ⟨rfl, hrs⟩ := keyKinds_append_inj hkeys hr hs
      exact ⟨rfl, hrs⟩
    | not x => cases (List.cons_eq_cons.mp h).1
    | group x => cases (List.cons_eq_cons.mp h).1
  | not x ih =>
    intro e r s h hr hs
    cases e with
    | literal l => exact absurd (List.cons_eq_cons.mp h).1.symm (kind_ne_mark l _)
    | path head keys free => cases (List.cons_eq_cons.mp h).1
    | not y =>
      obtain ⟨rfl, hrs⟩ := ih y (List.cons_eq_cons.mp h).2 hr hs
      exact ⟨rfl, hrs⟩
    | group y => cases (List.cons_eq_cons.mp h).1
  | group x ih =>
    intro e r s h hr hs
    cases e with
    | literal l => exact absurd (List.cons_eq_cons.mp h).1.symm (kind_ne_mark l _)
    | path head keys free => cases (List.cons_eq_cons.mp h).1
    | not y => cases (List.cons_eq_cons.mp h).1
    | group y =>
      rw [kinds, kinds, List.cons_append, List.cons_append, List.append_assoc,
        List.append_assoc] at h
      obtain ⟨rfl, hrs⟩ :=
        ih y (List.cons_eq_cons.mp h).2 (Level.closed_rightParen _ _) (Level.closed_rightParen _ _)
      exact ⟨rfl, (List.cons_eq_cons.mp hrs).2⟩
  | lone x ih =>
    intro e r s h hr hs
    cases e with
    | lone y =>
      obtain ⟨rfl, hrs⟩ := ih y h hr.operand hs.operand
      exact ⟨rfl, hrs⟩
    | compare op left right =>
      rw [kinds, kinds, List.append_assoc] at h
      obtain ⟨rfl, rfl⟩ := ih left h hr.operand (Level.operand_closed_mark op _)
      exact (Level.not_closed_comparison op _ hr).elim
  | compare op left right ihl ihr =>
    intro e r s h hr hs
    cases e with
    | lone y =>
      rw [kinds, kinds, List.append_assoc] at h
      obtain ⟨rfl, rfl⟩ := ihl y h (Level.operand_closed_mark op _) hs.operand
      exact (Level.not_closed_comparison op _ hs).elim
    | compare op' left' right' =>
      rw [kinds, kinds, List.append_assoc, List.append_assoc] at h
      obtain ⟨rfl, htail⟩ :=
        ihl left' h (Level.operand_closed_mark op _) (Level.operand_closed_mark op' _)
      obtain ⟨hop, hsecond⟩ := List.cons_eq_cons.mp htail
      obtain ⟨rfl, hrs⟩ := ihr right' hsecond hr.operand hs.operand
      obtain rfl := mark_inj (TokenKind.mark.inj hop)
      exact ⟨rfl, hrs⟩
  | last c x ih =>
    intro e r s h hr hs
    cases e with
    | last _ y =>
      obtain ⟨rfl, hrs⟩ := ih y h hr.inner hs.inner
      exact ⟨rfl, hrs⟩
    | link _ y ys =>
      rw [kinds, kinds, List.append_assoc] at h
      obtain ⟨rfl, rfl⟩ := ih y h hr.inner (Level.inner_closed_mark c _)
      exact (Level.not_closed_mark c _ hr).elim
  | link c x xs ih ihs =>
    intro e r s h hr hs
    cases e with
    | last _ y =>
      rw [kinds, kinds, List.append_assoc] at h
      obtain ⟨rfl, rfl⟩ := ih y h (Level.inner_closed_mark c _) hs.inner
      exact (Level.not_closed_mark c _ hs).elim
    | link _ y ys =>
      rw [kinds, kinds, List.append_assoc, List.append_assoc] at h
      obtain ⟨rfl, htail⟩ := ih y h (Level.inner_closed_mark c _) (Level.inner_closed_mark c _)
      obtain ⟨rfl, hrs⟩ := ihs ys (List.cons_eq_cons.mp htail).2 hr hs
      exact ⟨rfl, hrs⟩

theorem eq_of_kinds_eq {l : Level} {d e : Derivation l} (h : d.kinds = e.kinds) : d = e := by
  have := eq_of_kinds_append d e (by rw [h]) (Level.closed_nil l) (Level.closed_nil l)
  exact this.1

/-! ### Whole texts -/

theorem stop_not_mem_keyKinds (ks : List String) : TokenKind.stop ∉ keyKinds ks := by
  induction ks with
  | nil => simp [keyKinds]
  | cons k ks ih => simp [keyKinds, ih]

/-- No derivation spells a stop. -/
theorem stop_not_mem_kinds {l : Level} (d : Derivation l) : TokenKind.stop ∉ d.kinds := by
  induction d with
  | literal l => cases l <;> simp [kinds, Literal.kind]
  | path head keys free => simp [kinds, stop_not_mem_keyKinds]
  | not x ih => simp [kinds, ih]
  | group x ih => simp [kinds, ih]
  | lone x ih => exact ih
  | compare op left right ihl ihr => simp [kinds, ihl, ihr]
  | last c x ih => exact ih
  | link c x xs ih ihs => simp [kinds, ih, ihs]

end Derivation

/-- The first stop ends both of two equal lists of tokens. -/
theorem eq_of_append_stop {pre body tail : List Token} {t s : Token}
    (h : pre ++ t :: tail = body ++ [s]) (ht : t.kind = .stop)
    (hbody : ∀ u ∈ body, u.kind ≠ .stop) : pre = body := by
  rcases List.append_eq_append_iff.mp h with ⟨as, rfl, has⟩ | ⟨bs, rfl, hbs⟩
  · cases as with
    | nil => simp
    | cons a as =>
      obtain ⟨rfl, -⟩ := List.cons_eq_cons.mp has
      exact absurd ht (hbody t (by simp))
  · cases bs with
    | nil => simp
    | cons b bs => simp at hbs

/-- Tokens up to their stop are a formula exactly if a derivation within the limit spells them. -/
theorem ofTokens_eq_ok_iff {body : List Token} {last : Nat} {e : Formula}
    (hbody : ∀ t ∈ body, t.kind ≠ .stop) :
    ofTokens (body ++ [⟨.stop, last⟩]) = .ok e ↔
      ∃ d : Sentence, d.kinds = body.map Token.kind ∧ d.nesting ≤ nestingLimit ∧ d.formula = e := by
  constructor
  · intro h
    unfold ofTokens at h
    split at h
    case h_1 => simp at h
    case h_2 x hx hp =>
      obtain ⟨d, pre, hts, hpre, -⟩ := sound_sentence (sound_operand nestingLimit) ⟨hx, hp⟩
      rw [List.append_nil] at hts
      refine absurd ?_ d.stop_not_mem_kinds
      rw [← hpre, ← hts]
      simp
    case h_3 x t tail hx hp =>
      split_ifs at h with ht
      obtain ⟨d, pre, hts, hpre, hn, -, rfl⟩ := sound_sentence (sound_operand nestingLimit) ⟨hx, hp⟩
      obtain rfl := eq_of_append_stop hts.symm ht hbody
      exact ⟨d, hpre.symm, hn, Except.ok.inj h⟩
  · rintro ⟨d, hd, hn, rfl⟩
    have hstop : d.Ended ([(⟨.stop, last⟩ : Token)].head?.map Token.kind) :=
      d.ended_of_closed (Level.closed_stop_cons _ [])
    obtain ⟨_, hp⟩ := (d.reads hn hd.symm hstop).1
    change disjunction (Formula.operand nestingLimit) _ = _ at hp
    simp [ofTokens, hp]

theorem parse_eq_ok_iff {text : String} {e : Formula} :
    parse text = .ok e ↔ ∃ d : Sentence, d.kinds = Token.kinds text ∧ d.nesting ≤ nestingLimit ∧
      d.formula = e := by
  obtain ⟨body, last, hscan, hbody⟩ := Token.scan_eq text
  have hkinds : Token.kinds text = body.map Token.kind := by
    rw [Token.kinds, hscan, List.dropLast_concat]
  rw [parse, hscan, ofTokens_eq_ok_iff hbody, hkinds]

end Formula
end PageBuilder
