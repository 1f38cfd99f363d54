import PageBuilder.Proofs.Formula.Nesting
import PageBuilder.Proofs.Formula.Parsing
import PageBuilder.Proofs.Formula.Positions
import PageBuilder.Proofs.Formula.Rejection

/-!
# Errors point at the first offence

Where a parser fails, the tokens before are right: some derivation goes on after them
(`Level.Continues`). And the token there is wrong: whatever comes behind it, and however deep a
parser may nest, it fails too (`Level.Refuses`). Both are carried from the parser of a part to that
of the whole by one lemma (`Level.FailsAt.within`), and so from the operands in which an error
arises to whole texts (`parse_error_at_first_offence`).
-/

namespace PageBuilder
namespace Formula

/-! ### What goes on after some tokens -/

/-- Some derivation of the level goes on with the token `k` after the tokens `ks`; `j` negations and
parentheses are open at it, if `n` are open around the derivation. -/
def Level.Continues (l : Level) (n : Nat) (ks : List TokenKind) (k : TokenKind) (j : Nat) : Prop :=
  ∃ (d : Derivation l) (before after : List (TokenKind × Nat)),
    d.counted n = before ++ (k, j) :: after ∧ before.map Prod.fst = ks

namespace Level.Continues

variable {n j : Nat} {ks : List TokenKind} {k : TokenKind}

theorem lone (h : Level.operand.Continues n ks k j) : Level.comparison.Continues n ks k j := by
  obtain ⟨d, before, after, hd, hks⟩ := h
  exact ⟨.lone d, before, after, hd, hks⟩

theorem compare (left : Derivation .operand) (op : Comparison)
    (h : Level.operand.Continues n ks k j) :
    Level.comparison.Continues n (left.kinds ++ .mark op.mark :: ks) k j := by
  obtain ⟨d, before, after, hd, rfl⟩ := h
  exact ⟨.compare op left d, left.counted n ++ (.mark op.mark, n) :: before, after,
    by simp [Derivation.counted, hd], by simp⟩

theorem last {c : Connective} (h : c.inner.Continues n ks k j) :
    (Level.chain c).Continues n ks k j := by
  obtain ⟨d, before, after, hd, hks⟩ := h
  exact ⟨.last c d, before, after, hd, hks⟩

theorem link {c : Connective} (x : Derivation c.inner) (h : (Level.chain c).Continues n ks k j) :
    (Level.chain c).Continues n (x.kinds ++ .mark c.mark :: ks) k j := by
  obtain ⟨d, before, after, hd, rfl⟩ := h
  exact ⟨.link c x d, x.counted n ++ (.mark c.mark, n) :: before, after,
    by simp [Derivation.counted, hd], by simp⟩

theorem not (h : Level.operand.Continues (n + 1) ks k j) :
    Level.operand.Continues n (.mark .not :: ks) k j := by
  obtain ⟨d, before, after, hd, rfl⟩ := h
  exact ⟨.not d, (.mark .not, n + 1) :: before, after, by simp [Derivation.counted, hd], rfl⟩

theorem group (h : (Level.chain .or).Continues (n + 1) ks k j) :
    Level.operand.Continues n (.mark .leftParen :: ks) k j := by
  obtain ⟨d, before, after, hd, rfl⟩ := h
  exact ⟨.group d, (.mark .leftParen, n + 1) :: before, after ++ [(.mark .rightParen, n + 1)],
    by simp [Derivation.counted, hd], rfl⟩

/-- After a sentence in a parenthesis, the closing one. -/
theorem close (d : Sentence) (n : Nat) :
    Level.operand.Continues n (.mark .leftParen :: d.kinds) (.mark .rightParen) (n + 1) :=
  ⟨.group d, (.mark .leftParen, n + 1) :: d.counted (n + 1), [],
    by simp [Derivation.counted], by simp⟩

/-- After a dot, a key. -/
theorem key {head : String} (free : head ∉ reservedWords) (names : List String)
    (name : String) (n : Nat) :
    Level.operand.Continues n (.word head :: (keyKinds names ++ [.mark .dot])) (.word name) n := by
  have hkinds : keyKinds (names ++ [name]) = keyKinds names ++ [.mark .dot, .word name] := by
    induction names with
    | nil => rfl
    | cons other names ih => simp [keyKinds, ih]
  refine ⟨.path head (names ++ [name]) free,
    (.word head, n) :: (keyKinds names ++ [TokenKind.mark .dot]).map (fun k => (k, n)), [], ?_, ?_⟩
  · simp [Derivation.counted, hkinds]
  · simp [Function.comp_def]

/-- In the place of an operand, a literal. -/
theorem literal (l : Literal) (n : Nat) : Level.operand.Continues n [] l.kind n :=
  ⟨.literal l, [], [], rfl, rfl⟩

/-- In the place of an operand, a negation or a parenthesis. -/
theorem opening (hk : k = .mark .not ∨ k = .mark .leftParen) (n : Nat) :
    Level.operand.Continues n [] k (n + 1) := by
  rcases hk with rfl | rfl
  · exact ⟨.not (.literal .null), [], _, rfl, rfl⟩
  · exact ⟨.group (.last .or (.last .and (.lone (.literal .null)))), [], _, rfl, rfl⟩

end Level.Continues

/-! ### Where parsers fail -/

/-- Every parser of the level that may nest as deep fails on all tokens that begin with `pre` and
then have the head of `rest`. -/
def Level.Refuses (l : Level) (m : Nat) (pre rest : List Token) : Prop :=
  ∀ i ≥ m, ∀ rest', rest'.head? = rest.head? → ∃ e, l.parser i (pre ++ rest') = .error e

/-- The error of a parser that has `m` levels left, with `n` marks open around it: it stands at the
first token with which the level is refused, or at an opening mark with which one more is open than
there may be. -/
def Level.FailsAt (l : Level) (n m : Nat) (ts : List Token) (e : SyntaxError) : Prop :=
  ∃ pre rest, ts = pre ++ rest ∧
    ((∃ k j, l.Continues n (pre.map Token.kind) k j) ∧ l.Refuses m pre rest ∧ e = unexpected rest ∨
      ∃ t post, rest = t :: post ∧ (t.kind = .mark .not ∨ t.kind = .mark .leftParen) ∧
        l.Continues n (pre.map Token.kind) t.kind (n + m + 1) ∧ e = .tooDeep)

/-- A failure of a part, after tokens that the whole has read, is one of the whole. -/
theorem Level.FailsAt.within {l l' : Level} {n n' m m' : Nat} {ts : List Token} {e : SyntaxError}
    (h : l'.FailsAt n' m' ts e) (before : List Token) (hsum : n' + m' = n + m)
    (hbegins : ∀ ks k j, l'.Continues n' ks k j → l.Continues n (before.map Token.kind ++ ks) k j)
    (herror : ∀ i ≥ m, ∃ i' ≥ m', ∀ us e', l'.parser i' us = .error e' →
      l.parser i (before ++ us) = .error e') :
    l.FailsAt n m (before ++ ts) e := by
  obtain ⟨pre, rest, rfl, ⟨⟨k, j, hgo⟩, hrefuse, rfl⟩ | ⟨t, post, rfl, hopen, hgo, rfl⟩⟩ := h
  · refine ⟨before ++ pre, rest, by simp,
      .inl ⟨⟨k, j, by simpa using hbegins _ _ _ hgo⟩, fun i hi rest' hhead => ?_, rfl⟩⟩
    obtain ⟨i', hi', hpart⟩ := herror i hi
    obtain ⟨e', he'⟩ := hrefuse i' hi' rest' hhead
    exact ⟨e', by rw [List.append_assoc]; exact hpart _ _ he'⟩
  · rw [hsum] at hgo
    exact ⟨before ++ pre, t :: post, by simp,
      .inr ⟨t, post, rfl, hopen, by simpa using hbegins _ _ _ hgo, rfl⟩⟩

/-- So is a failure behind a mark that opens a level. -/
theorem Level.FailsAt.opened {l l' : Level} {n m : Nat} {t : Token} {ts : List Token}
    {e : SyntaxError} (h : l'.FailsAt (n + 1) m ts e)
    (hbegins : ∀ ks k j, l'.Continues (n + 1) ks k j → l.Continues n (t.kind :: ks) k j)
    (herror : ∀ i us e', l'.parser i us = .error e' → l.parser (i + 1) (t :: us) = .error e') :
    l.FailsAt n (m + 1) (t :: ts) e := by
  refine h.within [t] (by omega) hbegins fun i hi => ?_
  obtain ⟨i', rfl⟩ : ∃ i', i = i' + 1 := ⟨i - 1, by omega⟩
  exact ⟨i', Nat.le_of_succ_le_succ hi, herror i'⟩

/-- What a parser reads has a derivation, and every parser that may nest as deep reads it before the
same token. -/
theorem Parser.Reads.again {l : Level} {m : Nat} {ts rest : List Token} {x : Formula}
    (h : (l.parser m).Reads ts x rest) :
    ∃ (d : Derivation l) (pre : List Token), ts = pre ++ rest ∧ pre.map Token.kind = d.kinds ∧
      ∀ i ≥ m, ∀ rest', rest'.head? = rest.head? → (l.parser i).Reads (pre ++ rest') x rest' := by
  obtain ⟨d, pre, hts, hpre, hn, hend, rfl⟩ := sound l m h
  exact ⟨d, pre, hts, hpre, fun i hi rest' hhead =>
    (d.reads (Nat.le_trans hn hi) hpre (hhead ▸ hend)).1⟩

/-- Every error of the parser of a level with `m` levels left is as `FailsAt` says. -/
def Located (l : Level) (m : Nat) : Prop :=
  ∀ ⦃ts e⦄, l.parser m ts = .error e → ∀ n, l.FailsAt n m ts e

theorem located_comparison {m : Nat} (h : Located .operand m) : Located .comparison m := by
  intro ts e herr n
  rcases comparison_eq_error_iff.mp herr with hleft | ⟨op, left, t, mid, hleft, ht, hmid⟩
  · exact (h hleft n).within [] rfl (fun _ _ _ hgo => hgo.lone)
      fun i hi => ⟨i, hi, fun us e' he' => comparison_eq_error_iff.mpr (.inl he')⟩
  · obtain ⟨d, pre, rfl, hpre, hagain⟩ := Parser.Reads.again (l := .operand) hleft
    rw [List.append_cons]
    refine (h hmid n).within (pre ++ [t]) rfl (fun ks k j hgo => ?_) fun i hi =>
      ⟨i, hi, fun us e' he' => ?_⟩
    · simpa [hpre, ht] using hgo.compare d op
    · rw [← List.append_cons]
      exact comparison_eq_error_iff.mpr (.inr ⟨op, left, t, us, hagain i hi (t :: us) rfl, ht, he'⟩)

theorem chain_parser_eq_error_iff {c : Connective} {m : Nat} {ts : List Token} {e : SyntaxError} :
    (Level.chain c).parser m ts = .error e ↔ chain c.mark (c.inner.parser m) ts = .error e := by
  cases c <;> exact map_eq_error_iff

theorem located_chain {c : Connective} {m : Nat} (h : Located c.inner m) :
    Located (.chain c) m := by
  intro ts e herr n
  -- the rest of the chain has fewer tokens
  induction hk : ts.length using Nat.strongRecOn generalizing ts with
  | ind k ih =>
    rcases chain_eq_error_iff.mp (chain_parser_eq_error_iff.mp herr) with hfirst |
      ⟨x, t, mid, hx, ht, hmid⟩
    · exact (h hfirst n).within [] rfl (fun _ _ _ hgo => hgo.last)
        fun i hi =>
          ⟨i, hi, fun us e' he' =>
            chain_parser_eq_error_iff.mpr (chain_eq_error_iff.mpr (.inl he'))⟩
    · have hlt : mid.length < k := by
        have := hx.1
        simp only [List.length_cons] at this
        omega
      obtain ⟨d, pre, rfl, hpre, hagain⟩ := hx.again
      rw [List.append_cons]
      refine (ih _ hlt (chain_parser_eq_error_iff.mpr hmid) rfl).within (pre ++ [t]) rfl
        (fun ks k j hgo => ?_)
        fun i hi => ⟨i, hi, fun us e' he' => ?_⟩
      · simpa [hpre, ht] using hgo.link d
      · rw [← List.append_cons]
        exact chain_parser_eq_error_iff.mpr (chain_eq_error_iff.mpr
          (.inr ⟨x, t, us, hagain i hi (t :: us) rfl, ht, chain_parser_eq_error_iff.mp he'⟩))

theorem located_sentence {m : Nat} (h : Located .operand m) : Located (.chain .or) m :=
  located_chain (located_chain (located_comparison h))

/-- At a token that begins no operand, or after a path and a dot. -/
theorem located_atom {m : Nat} {ts : List Token} {e : SyntaxError}
    (hhead : ∀ t ∈ ts.head?, t.kind ≠ .mark .not ∧ t.kind ≠ .mark .leftParen)
    (h : atom ts = .error e) (n : Nat) :
    Level.operand.FailsAt n m ts e := by
  rcases atom_eq_error_iff.mp h with ⟨hstart, rfl⟩ | ⟨t, head, tail, rfl, ht, hfree, hkeys⟩
  · refine ⟨[], ts, rfl,
      .inl ⟨⟨_, n, .literal .null n⟩, fun i _ rest' hrest' => ⟨unexpected rest', ?_⟩, rfl⟩⟩
    rw [← hrest'] at hhead hstart
    exact operand_eq_error_iff.mpr
      (.inr (.inr (.inr ⟨hhead, atom_eq_error_iff.mpr (.inl ⟨hstart, rfl⟩)⟩)))
  · obtain ⟨pre, rest, names, rfl, hpre, hrest, rfl⟩ := keys_eq_error_iff.mp hkeys
    refine ⟨t :: pre, rest, rfl,
      .inl ⟨⟨.word "", n, ?_⟩, fun i _ rest' hrest' => ⟨unexpected rest', ?_⟩, rfl⟩⟩
    · rw [List.map_cons, ht, hpre]
      exact .key hfree names "" n
    · rw [← hrest'] at hrest
      have hkeys' := keys_eq_error_iff.mpr ⟨pre, rest', names, rfl, hpre, hrest, rfl⟩
      have hatom := atom_eq_error_iff.mpr (.inr ⟨t, head, pre ++ rest', rfl, ht, hfree, hkeys'⟩)
      refine operand_eq_error_iff.mpr (.inr (.inr (.inr ⟨?_, hatom⟩)))
      rintro u ⟨⟩
      exact hhead t rfl

theorem located_group {m : Nat} (h : Located .operand m) {t : Token}
    (ht : t.kind = .mark .leftParen) {ts : List Token} {e : SyntaxError}
    (herr : group (operand m) ts = .error e) (n : Nat) :
    Level.operand.FailsAt n (m + 1) (t :: ts) e := by
  have hopen (i : Nat) {us : List Token} {e' : SyntaxError}
      (he' : group (operand i) us = .error e') :
      Level.operand.parser (i + 1) (t :: us) = .error e' :=
    operand_eq_error_iff.mpr (.inr (.inr (.inl ⟨t, us, i, rfl, ht, rfl, he'⟩)))
  rcases group_eq_error_iff.mp herr with hinner | ⟨x, rest, hx, hrest, rfl⟩
  · refine (located_sentence h hinner (n + 1)).opened (fun ks k j hgo => ?_) fun i us e' he' => ?_
    · rw [ht]
      exact hgo.group
    · exact hopen i (group_eq_error_iff.mpr (.inl he'))
  · obtain ⟨d, pre, rfl, hpre, hagain⟩ := Parser.Reads.again (l := .chain .or) hx
    refine ⟨t :: pre, rest, rfl,
      .inl ⟨⟨.mark .rightParen, n + 1, ?_⟩, fun i hi rest' hrest' => ?_, rfl⟩⟩
    · rw [List.map_cons, ht, hpre]
      exact .close d n
    · obtain ⟨i', rfl⟩ : ∃ i', i = i' + 1 := ⟨i - 1, by omega⟩
      have hx' := hagain i' (Nat.le_of_succ_le_succ hi) rest' hrest'
      rw [← hrest'] at hrest
      exact ⟨unexpected rest', hopen i' (group_eq_error_iff.mpr (.inr ⟨x, rest', hx', hrest, rfl⟩))⟩

/-- Behind a mark that opens a level, the parser with one level less is at fault. -/
theorem located_operand (m : Nat) : Located .operand m := by
  induction m using Nat.strongRecOn with
  | ind m ih =>
    intro ts e herr n
    rcases operand_eq_error_iff.mp herr with ⟨t, tail, rfl, ht, rfl, rfl⟩ |
      ⟨t, tail, i, rfl, ht, rfl, h⟩ |
      ⟨t, tail, i, rfl, ht, rfl, h⟩ | ⟨hhead, h⟩
    · exact ⟨[], t :: tail, rfl, .inr ⟨t, tail, rfl, ht, .opening ht n, rfl⟩⟩
    · refine (ih i (Nat.lt_succ_self i) h (n + 1)).opened (fun ks k j hgo => ?_) fun i us e' he' =>
        ?_
      · rw [ht]
        exact hgo.not
      · exact operand_eq_error_iff.mpr (.inr (.inl ⟨t, us, i, rfl, ht, rfl, he'⟩))
    · exact located_group (ih i (Nat.lt_succ_self i)) ht h n
    · exact located_atom hhead h n

/-! ### Whole texts -/

/-- The tokens begin a sentence, however deep it nests. -/
def Viable (ks : List TokenKind) : Prop := ∃ d : Sentence, ks <+: d.kinds

theorem Level.Continues.viable {n j : Nat} {ks : List TokenKind} {k : TokenKind}
    (h : (Level.chain .or).Continues n ks k j) :
    Viable (ks ++ [k]) := by
  obtain ⟨d, before, after, hd, rfl⟩ := h
  refine ⟨d, after.map Prod.fst, ?_⟩
  rw [← d.map_fst_counted n, hd]
  simp

theorem Level.Continues.unique {ks : List TokenKind} {k : TokenKind} {j j' : Nat}
    (h : (Level.chain .or).Continues 0 ks k j) (h' : (Level.chain .or).Continues 0 ks k j') :
    j = j' := by
  obtain ⟨d, before, after, hd, rfl⟩ := h
  obtain ⟨d', before', after', hd', hks⟩ := h'
  exact Derivation.eq_of_counted hd hd' hks.symm

theorem Viable.of_append {ks more : List TokenKind} (h : Viable (ks ++ more)) : Viable ks := by
  obtain ⟨d, hd⟩ := h
  exact ⟨d, (List.prefix_append ks more).trans hd⟩

/-- Tokens that begin a sentence can be followed by others such that all parsers that may nest deep
enough read them to the end. -/
theorem Viable.reads {pre : List Token} {t : Token} (h : Viable ((pre ++ [t]).map Token.kind)) :
    ∃ us x n, ∀ i ≥ n, ((Level.chain .or).parser i).Reads (pre ++ t :: us) x [] := by
  obtain ⟨d, more, hd⟩ := h
  have hmore : (more.map fun k => (⟨k, 0⟩ : Token)).map Token.kind = more := by
    simp [Function.comp_def]
  refine ⟨more.map fun k => ⟨k, 0⟩, d.formula, d.nesting, fun i hi => ?_⟩
  have hkinds : (pre ++ t :: more.map fun k => ⟨k, 0⟩).map Token.kind = d.kinds := by
    rw [List.append_cons, List.map_append, hmore, hd]
  have hend : d.Ended (([] : List Token).head?.map Token.kind) :=
    d.ended_of_closed (Level.closed_nil _)
  have hread := (d.reads hi hkinds hend).1
  rwa [List.append_nil] at hread

theorem not_viable_of_refuses {m : Nat} {pre post : List Token} {t : Token}
    (h : (Level.chain .or).Refuses m pre (t :: post)) :
    ¬ Viable ((pre ++ [t]).map Token.kind) := by
  intro hviable
  obtain ⟨us, x, n, hreads⟩ := hviable.reads
  obtain ⟨e, he⟩ := h (max m n) (Nat.le_max_left _ _) (t :: us) rfl
  exact not_reads_of_eq_error he (hreads _ (Nat.le_max_right _ _))

/-- A token before which a sentence is read, whatever comes behind it, belongs to no sentence that
begins so. -/
theorem not_viable_of_reads {m : Nat} {pre post : List Token} {t : Token} {x : Formula}
    (h : ∀ i ≥ m, ∀ rest', rest'.head? = (t :: post).head? →
      ((Level.chain .or).parser i).Reads (pre ++ rest') x rest') :
    ¬ Viable ((pre ++ [t]).map Token.kind) := by
  intro hviable
  obtain ⟨us, y, n, hreads⟩ := hviable.reads
  obtain ⟨_, hx⟩ := h (max m n) (Nat.le_max_left _ _) (t :: us) rfl
  obtain ⟨_, hy⟩ := hreads _ (Nat.le_max_right _ _)
  cases (ok_eq_ok_iff.mp (hx.symm.trans hy)).2

/-- A list of tokens is refused by the parser of sentences, or for a token behind a sentence. -/
theorem ofTokens_eq_error_cases {ts : List Token} {e : SyntaxError} (h : ofTokens ts = .error e) :
    (Level.chain .or).FailsAt 0 nestingLimit ts e ∨
      ∃ (d : Sentence) (pre : List Token) (t : Token) (post : List Token), ts = pre ++ t :: post ∧
        t.kind ≠ .stop ∧
        d.kinds = pre.map Token.kind ∧ ¬ Viable ((pre ++ [t]).map Token.kind) ∧
        e = .trailingInput t.position := by
  unfold ofTokens at h
  split at h
  case h_1 e' he =>
    exact .inl (located_sentence (located_operand nestingLimit) (Except.error.inj h ▸ he) 0)
  case h_2 => cases h
  case h_3 x t post hx hp =>
    split_ifs at h with ht
    obtain ⟨d, pre, hts, hpre, hagain⟩ := Parser.Reads.again (l := .chain .or) ⟨hx, hp⟩
    exact .inr ⟨d, pre, t, post, hts, ht, hpre.symm, not_viable_of_reads hagain,
      (Except.error.inj h).symm⟩

/-- Whether a text is refused with a given error can be worked out. -/
instance (text : String) (e : SyntaxError) : Decidable (parse text = .error e) :=
  match parse text with
  | .error e' => decidable_of_iff (e' = e) (by simp)
  | .ok _ => isFalse (by simp)

theorem unexpected_cases (ts : List Token) :
    unexpected ts = .unexpectedEnd ∧ (∀ t ∈ ts.head?, t.kind = .stop) ∨
      ∃ t post, ts = t :: post ∧ t.kind ≠ .stop ∧
        unexpected ts = .unexpectedToken t.kind t.position := by
  rcases ts with _ | ⟨t, post⟩
  · exact .inl ⟨rfl, by simp⟩
  · by_cases ht : t.kind = .stop
    · exact .inl ⟨by simp [unexpected, ht], by simpa using ht⟩
    · exact .inr ⟨t, post, rfl, ht, by simp [unexpected, ht]⟩

/-- The tokens before the stop are all that a text has to say. -/
theorem kinds_eq_of_scan_eq {text : String} {pre rest : List Token}
    (h : Token.scan text = pre ++ rest) (hpre : TokenKind.stop ∉ pre.map Token.kind)
    (hrest : ∀ t ∈ rest.head?, t.kind = .stop) :
    Token.kinds text = pre.map Token.kind := by
  obtain ⟨body, last, hscan, hbody⟩ := Token.scan_eq text
  have hkinds : Token.kinds text = body.map Token.kind := by
    rw [Token.kinds, hscan, List.dropLast_concat]
  rw [h] at hscan
  rcases rest with _ | ⟨t, tail⟩
  · rw [List.append_nil] at hscan
    exact absurd (by simp [hscan]) hpre
  · rw [hkinds, eq_of_append_stop hscan (hrest t rfl) hbody]

/-- What an error says about the tokens of a text, where sentences may nest as deep as they like. -/
def SyntaxError.IsFirstOffence (text : String) : SyntaxError → Prop
  /- The tokens begin a sentence, and are none yet. -/
  | .unexpectedEnd => ∃ d : Sentence, Token.kinds text <+: d.kinds ∧ Token.kinds text ≠ d.kinds
  /- The tokens before the position begin a sentence, and with the one there they begin none. -/
  | .unexpectedToken found position =>
    ∃ pre t, t.kind = found ∧ t.position = position ∧ Token.IsCut text pre t ∧
      Viable (pre.map Token.kind) ∧
      ¬ Viable ((pre ++ [t]).map Token.kind)
  /- The tokens before the position are a sentence, and with the one there they begin none. -/
  | .trailingInput position =>
    ∃ pre t, t.position = position ∧ Token.IsCut text pre t ∧
      (∃ d : Sentence, d.kinds = pre.map Token.kind) ∧
      ¬ Viable ((pre ++ [t]).map Token.kind)
  /- The tokens up to a negation or a parenthesis begin a sentence, and it is the 65th one open
  there in each that they begin. -/
  | .tooDeep =>
    ∃ pre t, (t.kind = .mark .not ∨ t.kind = .mark .leftParen) ∧ Token.IsCut text pre t ∧
      Viable ((pre ++ [t]).map Token.kind) ∧ ∀ j,
        (Level.chain .or).Continues 0 (pre.map Token.kind) t.kind j ↔ j = 65

/-- **Errors point at the first offence**: what a text has before the place that its error names is
right, and what it has there is wrong, whatever follows and however deep sentences may nest. The
position in an error is the byte at which a token stands. -/
theorem parse_error_at_first_offence {text : String} {e : SyntaxError} (h : parse text = .error e) :
    e.IsFirstOffence text := by
  rcases ofTokens_eq_error_cases h with
    ⟨pre, rest, hscan, ⟨⟨k, j, hgo⟩, hrefuse, rfl⟩ | ⟨t, post, rfl, hopen, hgo, rfl⟩⟩ |
    ⟨d, pre, t, post, hscan, hstop, hd, hnot, rfl⟩
  · rcases unexpected_cases rest with ⟨he, hstop⟩ | ⟨t, post, rfl, hstop, he⟩
    · obtain ⟨d, more, hd⟩ := hgo.viable
      have hpre : TokenKind.stop ∉ pre.map Token.kind := fun hmem =>
        d.stop_not_mem_kinds (by rw [← hd]; simp [hmem])
      rw [he, SyntaxError.IsFirstOffence, kinds_eq_of_scan_eq hscan hpre hstop]
      exact ⟨d, ⟨k :: more, by rw [← hd]; simp⟩, by rw [← hd]; simp⟩
    · rw [he]
      exact ⟨pre, t, rfl, rfl, Token.isCut_of_scan_eq hscan hstop, hgo.viable.of_append,
        not_viable_of_refuses hrefuse⟩
  · have hstop : t.kind ≠ .stop := by rcases hopen with ht | ht <;> simp [ht]
    have hviable : Viable ((pre ++ [t]).map Token.kind) := by simpa using hgo.viable
    exact ⟨pre, t, hopen, Token.isCut_of_scan_eq hscan hstop, hviable,
      fun j => ⟨fun hj => hj.unique hgo, fun hj => hj ▸ hgo⟩⟩
  · exact ⟨pre, t, rfl, Token.isCut_of_scan_eq hscan hstop, ⟨d, hd⟩, hnot⟩

/-- An operand that is missing at the end and before a parenthesis, a second comparison, and one
negation too many. -/
theorem parse_error_at_first_offence_of_each :
    SyntaxError.unexpectedEnd.IsFirstOffence "data.a && (" ∧
      (SyntaxError.unexpectedToken (.mark .rightParen) 10).IsFirstOffence "data.a && )" ∧
      (SyntaxError.trailingInput 10).IsFirstOffence "'é' == a == b" ∧
      SyntaxError.tooDeep.IsFirstOffence (String.ofList (List.replicate 65 '!')) :=
  ⟨parse_error_at_first_offence (by decide +kernel),
    parse_error_at_first_offence (by decide +kernel),
    parse_error_at_first_offence (by decide +kernel),
    parse_error_at_first_offence (by decide +kernel)⟩

end Formula
end PageBuilder
