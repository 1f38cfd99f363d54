import PageBuilder.Proofs.Formula.Reading

/-!
# What parsers refuse

`Reading` says what a parser reads; here is what it refuses, again with one equivalence for each
parser by the form of its rule. An error comes from the part that is read last, and is handed on as
it is. Only keys after a dot, an operand at its first token and a group before its closing
parenthesis refuse a token themselves, and only a negation or a parenthesis is too deep.
-/

namespace PageBuilder
namespace Formula

/-! ### Literals and paths -/

/-- Keys are refused after a dot that no word follows. -/
theorem keys_eq_error_iff {ts : List Token} {e : SyntaxError} :
    keys ts = .error e ↔ ∃ pre rest names, ts = pre ++ rest ∧
      pre.map Token.kind = keyKinds names ++ [.mark .dot] ∧
      (∀ name, rest.head?.map Token.kind ≠ some (.word name)) ∧ e = unexpected rest := by
  constructor
  · intro h
    fun_induction keys ts with
    | case1 p name q ts e' he ih =>
      obtain rfl := Except.error.inj h
      obtain ⟨pre, rest, names, rfl, hpre, hrest, he⟩ := ih he
      exact ⟨⟨.mark .dot, p⟩ :: ⟨.word name, q⟩ :: pre, rest, name :: names, rfl,
        by simp [keyKinds, hpre], hrest, he⟩
    | case2 => cases h
    | case3 p ts hword =>
      refine ⟨[⟨.mark .dot, p⟩], ts, [], rfl, rfl, fun name hname => ?_, (Except.error.inj h).symm⟩
      obtain ⟨⟨kind, q⟩, hhead, rfl⟩ := Option.map_eq_some_iff.mp hname
      obtain ⟨tail, rfl⟩ := List.head?_eq_some_iff.mp hhead
      exact hword name q tail rfl
    | case4 => cases h
  · rintro ⟨pre, rest, names, rfl, hpre, hrest, rfl⟩
    induction names generalizing pre with
    | nil =>
      obtain ⟨⟨kind, p⟩, rfl, rfl⟩ := List.map_eq_singleton_iff.mp hpre
      rw [List.singleton_append, keys]
      rintro name q tail rfl
      exact hrest name rfl
    | cons name names ih =>
      obtain ⟨⟨kind, p⟩, pre, rfl, rfl, htail⟩ := List.map_eq_cons_iff.mp hpre
      obtain ⟨⟨kind, q⟩, pre, rfl, rfl, hpre'⟩ := List.map_eq_cons_iff.mp htail
      rw [List.cons_append, List.cons_append, keys, ih pre hpre']

/-- A mark or the end is no atom; a path is refused with its keys. -/
theorem atom_eq_error_iff {ts : List Token} {e : SyntaxError} :
    atom ts = .error e ↔
      ((∀ t ∈ ts.head?, t.kind = .stop ∨ ∃ m, t.kind = .mark m) ∧ e = unexpected ts) ∨
        ∃ t head tail, ts = t :: tail ∧ t.kind = .word head ∧ head ∉ reservedWords ∧
          keys tail = .error e := by
  constructor
  · intro h
    rcases ts with _ | ⟨t, ts⟩
    · exact .inl ⟨by simp, (Except.error.inj h).symm⟩
    unfold atom at h
    simp only at h
    split at h
    case h_1 | h_2 => cases h
    case h_3 name hkind =>
      split_ifs at h with htrue hfalse hnull
      split at h
      case h_1 e' he =>
        obtain rfl := Except.error.inj h
        exact .inr ⟨t, name, ts, rfl, hkind, by simp [reservedWords, htrue, hfalse, hnull], he⟩
      case h_2 => cases h
    case h_4 hnumber htext hword =>
      refine .inl ⟨fun u hu => ?_, (Except.error.inj h).symm⟩
      obtain rfl := Option.some.inj hu
      rcases hkind : t.kind with name | x | s | m | _
      · exact absurd hkind (hword name)
      · exact absurd hkind (hnumber x)
      · exact absurd hkind (htext s)
      · exact .inr ⟨m, rfl⟩
      · exact .inl rfl
  · rintro (⟨hhead, rfl⟩ | ⟨t, head, tail, rfl, hkind, hfree, hkeys⟩)
    · rcases ts with _ | ⟨t, ts⟩
      · rfl
      · rcases hhead t rfl with hkind | ⟨m, hkind⟩ <;> simp [atom, hkind]
    · simp only [reservedWords, List.mem_cons, List.not_mem_nil, or_false, not_or] at hfree
      simp only [atom, hkind, hfree, hkeys, if_false]

/-! ### Comparisons and chains -/

theorem comparison_eq_error_iff {p : Parser Formula} {ts : List Token} {e : SyntaxError} :
    comparison p ts = .error e ↔ p ts = .error e ∨
      ∃ op left t mid, p.Reads ts left (t :: mid) ∧ t.kind = .mark (Comparison.mark op) ∧
        p mid = .error e := by
  constructor
  · intro h
    unfold comparison at h
    split at h
    case h_1 e' he => exact .inl (he.trans h)
    case h_2 => cases h
    case h_3 left t mid hleft hp =>
      split at h
      case h_1 => cases h
      case h_2 op hop =>
        split at h
        case h_1 e' he =>
          exact .inr ⟨op, left, t, mid, ⟨hleft, hp⟩, ofKind?_eq_some_iff.mp hop,
            Except.error.inj h ▸ he⟩
        case h_2 => cases h
  · rintro (h | ⟨op, left, t, mid, ⟨hlt, hleft⟩, ht, hmid⟩)
    · simp only [comparison, h]
    · simp only [comparison, hleft, ofKind?_eq_some_iff.mpr ht, hmid]

theorem chain_eq_error_iff {m : Mark} {p : Parser Formula} {ts : List Token} {e : SyntaxError} :
    chain m p ts = .error e ↔ p ts = .error e ∨
      ∃ x t mid, p.Reads ts x (t :: mid) ∧ t.kind = .mark m ∧ chain m p mid = .error e := by
  constructor
  · intro h
    rw [chain] at h
    split at h
    case h_1 e' he => exact .inl (Except.error.inj h ▸ he)
    case h_2 => cases h
    case h_3 x t mid hx hp =>
      split_ifs at h with ht
      split at h
      case h_1 e' he => exact .inr ⟨x, t, mid, ⟨hx, hp⟩, ht, Except.error.inj h ▸ he⟩
      case h_2 => cases h
  · rintro (h | ⟨x, t, mid, ⟨hlt, hx⟩, ht, hmid⟩)
    · rw [chain]
      simp only [h]
    · rw [chain]
      simp only [hx, ht, if_true, hmid]

/-! ### Operands -/

theorem map_eq_error_iff {ε α β : Type} {f : α → β} {r : Except ε α} {e : ε} :
    r.map f = .error e ↔ r = .error e := by
  cases r <;> simp [Except.map]

/-- A group is refused with its disjunction, or at the token where its closing parenthesis should
stand. -/
theorem group_eq_error_iff {p : Parser Formula} {ts : List Token} {e : SyntaxError} :
    group p ts = .error e ↔ disjunction p ts = .error e ∨
      ∃ x rest, (disjunction p).Reads ts x rest ∧
        rest.head?.map Token.kind ≠ some (.mark .rightParen) ∧
        e = unexpected rest := by
  constructor
  · intro h
    unfold group at h
    split at h
    case h_1 e' he => exact .inl (he.trans h)
    case h_2 x hx hp => exact .inr ⟨x, [], ⟨hx, hp⟩, by simp, (Except.error.inj h).symm⟩
    case h_3 x t rest hx hp =>
      split_ifs at h with ht
      exact .inr ⟨x, t :: rest, ⟨hx, hp⟩, fun hright => ht (Option.some.inj hright),
        (Except.error.inj h).symm⟩
  · rintro (h | ⟨x, rest, ⟨hlt, hx⟩, hrest, rfl⟩)
    · simp only [group, h]
    · rcases rest with _ | ⟨t, rest⟩
      · simp only [group, hx]
      · have ht : t.kind ≠ .mark .rightParen := fun ht => hrest (congrArg some ht)
        simp only [group, hx, ht, if_false]

/-- A negation or a group is refused for its depth, or with what is read after its mark. -/
theorem operand_eq_error_iff {levels : Nat} {ts : List Token} {e : SyntaxError} :
    operand levels ts = .error e ↔
      (∃ t tail, ts = t :: tail ∧ (t.kind = .mark .not ∨ t.kind = .mark .leftParen) ∧ levels = 0 ∧
        e = .tooDeep) ∨
      (∃ t tail n, ts = t :: tail ∧ t.kind = .mark .not ∧ levels = n + 1 ∧
        operand n tail = .error e) ∨
      (∃ t tail n, ts = t :: tail ∧ t.kind = .mark .leftParen ∧ levels = n + 1 ∧
        group (operand n) tail = .error e) ∨
      ((∀ t ∈ ts.head?, t.kind ≠ .mark .not ∧ t.kind ≠ .mark .leftParen) ∧ atom ts = .error e) := by
  constructor
  · intro h
    rcases ts with _ | ⟨t, ts⟩
    · exact .inr (.inr (.inr ⟨by simp, by cases levels <;> exact h⟩))
    by_cases hnot : t.kind = .mark .not
    · cases levels with
      | zero =>
        exact .inl ⟨t, ts, rfl, .inl hnot, rfl,
          by simpa [operand, operandWithin, hnot, eq_comm] using h⟩
      | succ n =>
        simp only [operand, operandWithin, hnot, if_true, Parser.after, map_eq_error_iff] at h
        exact .inr (.inl ⟨t, ts, n, rfl, hnot, rfl, h⟩)
    by_cases hparen : t.kind = .mark .leftParen
    · cases levels with
      | zero =>
        exact .inl ⟨t, ts, rfl, .inr hparen, rfl,
          by simpa [operand, operandWithin, hparen, eq_comm] using h⟩
      | succ n =>
        simp only [operand, operandWithin, hparen, reduceCtorEq, TokenKind.mark.injEq, if_true,
          if_false, Parser.after, map_eq_error_iff] at h
        exact .inr (.inr (.inl ⟨t, ts, n, rfl, hparen, rfl, h⟩))
    refine .inr (.inr (.inr ⟨fun u hu => ?_, ?_⟩))
    · obtain rfl := Option.some.inj hu
      exact ⟨hnot, hparen⟩
    · cases levels <;> simpa only [operand, operandWithin, hnot, hparen, if_false] using h
  · rintro (⟨t, tail, rfl, hopen, rfl, rfl⟩ | ⟨t, tail, n, rfl, hnot, rfl, h⟩ |
      ⟨t, tail, n, rfl, hparen, rfl, h⟩ | ⟨hhead, h⟩)
    · rcases hopen with ht | ht <;> simp [operand, operandWithin, ht]
    · simp only [operand, operandWithin, hnot, if_true, Parser.after, map_eq_error_iff, h]
    · simp [operand, operandWithin, hparen, Parser.after, map_eq_error_iff, h]
    · rcases ts with _ | ⟨t, ts⟩
      · cases levels <;> exact h
      · obtain ⟨hnot, hparen⟩ := hhead t rfl
        cases levels <;> simp only [operand, operandWithin, hnot, hparen, if_false, h]

end Formula
end PageBuilder
