import Mathlib.Tactic.SplitIfs
import PageBuilder.Proofs.Formula.Grammar

/-!
# What each parser reads

`Reads p ts x rest`: the parser `p` reads `x` off `ts` and leaves `rest`. There is one equivalence
for each parser, by the form of its rule; proofs about parsing use these and open no parser.
-/

namespace PageBuilder
namespace Formula

/-- The parser reads `x` and leaves `rest`. -/
def Parser.Reads {α : Type} (p : Parser α) (ts : List Token) (x : α) (rest : List Token) : Prop :=
  ∃ h, p ts = .ok (x, ⟨rest, h⟩)

/-- Two results are the same if they say the same and leave the same. -/
theorem ok_eq_ok_iff {ε α : Type} {P : List Token → Prop} {x y : α} {rest tail : List Token}
    {h : P tail} {h' : P rest} :
    (Except.ok (y, ⟨tail, h⟩) : Except ε (α × { ts // P ts })) = .ok (x, ⟨rest, h'⟩) ↔
      y = x ∧ tail = rest := by
  simp only [Except.ok.injEq, Prod.mk.injEq, Subtype.mk.injEq]

section Rules

variable {α : Type} {p : Parser α} {ts rest : List Token} {x : α}

theorem reads_of_eq_ok {y : α} {r : { rest : List Token // rest.length < ts.length }}
    (h : p ts = .ok (y, r)) :
    p.Reads ts x rest ↔ y = x ∧ r.1 = rest := by
  obtain ⟨tail, hlt⟩ := r
  simp only [Parser.Reads, h, ok_eq_ok_iff]
  exact ⟨fun ⟨_, hy, hr⟩ => ⟨hy, hr⟩, fun ⟨hy, hr⟩ => ⟨hr ▸ hlt, hy, hr⟩⟩

theorem not_reads_of_eq_error {e : SyntaxError} (h : p ts = .error e) : ¬ p.Reads ts x rest := by
  simp [Parser.Reads, h]

theorem reads_map_iff {β : Type} {f : α → β} {y : β} :
    Parser.Reads (fun ts => (p ts).map fun r => (f r.1, r.2)) ts y rest ↔
      ∃ x, p.Reads ts x rest ∧ y = f x := by
  cases h : p ts with
  | error e => simp [Parser.Reads, Except.map, h]
  | ok r =>
    rw [reads_of_eq_ok (by rw [h]; rfl)]
    simp only [reads_of_eq_ok h]
    exact ⟨fun ⟨hy, hr⟩ => ⟨r.1, ⟨rfl, hr⟩, hy.symm⟩, fun ⟨_, ⟨hx, hr⟩, hy⟩ => ⟨by rw [hy, hx], hr⟩⟩

end Rules

/-! ### Literals and paths -/

/-- Keys that start at a dot have a first name. -/
theorem keyKinds_of_dot {p : Nat} {ts pre rest : List Token} {names : List String}
    (hts : ⟨.mark .dot, p⟩ :: ts = pre ++ rest) (hpre : pre.map Token.kind = keyKinds names)
    (hrest : Level.operand.Closed (rest.map Token.kind)) :
    ∃ name q names' pre', names = name :: names' ∧ ts = ⟨.word name, q⟩ :: (pre' ++ rest) ∧
      pre'.map Token.kind = keyKinds names' := by
  cases names with
  | nil =>
    obtain rfl : pre = [] := List.map_eq_nil_iff.mp hpre
    rw [← List.nil_append rest, ← hts, List.map_cons] at hrest
    exact absurd (by decide) (Level.closed_mark_cons.mp hrest)
  | cons name names' =>
    obtain ⟨t, tail, rfl, -, htail⟩ := List.map_eq_cons_iff.mp hpre
    obtain ⟨⟨kind, q⟩, pre', rfl, rfl, hpre'⟩ := List.map_eq_cons_iff.mp htail
    exact ⟨name, q, names', pre', rfl, (List.cons_eq_cons.mp hts).2, hpre'⟩

/-- The keys of a path are read to the last one. -/
theorem keys_eq_ok_iff {ts rest : List Token} {names : List String} :
    (∃ h, keys ts = .ok (names, ⟨rest, h⟩)) ↔
      ∃ pre, ts = pre ++ rest ∧ pre.map Token.kind = keyKinds names ∧
        Level.operand.Closed (rest.map Token.kind) := by
  fun_induction keys ts generalizing names rest with
  | case1 p name q ts e he ih =>
    simp only [he, reduceCtorEq, exists_false, false_iff] at ih ⊢
    rintro ⟨pre, hts, hpre, hrest⟩
    obtain ⟨_, _, names', pre', rfl, hts, hpre⟩ := keyKinds_of_dot hts hpre hrest
    exact ih ⟨pre', (List.cons_eq_cons.mp hts).2, hpre, hrest⟩
  | case2 p name q ts names' rest' h' he ih =>
    simp only [he, ok_eq_ok_iff] at ih ⊢
    constructor
    · rintro ⟨_, rfl, rfl⟩
      obtain ⟨pre, hts, hpre, hrest⟩ := ih.mp ⟨h', rfl, rfl⟩
      exact ⟨_ :: _ :: pre, by rw [hts]; rfl, by simp [keyKinds, hpre], hrest⟩
    · rintro ⟨pre, hts, hpre, hrest⟩
      obtain ⟨_, _, names'', pre', rfl, hts, hpre⟩ := keyKinds_of_dot hts hpre hrest
      obtain ⟨hword, hts⟩ := List.cons_eq_cons.mp hts
      obtain ⟨hle, rfl, rfl⟩ := ih.mpr ⟨pre', hts, hpre, hrest⟩
      obtain ⟨rfl, -⟩ : name = _ ∧ q = _ := by simpa using hword
      exact ⟨by simp only [List.length_cons]; omega, rfl, rfl⟩
  | case3 p ts hword =>
    simp only [reduceCtorEq, exists_false, false_iff]
    rintro ⟨pre, hts, hpre, hrest⟩
    obtain ⟨name, q, _, pre', -, hts, -⟩ := keyKinds_of_dot hts hpre hrest
    exact hword name q _ hts
  | case4 ts hpair hdot =>
    simp only [ok_eq_ok_iff]
    constructor
    · rintro ⟨_, rfl, rfl⟩
      refine ⟨[], rfl, rfl, ?_⟩
      rcases ts with _ | ⟨⟨kind, p⟩, ts⟩
      · exact Level.closed_nil _
      · rintro m hm hkind
        obtain rfl : m = .dot := by simpa [Level.joiners] using hm
        obtain rfl : kind = .mark .dot := by simpa using hkind
        exact hdot p ts rfl
    · rintro ⟨pre, rfl, hpre, hrest⟩
      cases names with
      | nil =>
        obtain rfl : pre = [] := List.map_eq_nil_iff.mp hpre
        exact ⟨Nat.le_refl _, rfl, rfl⟩
      | cons name names' =>
        obtain ⟨⟨kind, p⟩, pre, rfl, rfl, -⟩ := List.map_eq_cons_iff.mp hpre
        exact (hdot p _ rfl).elim

/-- A literal is its token; a path is a word that is free, and keys. -/
theorem reads_atom_iff {ts rest : List Token} {x : Formula} :
    Parser.Reads atom ts x rest ↔
      (∃ t, ∃ l : Literal, ts = t :: rest ∧ t.kind = l.kind ∧ x = .literal l.value) ∨
        ∃ t head names tail, ts = t :: tail ∧ t.kind = .word head ∧ head ∉ reservedWords ∧
          (∃ h, keys tail = .ok (names, ⟨rest, h⟩)) ∧ x = .path (.ofName head) names := by
  unfold Parser.Reads
  constructor
  · rintro ⟨h, hatom⟩
    rcases ts with _ | ⟨t, ts⟩
    · simp [atom] at hatom
    have done (l : Literal) (hkind : t.kind = l.kind) (hok : .literal l.value = x ∧ ts = rest) :
        ∃ t' l, t :: ts = t' :: rest ∧ t'.kind = Literal.kind l ∧ x = .literal l.value :=
      ⟨t, l, by rw [hok.2], hkind, hok.1.symm⟩
    unfold atom at hatom
    simp only at hatom
    split at hatom
    case h_1 y hkind => exact .inl (done (.number y) hkind (ok_eq_ok_iff.mp hatom))
    case h_2 s hkind => exact .inl (done (.text s) hkind (ok_eq_ok_iff.mp hatom))
    case h_3 name hkind =>
      split_ifs at hatom with htrue hfalse hnull
      · exact .inl (done .yes (by rw [hkind, htrue]; rfl) (ok_eq_ok_iff.mp hatom))
      · exact .inl (done .no (by rw [hkind, hfalse]; rfl) (ok_eq_ok_iff.mp hatom))
      · exact .inl (done .null (by rw [hkind, hnull]; rfl) (ok_eq_ok_iff.mp hatom))
      · split at hatom
        case h_1 e he => simp at hatom
        case h_2 names tail hle hkeys =>
          obtain ⟨rfl, rfl⟩ := ok_eq_ok_iff.mp hatom
          have hfree : name ∉ reservedWords := by simp [reservedWords, htrue, hfalse, hnull]
          exact .inr ⟨t, name, names, ts, rfl, hkind, hfree, ⟨hle, hkeys⟩, rfl⟩
    case h_4 => simp at hatom
  · rintro (⟨t, l, rfl, hkind, rfl⟩ | ⟨t, head, names, tail, rfl, hkind, hfree, ⟨h, hkeys⟩, rfl⟩)
    · cases l <;> simp [atom, hkind, Literal.kind, Literal.value]
    · simp only [reservedWords, List.mem_cons, List.not_mem_nil, or_false, not_or] at hfree
      simp only [atom, hkind, hfree, hkeys, if_false, exists_prop, and_true, List.length_cons]
      omega

/-! ### Comparisons and chains -/

theorem ofKind?_eq_some_iff {k : TokenKind} {op : Comparison} :
    Comparison.ofKind? k = some op ↔ k = .mark op.mark := by
  constructor
  · intro h
    unfold Comparison.ofKind? at h
    split at h <;> cases h <;> rfl
  · rintro rfl
    cases op <;> rfl

/-- A comparison is one operand before any other token, or two operands around the mark of a
comparison. -/
theorem Parser.Reads.comparison_cases {p : Parser Formula} {ts rest : List Token} {x : Formula}
    (h : (comparison p).Reads ts x rest) :
    (p.Reads ts x rest ∧ ∀ op : Comparison, rest.head?.map Token.kind ≠ some (.mark op.mark)) ∨
      ∃ op left right t mid, p.Reads ts left (t :: mid) ∧ t.kind = .mark (Comparison.mark op) ∧
        p.Reads mid right rest ∧ x = .compare op left right := by
  obtain ⟨hlt, h⟩ := h
  unfold comparison at h
  split at h
  case h_1 => simp at h
  case h_2 left hleft hp =>
    obtain ⟨rfl, rfl⟩ := ok_eq_ok_iff.mp h
    exact .inl ⟨⟨hleft, hp⟩, by simp⟩
  case h_3 left t mid hleft hp =>
    split at h
    case h_1 hop =>
      obtain ⟨rfl, rfl⟩ := ok_eq_ok_iff.mp h
      refine .inl ⟨⟨hleft, hp⟩, fun op ht => ?_⟩
      rw [ofKind?_eq_some_iff.mpr (Option.some.inj ht)] at hop
      cases hop
    case h_2 op hop =>
      split at h
      case h_1 => simp at h
      case h_2 right tail hright hp' =>
        rw [ok_eq_ok_iff] at h
        obtain ⟨rfl, rfl⟩ := h
        exact .inr ⟨op, left, right, t, mid, ⟨hleft, hp⟩, ofKind?_eq_some_iff.mp hop,
          ⟨hright, hp'⟩, rfl⟩

theorem reads_comparison_lone {p : Parser Formula} {ts rest : List Token} {x : Formula}
    (h : p.Reads ts x rest)
    (hrest : ∀ op : Comparison, rest.head?.map Token.kind ≠ some (.mark op.mark)) :
    (comparison p).Reads ts x rest := by
  obtain ⟨hlt, h⟩ := h
  refine ⟨hlt, ?_⟩
  unfold comparison
  rcases rest with _ | ⟨t, rest⟩
  · simp only [h]
  · have hop : Comparison.ofKind? t.kind = none := by
      rcases hop : Comparison.ofKind? t.kind with _ | op
      · rfl
      · exact absurd (congrArg some (ofKind?_eq_some_iff.mp hop)) (hrest op)
    simp only [h, hop]

theorem reads_comparison_compare {p : Parser Formula} {ts mid rest : List Token}
    {left right : Formula} {t : Token} {op : Comparison} (hleft : p.Reads ts left (t :: mid))
    (ht : t.kind = .mark op.mark) (hright : p.Reads mid right rest) :
    (comparison p).Reads ts (.compare op left right) rest := by
  obtain ⟨hlt, hleft⟩ := hleft
  obtain ⟨hlt', hright⟩ := hright
  refine ⟨by simp only [List.length_cons] at hlt; omega, ?_⟩
  simp only [comparison, hleft, ofKind?_eq_some_iff.mpr ht, hright]

/-- A chain is one operand before any other token, or an operand, the mark and a chain. -/
theorem Parser.Reads.chain_cases {m : Mark} {p : Parser Formula} {ts rest : List Token}
    {xs : List Formula} (h : Parser.Reads (chain m p) ts xs rest) :
    (∃ x, p.Reads ts x rest ∧ rest.head?.map Token.kind ≠ some (.mark m) ∧ xs = [x]) ∨
      ∃ x ys t mid, p.Reads ts x (t :: mid) ∧ t.kind = .mark m ∧
        Parser.Reads (chain m p) mid ys rest ∧ xs = x :: ys := by
  obtain ⟨hlt, h⟩ := h
  rw [chain] at h
  split at h
  case h_1 => simp at h
  case h_2 x hx hp =>
    obtain ⟨rfl, rfl⟩ := ok_eq_ok_iff.mp h
    exact .inl ⟨x, ⟨hx, hp⟩, by simp, rfl⟩
  case h_3 x t mid hx hp =>
    split at h
    case isTrue ht =>
      split at h
      case h_1 => simp at h
      case h_2 ys tail htail hys =>
        rw [ok_eq_ok_iff] at h
        obtain ⟨rfl, rfl⟩ := h
        exact .inr ⟨x, ys, t, mid, ⟨hx, hp⟩, ht, ⟨htail, hys⟩, rfl⟩
    case isFalse ht =>
      obtain ⟨rfl, rfl⟩ := ok_eq_ok_iff.mp h
      exact .inl ⟨x, ⟨hx, hp⟩, fun hmark => ht (Option.some.inj hmark), rfl⟩

theorem reads_chain_last {m : Mark} {p : Parser Formula} {ts rest : List Token} {x : Formula}
    (h : p.Reads ts x rest) (hrest : rest.head?.map Token.kind ≠ some (.mark m)) :
    Parser.Reads (chain m p) ts [x] rest := by
  obtain ⟨hlt, h⟩ := h
  refine ⟨hlt, ?_⟩
  rw [chain]
  rcases rest with _ | ⟨t, rest⟩
  · simp only [h]
  · have ht : t.kind ≠ .mark m := fun ht => hrest (congrArg some ht)
    simp only [h, ht, if_false]

theorem reads_chain_link {m : Mark} {p : Parser Formula} {ts mid rest : List Token} {x : Formula}
    {xs : List Formula} {t : Token} (h : p.Reads ts x (t :: mid)) (ht : t.kind = .mark m)
    (hxs : Parser.Reads (chain m p) mid xs rest) : Parser.Reads (chain m p) ts (x :: xs) rest := by
  obtain ⟨hlt, h⟩ := h
  obtain ⟨hlt', hxs⟩ := hxs
  refine ⟨by simp only [List.length_cons] at hlt; omega, ?_⟩
  rw [chain]
  simp only [h, ht, if_true, hxs]

/-! ### Operands -/

/-- A group is a disjunction before a closing parenthesis. -/
theorem Parser.Reads.group_cases {p : Parser Formula} {ts rest : List Token} {x : Formula}
    (h : (group p).Reads ts x rest) :
    ∃ t, (disjunction p).Reads ts x (t :: rest) ∧ t.kind = .mark .rightParen := by
  obtain ⟨hlt, h⟩ := h
  unfold group at h
  split at h
  case h_1 => simp at h
  case h_2 => simp at h
  case h_3 y t tail hy hp =>
    split_ifs at h with ht
    rw [ok_eq_ok_iff] at h
    obtain ⟨rfl, rfl⟩ := h
    exact ⟨t, ⟨hy, hp⟩, ht⟩

theorem reads_group {p : Parser Formula} {ts rest : List Token} {x : Formula} {t : Token}
    (h : (disjunction p).Reads ts x (t :: rest)) (ht : t.kind = .mark .rightParen) :
    (group p).Reads ts x rest := by
  obtain ⟨hlt, h⟩ := h
  refine ⟨by simp only [List.length_cons] at hlt; omega, ?_⟩
  simp only [group, h, ht, if_true]

/-- What is read after the head. -/
theorem after_eq_ok_iff {α : Type} {p : Parser α} {ts rest : List Token} {x : α} {t : Token}
    (h : rest.length < (t :: ts).length) : p.after t ts = .ok (x, ⟨rest, h⟩) ↔
      p.Reads ts x rest := by
  cases hp : p ts with
  | error e => simp [Parser.after, Except.map, hp, not_reads_of_eq_error]
  | ok r => simp [Parser.after, Except.map, hp, reads_of_eq_ok hp]

/-- An operand is a negation or a group, where one may be opened, or a literal or path. -/
theorem Parser.Reads.operand_cases {inner? : Option (Parser Formula)} {ts rest : List Token}
    {x : Formula} (h : (operandWithin inner?).Reads ts x rest) :
    (∃ t tail inner y, ts = t :: tail ∧ t.kind = .mark .not ∧ inner? = some inner ∧
      Parser.Reads inner tail y rest ∧ x = .not y) ∨
    (∃ t tail inner, ts = t :: tail ∧ t.kind = .mark .leftParen ∧ inner? = some inner ∧
      (group inner).Reads tail x rest) ∨
    Parser.Reads atom ts x rest := by
  obtain ⟨hlt, h⟩ := h
  rcases ts with _ | ⟨t, ts⟩
  · simp [operandWithin] at h
  · unfold operandWithin at h
    simp only at h
    split_ifs at h with hnot hparen
    · cases inner? with
      | none => simp at h
      | some inner =>
        cases hy : inner.after t ts with
        | error e => simp [hy, Except.map] at h
        | ok r =>
          simp only [hy, Except.map, Except.ok.injEq, Prod.mk.injEq] at h
          obtain ⟨rfl, hr⟩ := h
          refine .inl ⟨t, ts, inner, r.1, rfl, hnot, rfl, (after_eq_ok_iff hlt).mp ?_, rfl⟩
          rw [hy, ← hr]
    · cases inner? with
      | none => simp at h
      | some inner => exact .inr (.inl ⟨t, ts, inner, rfl, hparen, rfl, (after_eq_ok_iff hlt).mp h⟩)
    · exact .inr (.inr ⟨hlt, h⟩)

theorem reads_operand_not {inner : Parser Formula} {ts rest : List Token} {x : Formula} {t : Token}
    (ht : t.kind = .mark .not) (h : inner.Reads ts x rest) :
    (operandWithin (some inner)).Reads (t :: ts) (.not x) rest := by
  have hlt : rest.length < (t :: ts).length := by have := h.1; simp only [List.length_cons]; omega
  refine ⟨hlt, ?_⟩
  simp [operandWithin, ht, (after_eq_ok_iff hlt).mpr h, Except.map]

theorem reads_operand_group {inner : Parser Formula} {ts rest : List Token}
    {x : Formula} {t : Token} (ht : t.kind = .mark .leftParen) (h : (group inner).Reads ts x rest) :
    (operandWithin (some inner)).Reads (t :: ts) x rest := by
  have hlt : rest.length < (t :: ts).length := by have := h.1; simp only [List.length_cons]; omega
  refine ⟨hlt, ?_⟩
  simp [operandWithin, ht, after_eq_ok_iff, h]

theorem reads_operand_atom {inner? : Option (Parser Formula)} {ts rest : List Token} {x : Formula}
    (h : Parser.Reads atom ts x rest) : (operandWithin inner?).Reads ts x rest := by
  obtain ⟨hlt, h⟩ := h
  rcases ts with _ | ⟨t, ts⟩
  · simp [atom] at h
  · refine ⟨hlt, ?_⟩
    have hmark (m : Mark) : t.kind ≠ .mark m := by
      intro ht
      simp [atom, ht] at h
    simp only [operandWithin, hmark, if_false, h]

end Formula
end PageBuilder
