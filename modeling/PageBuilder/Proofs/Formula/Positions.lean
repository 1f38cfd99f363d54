import PageBuilder.Proofs.Formula.TokenStream

/-!
# Where tokens stand

The position of a token is the number of bytes of the text before it (`standsIn_of_mem_scan`), and
positions increase along the tokens (`pairwise_scan`). So the tokens before a position are a prefix
of all tokens (`IsCut`).
-/

namespace PageBuilder
namespace Formula
namespace Token

/-- The token is at the head of what follows in the text after as many bytes as its position
says. -/
def StandsIn (t : Token) (text : String) : Prop :=
  ∃ before after n, text.toList = before ++ after ∧ Text.size before = t.position ∧
    lexeme? after = some (t.kind, n)

theorem le_position_of_mem_scanFrom {position : Nat} {cs : List Char} {t : Token}
    (h : t ∈ scanFrom position cs) :
    position ≤ t.position := by
  fun_induction scanFrom position cs with
  | case1 position | case3 position =>
    obtain rfl := List.mem_singleton.mp h
    exact Nat.le_refl _
  | case2 position c rest hblank ih => exact Nat.le_trans (Nat.le_add_right _ _) (ih h)
  | case4 position c rest hblank kind n hlex ih =>
    rcases List.mem_cons.mp h with rfl | h
    · exact Nat.le_refl _
    · exact Nat.le_trans (Nat.le_add_right _ _) (ih h)

theorem pairwise_scanFrom (position : Nat) (cs : List Char) :
    (scanFrom position cs).Pairwise fun t u => t.position < u.position := by
  fun_induction scanFrom position cs with
  | case1 position | case3 position => exact List.pairwise_singleton _ _
  | case2 position c rest hblank ih => exact ih
  | case4 position c rest hblank kind n hlex ih =>
    refine List.pairwise_cons.mpr ⟨fun u hu => ?_, ih⟩
    have hle := le_position_of_mem_scanFrom hu
    -- a token has a character, and a character has a byte
    obtain ⟨m, rfl⟩ :=
      Nat.exists_eq_succ_of_ne_zero (Nat.pos_iff_ne_zero.mp (lexeme?_length_pos hlex))
    have hpos := c.utf8Size_pos
    rw [List.take_succ_cons, Text.size_cons] at hle
    show position < u.position
    omega

/-- The positions of the tokens increase. -/
theorem pairwise_scan (text : String) : (scan text).Pairwise fun t u => t.position < u.position :=
  pairwise_scanFrom 0 text.toList

theorem exists_of_mem_scanFrom {position : Nat} {cs : List Char} {t : Token}
    (h : t ∈ scanFrom position cs) (ht : t.kind ≠ .stop) :
    ∃ before after n, cs = before ++ after ∧ position + Text.size before = t.position ∧
      lexeme? after = some (t.kind, n) := by
  fun_induction scanFrom position cs with
  | case1 position | case3 position =>
    obtain rfl := List.mem_singleton.mp h
    exact absurd rfl ht
  | case2 position c rest hblank ih =>
    obtain ⟨before, after, n, rfl, hsize, hlex⟩ := ih h
    exact ⟨c :: before, after, n, rfl, by rw [Text.size_cons]; omega, hlex⟩
  | case4 position c rest hblank kind n hlex ih =>
    rcases List.mem_cons.mp h with rfl | h
    · exact ⟨[], c :: rest, n, rfl, rfl, hlex⟩
    · obtain ⟨before, after, m, hdrop, hsize, hlex'⟩ := ih h
      refine ⟨(c :: rest).take n ++ before, after, m, ?_, by rw [Text.size_append]; omega, hlex'⟩
      rw [List.append_assoc, ← hdrop, List.take_append_drop]

/-- A token of a text stands at its position. -/
theorem standsIn_of_mem_scan {text : String} {t : Token} (h : t ∈ scan text) (ht : t.kind ≠ .stop) :
    t.StandsIn text := by
  obtain ⟨before, after, n, htext, hsize, hlex⟩ := exists_of_mem_scanFrom h ht
  exact ⟨before, after, n, htext, by omega, hlex⟩

/-- `t` is a token of the text, and `pre` are those before its position. -/
structure IsCut (text : String) (pre : List Token) (t : Token) : Prop where
  scan : ∃ post, scan text = pre ++ t :: post
  before : ∀ u ∈ pre, u.position < t.position
  stands : t.StandsIn text

theorem isCut_of_scan_eq {text : String} {pre post : List Token} {t : Token}
    (h : Token.scan text = pre ++ t :: post) (ht : t.kind ≠ .stop) : IsCut text pre t where
  scan := ⟨post, h⟩
  before u hu := by
    have hpairs := pairwise_scan text
    rw [h] at hpairs
    exact (List.pairwise_append.mp hpairs).2.2 u hu t List.mem_cons_self
  stands := standsIn_of_mem_scan (by rw [h]; simp) ht

end Token
end Formula
end PageBuilder
