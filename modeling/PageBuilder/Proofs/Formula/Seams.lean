import PageBuilder.Proofs.Formula.Words

/-!
# Texts one after the other

With a seam, such as a closing parenthesis or a blank, no token goes on (`isSeam`). So where a text
that is all tokens (`Token.IsWhole`) is followed by a seam, its tokens are those that it has by
itself, and scanning goes on after it (`scanFrom_append`). Where a text starts moves the positions
of its tokens and nothing else (`scanFrom_add`).
-/

namespace PageBuilder
namespace Formula

/-- A character with which no token goes on. -/
def isSeam (c : Char) : Bool := !isWordChar c && !(['=', '&', '|', '.'].contains c)

section Lexemes

variable {cs more : List Char} (hmore : ∀ c ∈ more.head?, isSeam c = true)

theorem isWordChar_of_isSeam {c : Char} (h : isSeam c = true) : isWordChar c = false := by
  simp only [isSeam, Bool.and_eq_true, Bool.not_eq_true'] at h
  exact h.1

theorem isDigit_of_isSeam {c : Char} (h : isSeam c = true) : c.isDigit = false := by
  have hword := isWordChar_of_isSeam h
  simp only [isWordChar, Char.isAlphanum, Bool.or_eq_false_iff] at hword
  exact hword.1.1.2

theorem ne_of_isSeam {c d : Char} (h : isSeam c = true)
    (hd : d ∈ ['=', '&', '|', '.']) : c ≠ d := by
  rintro rfl
  simp only [isSeam, Bool.and_eq_true, Bool.not_eq_true', List.contains_eq_mem,
    decide_eq_false_iff_not] at h
  exact h.2 hd

/-! ### The token at the head -/

/-- A quote or a digit begins no mark. -/
theorem mark?_eq_none {c : Char} (h : isQuote c = true ∨ c.isDigit = true) (cs : List Char) :
    mark? (c :: cs) = none := by
  rcases hmark : mark? (c :: cs) with _ | m
  · rfl
  · obtain ⟨rest, hrest⟩ := chars_prefix_of_mark? hmark
    cases m <;> cases hrest <;> revert h <;> decide

theorem quoted?_append {quote : Char} {p : List Char × Nat} (h : quoted? quote cs = some p) :
    quoted? quote (cs ++ more) = some p := by
  fun_induction quoted? quote cs generalizing p with
  | case1 => cases h
  | case2 cs =>
    rw [List.cons_append, quoted?.eq_def]
    simpa using h
  | case3 => cases h
  | case4 e cs hquote ih =>
    obtain ⟨p', hp', rfl⟩ := Option.map_eq_some_iff.mp h
    rw [List.cons_append, quoted?.eq_def]
    simp [hquote, ih hp']
  | case5 c cs hquote hslash ih =>
    obtain ⟨p', hp', rfl⟩ := Option.map_eq_some_iff.mp h
    rw [List.cons_append, quoted?.eq_def]
    simp [hquote, hslash, ih hp']

include hmore

theorem mark?_append {m : Mark} (h : mark? cs = some m) : mark? (cs ++ more) = some m := by
  unfold mark? at h
  split at h <;> cases h
  case h_7 tail hlonger | h_8 tail hlonger | h_9 tail hlonger =>
    -- a second character would make a longer mark: it was not there, and is not there now
    have hshort : ∀ rest, tail ++ more = '=' :: rest → False := by
      intro rest hrest
      cases tail with
      | nil =>
        exact ne_of_isSeam (hmore '=' (by rw [List.nil_append] at hrest; rw [hrest]; rfl))
          (by decide) rfl
      | cons d tail =>
        obtain ⟨rfl, -⟩ := List.cons_eq_cons.mp hrest
        exact hlonger tail rfl
    simp [mark?]
  all_goals rfl

theorem fraction_append : fraction (cs ++ more) = fraction cs := by
  cases cs with
  | nil =>
    cases more with
    | nil => rfl
    | cons c more =>
      have hdot := ne_of_isSeam (hmore c rfl) (d := '.') (by decide)
      simp [fraction, hdot]
  | cons c cs =>
    by_cases hdot : c = '.'
    · subst hdot
      exact Text.takeWhile_append_of_head? fun d hd => isDigit_of_isSeam (hmore d hd)
    · simp [fraction, hdot]

theorem number_append : number (cs ++ more) = number cs := by
  have hdigit : ∀ c ∈ more.head?, c.isDigit = false := fun c hc => isDigit_of_isSeam (hmore c hc)
  unfold number Numeral.digits
  dsimp only
  rw [Text.takeWhile_append_of_head? hdigit, Text.dropWhile_append_of_head? hdigit,
    fraction_append hmore]

/-- The token at the head is the same with a seam and more behind it. -/
theorem lexeme?_append {k : TokenKind} {n : Nat} (h : lexeme? cs = some (k, n)) :
    lexeme? (cs ++ more) = some (k, n) := by
  unfold lexeme? at h
  split at h
  next m hmark => simpa [lexeme?, mark?_append hmore hmark] using h
  next hmark =>
    split at h
    next => cases h
    next c rest =>
      split_ifs at h with hquote hdigit hstart
      · obtain ⟨p, hp, hkind⟩ := Option.map_eq_some_iff.mp h
        simp only [List.cons_append, lexeme?, mark?_eq_none (.inl hquote), hquote,
          quoted?_append hp, if_true, Option.map_some, hkind]
      · rw [← number_append hmore, List.cons_append] at h
        simp only [List.cons_append, lexeme?, mark?_eq_none (.inr hdigit), hquote, hdigit, h,
          if_true, Bool.false_eq_true, if_false]
      · have hword : ∀ d ∈ more.head?, isWordChar d = false := fun d hd =>
          isWordChar_of_isSeam (hmore d hd)
        rw [← Text.takeWhile_append_of_head? hword, List.cons_append] at h
        simp only [List.cons_append, lexeme?, mark?_of_isWordStart hstart, hquote, hdigit, hstart,
          h, if_true, Bool.false_eq_true, if_false]

end Lexemes

/-! ### A token is no longer than the text -/

theorem length_quoted?_le {quote : Char} {cs : List Char} {p : List Char × Nat}
    (h : quoted? quote cs = some p) :
    p.2 ≤ cs.length := by
  fun_induction quoted? quote cs generalizing p with
  | case1 | case3 => cases h
  | case2 cs =>
    cases h
    simp
  | case4 e cs hquote ih =>
    obtain ⟨p', hp', rfl⟩ := Option.map_eq_some_iff.mp h
    have := ih hp'
    simp only [List.length_cons]
    omega
  | case5 c cs hquote hslash ih =>
    obtain ⟨p', hp', rfl⟩ := Option.map_eq_some_iff.mp h
    have := ih hp'
    simp only [List.length_cons]
    omega

theorem length_number_le (cs : List Char) : (number cs).2 ≤ cs.length := by
  have hsplit :=
    congrArg List.length (List.takeWhile_append_dropWhile (p := Char.isDigit) (l := cs))
  rw [List.length_append] at hsplit
  have hfraction : ∀ rest, fraction rest ≠ [] → (fraction rest).length + 1 ≤ rest.length := by
    intro rest hplaces
    unfold fraction at hplaces ⊢
    split at hplaces
    next cs => exact Nat.succ_le_succ (List.takeWhile_prefix _).length_le
    next => exact absurd rfl hplaces
  unfold number Numeral.digits
  dsimp only
  split
  next => omega
  next hplaces =>
    have := hfraction _ hplaces
    omega

theorem length_lexeme?_le {cs : List Char} {k : TokenKind} {n : Nat}
    (h : lexeme? cs = some (k, n)) : n ≤ cs.length := by
  unfold lexeme? at h
  split at h
  next m hmark =>
    obtain ⟨rest, rfl⟩ := chars_prefix_of_mark? hmark
    cases h
    simp
  next =>
    split at h
    next => cases h
    next c rest _ =>
      split_ifs at h with hquote hdigit hstart
      · obtain ⟨p, hp, hkind⟩ := Option.map_eq_some_iff.mp h
        cases hkind
        exact Nat.succ_le_succ (length_quoted?_le hp)
      · have hle := length_number_le (c :: rest)
        rwa [Option.some.inj h] at hle
      · cases h
        exact (List.takeWhile_prefix _).length_le

/-! ### All tokens -/

namespace Token

/-- The token at the head, and then the others. -/
theorem scanFrom_of_lexeme? {cs : List Char} {k : TokenKind} {n : Nat}
    (hblank : ∀ c ∈ cs.head?, Text.isBlank c = false) (h : lexeme? cs = some (k, n))
    (position : Nat) :
    scanFrom position cs = ⟨k, position⟩ ::
      scanFrom (position + Text.size (cs.take n)) (cs.drop n) := by
  cases cs with
  | nil => cases h
  | cons c rest =>
    rw [scanFrom, if_neg (by rw [hblank c rfl]; exact Bool.false_ne_true)]
    split
    next hnone => simp [hnone] at h
    next kind n' hsome =>
      obtain ⟨rfl, rfl⟩ := Prod.mk.inj (Option.some.inj (hsome.symm.trans h))
      rfl

/-- Where no token starts, the tokens end. -/
theorem scanFrom_of_lexeme?_eq_none {c : Char} {rest : List Char} (hblank : Text.isBlank c = false)
    (h : lexeme? (c :: rest) = none) (position : Nat) :
    scanFrom position (c :: rest) = [⟨.stop, position⟩] := by
  rw [scanFrom, if_neg (by rw [hblank]; exact Bool.false_ne_true)]
  split
  next => rfl
  next hsome => simp [h] at hsome

theorem scanFrom_blank {c : Char} (h : Text.isBlank c = true) (position : Nat) (rest : List Char) :
    scanFrom position (c :: rest) = scanFrom (position + c.utf8Size) rest := by
  rw [scanFrom, if_pos h]

/-- A mark that nothing makes longer is a token. -/
theorem scanFrom_mark {m : Mark} {rest : List Char} (h : mark? (m.chars ++ rest) = some m)
    (position : Nat) :
    scanFrom position (m.chars ++ rest) = ⟨.mark m, position⟩ ::
      scanFrom (position + Text.size m.chars) rest := by
  have hlex : lexeme? (m.chars ++ rest) = some (.mark m, m.chars.length) := by simp [lexeme?, h]
  have hblank : ∀ c ∈ (m.chars ++ rest).head?, Text.isBlank c = false := by
    cases m <;> rintro c ⟨⟩ <;> decide
  rw [scanFrom_of_lexeme? hblank hlex, List.take_left, List.drop_left]

theorem scanFrom_ne_nil (position : Nat) (cs : List Char) : scanFrom position cs ≠ [] := by
  obtain ⟨body, last, hscan, -⟩ := scanFrom_eq position cs
  simp [hscan]

/-- A text further back has the same tokens further back. -/
theorem scanFrom_add (start position : Nat) (cs : List Char) :
    scanFrom (start + position) cs = (scanFrom position cs).map fun t =>
      ⟨t.kind, start + t.position⟩ := by
  fun_induction scanFrom position cs with
  | case1 position => simp [scanFrom]
  | case2 position c rest hblank ih => rw [scanFrom_blank hblank, Nat.add_assoc, ih]
  | case3 position c rest hblank hlex =>
    rw [scanFrom_of_lexeme?_eq_none (by simpa using hblank) hlex, List.map_singleton]
  | case4 position c rest hblank kind n hlex ih =>
    have hhead : ∀ d ∈ (c :: rest).head?, Text.isBlank d = false := by
      rintro d ⟨⟩
      simpa using hblank
    rw [scanFrom_of_lexeme? hhead hlex, Nat.add_assoc, ih, List.map_cons]

/-- The tokens of the text go to its end: every character is blank or in a token, and no quote is
left open. -/
def IsWhole (text : String) : Prop := (scan text).getLast? = some ⟨.stop, Text.size text.toList⟩

instance (text : String) : Decidable (IsWhole text) := inferInstanceAs (Decidable (_ = _))

/-- What is all tokens has the same tokens with a seam behind it, and scanning goes on there. -/
theorem scanFrom_append {position : Nat} {cs more : List Char}
    (hmore : ∀ c ∈ more.head?, isSeam c = true)
    (h : (scanFrom position cs).getLast? = some ⟨.stop, position + Text.size cs⟩) :
    scanFrom position (cs ++ more) = (scanFrom position cs).dropLast ++
      scanFrom (position + Text.size cs) more := by
  fun_induction scanFrom position cs with
  | case1 position => simp
  | case2 position c rest hblank ih =>
    rw [Text.size_cons, ← Nat.add_assoc] at h ⊢
    rw [List.cons_append, scanFrom_blank hblank, ih h]
  | case3 position c rest hblank hlex =>
    -- the scan stops before its first character
    have hpos := c.utf8Size_pos
    simp at h
    omega
  | case4 position c rest hblank kind n hlex ih =>
    have hle := length_lexeme?_le hlex
    have hhead : ∀ d ∈ ((c :: rest) ++ more).head?, Text.isBlank d = false := by
      rintro d ⟨⟩
      simpa using hblank
    have hsize : Text.size (c :: rest) = Text.size ((c :: rest).take n) +
        Text.size ((c :: rest).drop n) := by
      rw [← Text.size_append, List.take_append_drop]
    rw [hsize, ← Nat.add_assoc] at h ⊢
    rw [List.getLast?_cons_of_ne_nil (scanFrom_ne_nil _ _)] at h
    rw [scanFrom_of_lexeme? hhead (lexeme?_append hmore hlex), List.take_append_of_le_length hle,
      List.drop_append_of_le_length hle, ih h, List.dropLast_cons_of_ne_nil (scanFrom_ne_nil _ _),
      List.cons_append]

theorem IsWhole.scan_append {text : String} (h : IsWhole text) {more : List Char}
    (hmore : ∀ c ∈ more.head?, isSeam c = true) :
    scanFrom 0 (text.toList ++ more) = (scan text).dropLast ++
      scanFrom (Text.size text.toList) more := by
  have hlast : (scanFrom 0 text.toList).getLast? = some ⟨.stop, 0 + Text.size text.toList⟩ := by
    rw [Nat.zero_add]
    exact h
  rw [Token.scanFrom_append hmore hlast, Nat.zero_add]
  rfl

/-- A text that is all tokens, somewhere in a longer text and with a seam behind it, has the kinds
of its own tokens. -/
theorem IsWhole.scanFrom_append {text : String} (h : IsWhole text) {more : List Char}
    (hmore : ∀ c ∈ more.head?, isSeam c = true) (position : Nat) :
    ∃ ts next, scanFrom position (text.toList ++ more) = ts ++ scanFrom next more ∧
      ts.map kind = kinds text := by
  have hscan := scanFrom_add position 0 text.toList
  have hlast : (scanFrom position text.toList).getLast? =
      some ⟨.stop, position + Text.size text.toList⟩ := by
    rw [← Nat.add_zero position, hscan, List.getLast?_map,
      show (scanFrom 0 text.toList).getLast? = _ from h]
    rfl
  refine ⟨_, _, Token.scanFrom_append hmore hlast, ?_⟩
  rw [← Nat.add_zero position, hscan, ← List.map_dropLast, List.map_map]
  rfl

end Token
end Formula
end PageBuilder
