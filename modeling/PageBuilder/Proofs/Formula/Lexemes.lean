import PageBuilder.Proofs.Formula.Quoting

/-!
# Lexemes

How a token of each kind is spelled can be said without scanning (`IsLexeme`). The token at the head
of a text is the longest lexeme there (`lexeme?_eq_some_iff`), and if there is none then no lexeme
is there (`lexeme?_eq_none_iff`). So a token does not depend on the text behind it, as long as this
makes it no longer (`lexeme?_of_append`).
-/

namespace PageBuilder
namespace Formula

/-- A number by its digits, those behind the point last; without such there is no point. -/
def numberChars (whole places : List Char) : List Char :=
  whole ++ if places = [] then [] else '.' :: places

/-- The characters spell a token of the kind. -/
def IsLexeme : TokenKind → List Char → Prop
  | .word name, cs =>
    ∃ c w, cs = c :: w ∧ isWordStart c = true ∧ (∀ d ∈ w, isWordChar d = true) ∧
      name = String.ofList cs
  | .number x, cs =>
    ∃ whole places, whole ≠ [] ∧ (∀ d ∈ whole, d.isDigit = true) ∧
      (∀ d ∈ places, d.isDigit = true) ∧
      cs = numberChars whole places ∧ x = Numeral.decimal false whole places 0
  | .text s, cs =>
    ∃ quote body, isQuote quote = true ∧ NeverCloses quote body ∧ ¬ Escapes body ∧
      cs = quote :: (body ++ [quote]) ∧
      s = String.ofList (unescaped body)
  | .mark m, cs => cs = m.chars
  | .stop, _ => False

/-- The characters are the longest lexeme at the head of a text. -/
structure IsLongest (cs : List Char) (k : TokenKind) (lexeme : List Char) : Prop where
  isLexeme : IsLexeme k lexeme
  isPrefix : lexeme <+: cs
  longest : ∀ k' other, other <+: cs → IsLexeme k' other → other.length ≤ lexeme.length

/-- Some lexeme is at the head of the text. -/
def StartsToken (cs : List Char) : Prop := ∃ k lexeme, lexeme <+: cs ∧ IsLexeme k lexeme

/-! ### Digits -/

theorem lexeme?_of_isDigit {c : Char} (h : c.isDigit = true) (rest : List Char) :
    lexeme? (c :: rest) = some (number (c :: rest)) := by
  have hquote : isQuote c = false := by
    rw [Bool.eq_false_iff]
    intro hquote
    rcases eq_of_isQuote hquote with rfl | rfl <;> revert h <;> decide
  simp [lexeme?, mark?_eq_none (.inr h), hquote, h]

theorem length_numberChars (whole places : List Char) :
    (numberChars whole places).length =
      whole.length + if places = [] then 0 else places.length + 1 := by
  unfold numberChars
  split <;> simp

/-- A run of digits with something else behind it is read up to its end, or up to that of its
fraction. -/
theorem number_of_digits {whole rest : List Char} (hwhole : ∀ d ∈ whole, d.isDigit = true)
    (hrest : ∀ d ∈ rest.head?, d.isDigit = false) :
    number (whole ++ rest) =
      (.number (Numeral.decimal false whole (fraction rest) 0),
        (numberChars whole (fraction rest)).length) := by
  simp only [number, Numeral.digits_append hwhole hrest, length_numberChars]

theorem isDigit_of_mem_fraction {cs : List Char} {d : Char} (h : d ∈ fraction cs) :
    d.isDigit = true := by
  unfold fraction at h
  split at h
  next => exact List.all_eq_true.mp List.all_takeWhile d h
  next => cases h

/-- The number by its digits is at the head of what it is read from. -/
theorem numberChars_fraction_prefix (whole rest : List Char) :
    numberChars whole (fraction rest) <+: whole ++ rest := by
  refine (List.prefix_append_right_inj whole).mpr ?_
  split
  next => exact List.nil_prefix
  next hplaces =>
    unfold fraction at hplaces ⊢
    split at hplaces
    next => exact (List.prefix_cons_inj '.').mpr (List.takeWhile_prefix _)
    next => exact absurd rfl hplaces

/-! ### What is scanned is a lexeme -/

theorem exists_lexeme_of_isDigit {c : Char} (h : c.isDigit = true) (rest : List Char) :
    ∃ lexeme, lexeme <+: c :: rest ∧ lexeme.length = (number (c :: rest)).2 ∧
      IsLexeme (number (c :: rest)).1 lexeme := by
  obtain ⟨whole, tail, hsplit, hwhole, htail⟩ := Numeral.exists_digits (c :: rest)
  have hne : whole ≠ [] := by
    rintro rfl
    have hc : c.isDigit = false := htail c (by rw [← List.nil_append tail, ← hsplit]; rfl)
    rw [h] at hc
    cases hc
  rw [hsplit, number_of_digits hwhole htail]
  exact ⟨_, numberChars_fraction_prefix whole tail, rfl, whole, fraction tail, hne, hwhole,
    fun d hd => isDigit_of_mem_fraction hd, rfl, rfl⟩

/-- The token at the head of a text is spelled there. -/
theorem exists_lexeme {cs : List Char} {k : TokenKind} {n : Nat} (h : lexeme? cs = some (k, n)) :
    ∃ lexeme, lexeme <+: cs ∧ lexeme.length = n ∧ IsLexeme k lexeme := by
  unfold lexeme? at h
  split at h
  next m hmark =>
    cases h
    obtain ⟨rest, rfl⟩ := chars_prefix_of_mark? hmark
    exact ⟨m.chars, List.prefix_append _ _, rfl, rfl⟩
  next =>
    split at h
    next => cases h
    next c rest _ =>
      split_ifs at h with hquote hdigit hstart
      · obtain ⟨p, hp, hkind⟩ := Option.map_eq_some_iff.mp h
        obtain ⟨body, rest, rfl, hopen, hescapes, rfl⟩ :=
          (quoted?_eq_some_iff (ne_backslash_of_isQuote hquote)).mp hp
        cases hkind
        exact ⟨c :: (body ++ [c]), ⟨rest, by simp⟩, by simp, c, body, hquote, hopen,
          hescapes, rfl, rfl⟩
      · have hnumber := exists_lexeme_of_isDigit hdigit rest
        rwa [Option.some.inj h] at hnumber
      · cases h
        have hstarts : (c :: rest).takeWhile isWordChar = c :: rest.takeWhile isWordChar := by
          simp [isWordChar_of_isWordStart hstart]
        refine ⟨_, List.takeWhile_prefix _, rfl, c, rest.takeWhile isWordChar, hstarts,
          hstart, ?_, rfl⟩
        exact List.all_eq_true.mp List.all_takeWhile

/-! ### A lexeme is scanned, or a longer one -/

theorem mark?_chars_append (m : Mark) (rest : List Char) :
    mark? (m.chars ++ rest) = some m ∨ ∃ m', mark? (m.chars ++ rest) = some m' ∧
      m.chars.length < m'.chars.length := by
  cases m with
  | greater | less | not =>
    -- an equals sign makes these longer
    rcases rest with _ | ⟨c, rest⟩
    · exact .inl rfl
    · by_cases hc : c = '='
      · subst hc
        exact .inr ⟨_, rfl, by decide⟩
      · exact .inl (by simp [Mark.chars, mark?, hc])
  | equal | notEqual | atLeast | atMost | and | or | dot | leftParen | rightParen => exact .inl rfl

/-- The digits of a number are read, and those that follow. -/
theorem exists_number_append {whole places : List Char} (hwhole : ∀ d ∈ whole, d.isDigit = true)
    (hplaces : ∀ d ∈ places, d.isDigit = true) (rest : List Char) :
    ∃ whole' places', number (numberChars whole places ++ rest) =
      (.number (Numeral.decimal false whole' places' 0), (numberChars whole' places').length) ∧
      whole <+: whole' ∧ places <+: places' := by
  by_cases hnone : places = []
  · -- more digits may follow, and then a fraction
    subst hnone
    obtain ⟨more, tail, rfl, hmore, htail⟩ := Numeral.exists_digits rest
    have hchars : numberChars whole [] ++ (more ++ tail) = (whole ++ more) ++ tail := by
      simp [numberChars]
    have hall := List.forall_mem_append.mpr ⟨hwhole, hmore⟩
    rw [hchars, number_of_digits hall htail]
    exact ⟨_, _, rfl, List.prefix_append _ _, List.nil_prefix⟩
  · -- the point ends the whole digits, and more may follow behind it
    have hpoint : ∀ d ∈ ('.' :: (places ++ rest)).head?, d.isDigit = false := by
      rintro d ⟨⟩
      decide
    have hchars : numberChars whole places ++ rest = whole ++ '.' :: (places ++ rest) := by
      simp [numberChars, hnone]
    have hfraction : fraction ('.' :: (places ++ rest)) = places ++ rest.takeWhile Char.isDigit :=
      List.takeWhile_append_of_pos hplaces
    rw [hchars, number_of_digits hwhole hpoint, hfraction]
    exact ⟨_, _, rfl, List.prefix_rfl, List.prefix_append _ _⟩

/-- More digits make a number longer. -/
theorem length_numberChars_le {whole whole' places places' : List Char} (hwhole : whole <+: whole')
    (hplaces : places <+: places') :
    (numberChars whole places).length ≤ (numberChars whole' places').length ∧
      ((numberChars whole' places').length = (numberChars whole places).length → whole' = whole ∧
        places' = places) := by
  have hle := hwhole.length_le
  have hle' := hplaces.length_le
  simp only [length_numberChars, ← List.length_eq_zero_iff]
  constructor
  · split_ifs <;> omega
  · intro hsame
    have hlengths : whole.length = whole'.length ∧ places.length = places'.length := by
      split_ifs at hsame <;> omega
    exact ⟨(hwhole.eq_of_length hlengths.1).symm, (hplaces.eq_of_length hlengths.2).symm⟩

/-- Where a lexeme is at the head of a text, a token is scanned that is no shorter, and if it is no
longer it is of the same kind. -/
theorem IsLexeme.exists_scanned {k : TokenKind} {lexeme : List Char} (h : IsLexeme k lexeme)
    (rest : List Char) :
    ∃ k' n, lexeme? (lexeme ++ rest) = some (k', n) ∧ lexeme.length ≤ n ∧
      (n = lexeme.length → k' = k) := by
  cases k with
  | word name =>
    obtain ⟨c, w, rfl, hstart, hw, rfl⟩ := h
    -- the word goes on as far as characters of words follow
    have hmore : ∀ d ∈ w ++ rest.takeWhile isWordChar, isWordChar d = true :=
      List.forall_mem_append.mpr ⟨hw, List.all_eq_true.mp List.all_takeWhile⟩
    have hend : ∀ d ∈ (rest.dropWhile isWordChar).head?, isWordChar d = false := fun _ =>
      Text.eq_false_of_mem_head?_dropWhile
    have hword := lexeme?_word hstart hmore hend
    rw [← List.cons_append, List.append_assoc, List.takeWhile_append_dropWhile] at hword
    refine ⟨_, _, hword, by simp, fun hn => ?_⟩
    have hnone : rest.takeWhile isWordChar = [] := by simpa using hn
    rw [hnone, List.append_nil]
  | number x =>
    obtain ⟨whole, places, hne, hwhole, hplaces, rfl, rfl⟩ := h
    obtain ⟨whole', places', hnumber, hprefix, hprefix'⟩ := exists_number_append hwhole hplaces rest
    obtain ⟨c, ds, rfl⟩ := List.exists_cons_of_ne_nil hne
    have hdigit : c.isDigit = true := hwhole c List.mem_cons_self
    obtain ⟨hle, hsame⟩ := length_numberChars_le hprefix hprefix'
    have hlex : lexeme? (numberChars (c :: ds) places ++ rest) =
        some (number (numberChars (c :: ds) places ++ rest)) :=
      lexeme?_of_isDigit hdigit _
    refine ⟨_, _, hlex.trans (congrArg some hnumber), hle, fun hn => ?_⟩
    obtain ⟨rfl, rfl⟩ := hsame hn
    rfl
  | text s =>
    obtain ⟨quote, body, hquote, hopen, hescapes, rfl, rfl⟩ := h
    have hquoted := quoted?_of_closed (ne_backslash_of_isQuote hquote) hopen hescapes rest
    refine ⟨.text (String.ofList (unescaped body)), body.length + 2, ?_, by simp, fun _ => rfl⟩
    simp [lexeme?_of_isQuote hquote, hquoted]
  | mark m =>
    obtain rfl : lexeme = m.chars := h
    rcases mark?_chars_append m rest with hmark | ⟨m', hmark, hlonger⟩
    · exact ⟨.mark m, m.chars.length, by simp [lexeme?, hmark], Nat.le_refl _, fun _ => rfl⟩
    · exact ⟨.mark m', m'.chars.length, by simp [lexeme?, hmark], Nat.le_of_lt hlonger,
        fun hn => by omega⟩
  | stop => exact h.elim

/-! ### The longest lexeme -/

/-- The token at the head of a text is the longest lexeme there. -/
theorem lexeme?_eq_some_iff {cs : List Char} {k : TokenKind} {n : Nat} :
    lexeme? cs = some (k, n) ↔ ∃ lexeme, IsLongest cs k lexeme ∧ lexeme.length = n := by
  constructor
  · intro h
    obtain ⟨lexeme, hprefix, hlength, hlexeme⟩ := exists_lexeme h
    refine ⟨lexeme, ⟨hlexeme, hprefix, fun k' other hother hother' => ?_⟩, hlength⟩
    obtain ⟨rest, rfl⟩ := hother
    obtain ⟨k'', n', hscanned, hle, -⟩ := hother'.exists_scanned rest
    obtain ⟨-, rfl⟩ := Prod.mk.inj (Option.some.inj (h.symm.trans hscanned))
    omega
  · rintro ⟨lexeme, ⟨hlexeme, ⟨rest, rfl⟩, hlongest⟩, rfl⟩
    obtain ⟨k', n, hscanned, hle, hkind⟩ := hlexeme.exists_scanned rest
    obtain ⟨other, hother, hlength, hother'⟩ := exists_lexeme hscanned
    have hle' := hlongest k' other hother hother'
    have hn : n = lexeme.length := by omega
    rw [hscanned, hkind hn, hn]

theorem lexeme?_eq_none_iff {cs : List Char} : lexeme? cs = none ↔ ¬ StartsToken cs := by
  constructor
  · rintro h ⟨k, lexeme, ⟨rest, rfl⟩, hlexeme⟩
    obtain ⟨k', n, hscanned, -⟩ := hlexeme.exists_scanned rest
    rw [h] at hscanned
    cases hscanned
  · intro h
    cases hscanned : lexeme? cs with
    | none => rfl
    | some p =>
      obtain ⟨lexeme, hprefix, -, hlexeme⟩ := exists_lexeme hscanned
      exact absurd ⟨_, lexeme, hprefix, hlexeme⟩ h

/-- A token that ends in the first part of a text is there without the second part. -/
theorem lexeme?_of_append {cs more : List Char} {k : TokenKind} {n : Nat}
    (h : lexeme? (cs ++ more) = some (k, n)) (hn : n ≤ cs.length) : lexeme? cs = some (k, n) := by
  obtain ⟨lexeme, ⟨hlexeme, hprefix, hlongest⟩, rfl⟩ := lexeme?_eq_some_iff.mp h
  have hfirst : lexeme <+: cs :=
    List.prefix_of_prefix_length_le hprefix (List.prefix_append cs more) hn
  refine lexeme?_eq_some_iff.mpr ⟨lexeme, ⟨hlexeme, hfirst, fun k' other hother hother' => ?_⟩, rfl⟩
  exact hlongest k' other (hother.trans (List.prefix_append cs more)) hother'

end Formula
end PageBuilder
