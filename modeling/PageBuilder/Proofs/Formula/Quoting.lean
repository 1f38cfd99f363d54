import Mathlib.Data.List.DropRight
import PageBuilder.Proofs.Formula.Spelling

/-!
# Where quotes close

A backslash takes the character behind it along, so a character is escaped if an odd number of
backslashes stands before it (`Escapes`). A quoted text goes up to the first quote of its kind that
is not escaped (`quoted?_eq_some_iff`), and if there is none the quote is never closed
(`quoted?_eq_none_iff`). So every text can be put in quotes, and is read back from them whatever
follows; and a quote that is never closed ends the tokens (`quoted_texts_read_back`).
-/

namespace PageBuilder
namespace Formula

/-! ### Escaped characters -/

/-- The number of backslashes at the end. -/
def backslashes (cs : List Char) : Nat := (cs.rtakeWhile (· == '\\')).length

/-- A character behind these is escaped: they end in an odd number of backslashes. -/
def Escapes (cs : List Char) : Prop := backslashes cs % 2 = 1

instance (cs : List Char) : Decidable (Escapes cs) := inferInstanceAs (Decidable (_ = _))

/-- Of two backslashes the second one is escaped itself, and what follows is not. -/
example : Escapes "it\\".toList ∧ ¬ Escapes "it\\\\".toList := by decide

theorem not_escapes_nil : ¬ Escapes [] := by decide

theorem escapes_concat_backslash (cs : List Char) : Escapes (cs ++ ['\\']) ↔ ¬ Escapes cs := by
  have hcount : backslashes (cs ++ ['\\']) = backslashes cs + 1 := by simp [backslashes]
  unfold Escapes
  omega

theorem not_escapes_concat {c : Char} (h : c ≠ '\\') (cs : List Char) : ¬ Escapes (cs ++ [c]) := by
  have hcount : backslashes (cs ++ [c]) = 0 := by simp [backslashes, h]
  unfold Escapes
  omega

/-- What does not escape the next character counts for nothing. -/
theorem escapes_append {pre : List Char} (h : ¬ Escapes pre) (cs : List Char) :
    Escapes (pre ++ cs) ↔ Escapes cs := by
  -- from the end, where the backslashes are
  induction cs using List.reverseRecOn with
  | nil =>
    rw [List.append_nil]
    exact iff_of_false h not_escapes_nil
  | append_singleton cs d ih =>
    rw [← List.append_assoc]
    by_cases hd : d = '\\'
    · rw [hd, escapes_concat_backslash, escapes_concat_backslash, ih]
    · exact iff_of_false (not_escapes_concat hd _) (not_escapes_concat hd _)

theorem not_escapes_singleton {c : Char} (h : c ≠ '\\') : ¬ Escapes [c] := not_escapes_concat h []

/-- A backslash takes one character along. -/
theorem not_escapes_backslash_pair (c : Char) : ¬ Escapes ['\\', c] := by
  by_cases hc : c = '\\'
  · subst hc
    decide
  · exact not_escapes_concat hc ['\\']

/-! ### Closing quotes -/

/-- None of the characters closes the quote: where one of them is the same quote, it is escaped. -/
def NeverCloses (quote : Char) (cs : List Char) : Prop :=
  ∀ before after, cs = before ++ quote :: after → Escapes before

section Closing

variable {quote : Char}

theorem neverCloses_nil : NeverCloses quote [] := by
  intro before after h
  simp at h

theorem not_neverCloses_quote (cs : List Char) : ¬ NeverCloses quote (quote :: cs) := by
  intro h
  exact not_escapes_nil (h [] cs rfl)

theorem neverCloses_append {pre : List Char} (hpre : NeverCloses quote pre)
    (hescapes : ¬ Escapes pre) (cs : List Char) :
    NeverCloses quote (pre ++ cs) ↔ NeverCloses quote cs := by
  constructor
  · intro h before after hcs
    have hlater : Escapes (pre ++ before) :=
      h (pre ++ before) after (by rw [hcs, List.append_assoc])
    exact (escapes_append hescapes before).mp hlater
  · intro h before after hcs
    rcases List.append_eq_append_iff.mp hcs with ⟨more, hbefore, hmore⟩ | ⟨more, hsplit, hmore⟩
    · rw [hbefore]
      exact (escapes_append hescapes more).mpr (h more after hmore)
    · cases more with
      | nil =>
        -- the quote is the first character behind `pre`
        rw [List.nil_append] at hmore
        rw [← hmore] at h
        exact absurd h (not_neverCloses_quote after)
      | cons c more =>
        obtain ⟨rfl, -⟩ := List.cons_eq_cons.mp hmore
        exact hpre before more hsplit

theorem neverCloses_singleton {c : Char} (h : c ≠ quote) : NeverCloses quote [c] := by
  intro before after hcs
  cases before with
  | nil => exact absurd (List.cons_eq_cons.mp hcs).1 h
  | cons b before => simp at hcs

theorem neverCloses_cons {c : Char} (hquote : c ≠ quote) (hslash : c ≠ '\\') (cs : List Char) :
    NeverCloses quote (c :: cs) ↔ NeverCloses quote cs :=
  neverCloses_append (neverCloses_singleton hquote) (not_escapes_singleton hslash) cs

variable (hquote : '\\' ≠ quote)

include hquote

/-- What a backslash takes along closes nothing. -/
theorem neverCloses_backslash_pair (c : Char) : NeverCloses quote ['\\', c] := by
  intro before after hcs
  rcases before with _ | ⟨b, _ | ⟨b', before⟩⟩
  · exact absurd (List.cons_eq_cons.mp hcs).1 hquote
  · obtain ⟨rfl, -⟩ := List.cons_eq_cons.mp hcs
    show Escapes ['\\']
    decide
  · simp at hcs

theorem neverCloses_backslash_cons (c : Char) (cs : List Char) :
    NeverCloses quote ('\\' :: c :: cs) ↔ NeverCloses quote cs :=
  neverCloses_append (neverCloses_backslash_pair hquote c) (not_escapes_backslash_pair c) cs

theorem quoted?_eq_none_iff {cs : List Char} : quoted? quote cs = none ↔ NeverCloses quote cs := by
  fun_induction quoted? quote cs with
  | case1 => exact iff_of_true rfl neverCloses_nil
  | case2 cs => exact iff_of_false (Option.some_ne_none _) (not_neverCloses_quote cs)
  | case3 => exact iff_of_true rfl (neverCloses_singleton hquote)
  | case4 c cs _ ih => rw [Option.map_eq_none_iff, ih, neverCloses_backslash_cons hquote]
  | case5 c cs hc hslash ih => rw [Option.map_eq_none_iff, ih, neverCloses_cons hc hslash]

end Closing

/-! ### What stands between quotes -/

/-- The text that the characters between two quotes stand for. -/
def unescaped : List Char → List Char
  | '\\' :: c :: cs => unescape c :: unescaped cs
  | c :: cs => c :: unescaped cs
  | [] => []

theorem unescaped_cons {c : Char} (h : c ≠ '\\') (cs : List Char) :
    unescaped (c :: cs) = c :: unescaped cs := by
  cases cs <;> simp [unescaped, h]

section Contents

variable {quote : Char} (hquote : '\\' ≠ quote)

include hquote

theorem quoted?_of_closed {body : List Char} (hopen : NeverCloses quote body)
    (hescapes : ¬ Escapes body) (rest : List Char) :
    quoted? quote (body ++ quote :: rest) = some (unescaped body, body.length + 1) := by
  fun_induction unescaped body with
  | case1 c cs ih =>
    rw [neverCloses_backslash_cons hquote] at hopen
    have hescapes' : ¬ Escapes cs :=
      mt (escapes_append (not_escapes_backslash_pair c) cs).mpr hescapes
    rw [List.cons_append, List.cons_append, quoted?.eq_def]
    simp [hquote, ih hopen hescapes']
  | case2 c cs hslash ih =>
    have hne : c ≠ quote := by
      rintro rfl
      exact not_neverCloses_quote cs hopen
    have hplain : c ≠ '\\' := by
      rintro rfl
      -- a backslash at the very end would take the closing quote along
      cases cs with
      | nil => exact hescapes (by decide)
      | cons d cs => exact hslash d cs rfl rfl
    rw [neverCloses_cons hne hplain] at hopen
    have hescapes' : ¬ Escapes cs :=
      mt (escapes_append (not_escapes_singleton hplain) cs).mpr hescapes
    rw [List.cons_append, quoted?.eq_def]
    simp [hne, hplain, ih hopen hescapes']
  | case3 =>
    rw [List.nil_append, quoted?.eq_def]
    simp

theorem exists_of_quoted? {cs : List Char} {p : List Char × Nat} (h : quoted? quote cs = some p) :
    ∃ body rest, cs = body ++ quote :: rest ∧ NeverCloses quote body ∧ ¬ Escapes body ∧
      p = (unescaped body, body.length + 1) := by
  fun_induction quoted? quote cs generalizing p with
  | case1 | case3 => cases h
  | case2 cs =>
    cases h
    exact ⟨[], cs, rfl, neverCloses_nil, not_escapes_nil, rfl⟩
  | case4 c cs _ ih =>
    obtain ⟨p', hp', rfl⟩ := Option.map_eq_some_iff.mp h
    obtain ⟨body, rest, rfl, hopen, hescapes, rfl⟩ := ih hp'
    refine ⟨'\\' :: c :: body, rest, rfl, ?_, ?_, rfl⟩
    · rwa [neverCloses_backslash_cons hquote]
    · exact mt (escapes_append (not_escapes_backslash_pair c) body).mp hescapes
  | case5 c cs hc hslash ih =>
    obtain ⟨p', hp', rfl⟩ := Option.map_eq_some_iff.mp h
    obtain ⟨body, rest, rfl, hopen, hescapes, rfl⟩ := ih hp'
    refine ⟨c :: body, rest, rfl, ?_, ?_, ?_⟩
    · rwa [neverCloses_cons hc hslash]
    · exact mt (escapes_append (not_escapes_singleton hslash) body).mp hescapes
    · rw [unescaped_cons hslash, List.length_cons]

/-- A quoted text goes up to the first quote that is not escaped. -/
theorem quoted?_eq_some_iff {cs : List Char} {p : List Char × Nat} :
    quoted? quote cs = some p ↔
      ∃ body rest, cs = body ++ quote :: rest ∧ NeverCloses quote body ∧ ¬ Escapes body ∧
        p = (unescaped body, body.length + 1) := by
  constructor
  · exact exists_of_quoted? hquote
  · rintro ⟨body, rest, rfl, hopen, hescapes, rfl⟩
    exact quoted?_of_closed hquote hopen hescapes rest

end Contents

/-! ### Quoted texts in formulas -/

theorem lexeme?_of_isQuote {quote : Char} (h : isQuote quote = true) (rest : List Char) :
    lexeme? (quote :: rest) = (quoted? quote rest).map fun p =>
      (.text (String.ofList p.1), p.2 + 1) := by
  simp [lexeme?, mark?_eq_none (.inl h), h]

namespace Token

/-- A quote is a seam, so what is all tokens before it stays as it is; and the quote is the next
token or ends them. -/
theorem scan_append_quote {quote : Char} (h : isQuote quote = true) {a : String} (ha : IsWhole a)
    (rest : String) :
    scan (a ++ String.singleton quote ++ rest) =
      (scan a).dropLast ++ scanFrom (Text.size a.toList) (quote :: rest.toList) := by
  have hchars : (a ++ String.singleton quote ++ rest).toList =
    a.toList ++ quote :: rest.toList := by simp
  have hseam : ∀ c ∈ (quote :: rest.toList).head?, isSeam c = true := by
    rintro c ⟨⟩
    rcases eq_of_isQuote h with rfl | rfl <;> decide
  rw [scan, hchars, ha.scan_append hseam]

theorem scanFrom_quote_eq_stop_iff {quote : Char} (h : isQuote quote = true) (position : Nat)
    (rest : List Char) :
    scanFrom position (quote :: rest) = [⟨.stop, position⟩] ↔ NeverCloses quote rest := by
  have hlex := lexeme?_of_isQuote h rest
  rw [← quoted?_eq_none_iff (ne_backslash_of_isQuote h)]
  cases hquoted : quoted? quote rest with
  | none =>
    rw [hquoted, Option.map_none] at hlex
    exact iff_of_true (scanFrom_of_lexeme?_eq_none (isBlank_of_isQuote h) hlex position) rfl
  | some p =>
    rw [hquoted, Option.map_some] at hlex
    have hblank : ∀ c ∈ (quote :: rest).head?, Text.isBlank c = false := by
      rintro c ⟨⟩
      exact isBlank_of_isQuote h
    rw [scanFrom_of_lexeme? hblank hlex]
    simp

end Token

theorem parse_inQuotes {quote : Char} (h : isQuote quote = true) (s : String) :
    parse (inQuotes quote s) = .ok (.literal (.string s)) := by
  obtain ⟨l, hvalue, hl⟩ := exists_spells_literal h (v := .string s) rfl
  let sentence : Sentence := .last .or (.last .and (.lone (.literal l)))
  have hparse : parse (inQuotes quote s) = .ok sentence.formula :=
    Spells.parse_eq hl (Nat.zero_le _)
  have hformula : sentence.formula = .literal l.value := rfl
  rw [hparse, hformula, hvalue]

/-- **Texts in quotes**: every text in quotes of either kind, with a backslash before each backslash
and each quote of that kind, is read as one token up to the closing quote, whatever follows; so it
is a formula, and its value is the text. An opening quote behind what is all tokens adds no token
exactly if no quote behind it is unescaped, and then it ends the tokens. -/
theorem quoted_texts_read_back {quote : Char} (h : isQuote quote = true) (s : String) :
    (∀ rest : String, Token.scan (inQuotes quote s ++ rest) =
      ⟨.text s, 0⟩ :: Token.scanFrom (Text.size (inQuotes quote s).toList) rest.toList) ∧
    (∃ x, parse (inQuotes quote s) = .ok x ∧ ∀ scope, eval scope x = some (.string s)) ∧
    ∀ a rest : String, Token.IsWhole a →
      (Token.scan (a ++ String.singleton quote ++ rest) = Token.scan a ↔
        NeverCloses quote rest.toList) := by
  refine ⟨fun rest => ?_, ⟨_, parse_inQuotes h s, fun scope => rfl⟩, fun a rest ha => ?_⟩
  · have hscan := Token.scanFrom_inQuotes h s 0 rest.toList
    rwa [← String.toList_append, Nat.zero_add] at hscan
  · obtain ⟨body, last, hscan, -⟩ := Token.scan_eq a
    have hlast : last = Text.size a.toList := by
      have hstop : (Token.scan a).getLast? = some ⟨.stop, last⟩ := by
        rw [hscan, List.getLast?_concat]
      have hsame := Option.some.inj (hstop.symm.trans ha)
      exact congrArg Token.position hsame
    rw [Token.scan_append_quote h ha, hscan, List.dropLast_concat, hlast,
      List.append_cancel_left_eq]
    exact Token.scanFrom_quote_eq_stop_iff h _ _

/-- A text with a quote, a backslash and a character of two bytes is read back; and an escaped quote
closes nothing. -/
theorem quoted_texts_read_back_escaped :
    isQuote '\x27' = true ∧
      Token.scan (inQuotes '\x27' "it's \\ é" ++ " == b") =
        ⟨.text "it's \\ é", 0⟩ :: Token.scanFrom (Text.size (inQuotes '\x27' "it's \\ é").toList)
          " == b".toList ∧
      Token.scan ("a == " ++ String.singleton '\x27' ++ "it\\'s") = Token.scan "a == " := by
  have hquote : isQuote '\x27' = true := by decide
  have hwhole : Token.IsWhole "a == " := by decide +kernel
  have hopen : NeverCloses '\x27' "it\\'s".toList :=
    (quoted?_eq_none_iff (ne_backslash_of_isQuote hquote)).mp (by decide +kernel)
  refine ⟨hquote, ?_, ?_⟩
  · exact (quoted_texts_read_back hquote "it's \\ é").1 " == b"
  · exact ((quoted_texts_read_back hquote "").2.2 "a == " "it\\'s" hwhole).mpr hopen

end Formula
end PageBuilder
