import PageBuilder.Proofs.Formula.Lexemes
import PageBuilder.Proofs.Formula.Positions

/-!
# How tokens lie in a text

The tokens of a text and the blanks between them fill it up to the stop (`Token.Laid`), and no other
tokens do (`laid_iff`). A text that is cut before a token has the tokens before it (`exists_cut`),
and blanks that are put there change no token (`map_kind_scan_blanks`). All together is
`scan_layout`.
-/

namespace PageBuilder
namespace Formula

/-- Nothing follows, or no blank and no token: a character with which none starts, or a quote that
is never closed. -/
def Stops : List Char → Prop
  | [] => True
  | c :: rest =>
    Text.isBlank c = false ∧
      (isQuote c = true ∧ NeverCloses c rest ∨ isQuote c = false ∧ ¬ StartsToken (c :: rest))

/-! ### Blanks and tokens -/

theorem isBlank_of_isDigit {c : Char} (h : c.isDigit = true) : Text.isBlank c = false := by
  simp only [Char.isDigit, Bool.and_eq_true, decide_eq_true_eq, UInt32.le_iff_toNat_le,
    ge_iff_le] at h
  have hc : 48 ≤ c.toNat ∧ c.toNat ≤ 57 := h
  simp [Text.isBlank, Text.blankRanges]
  omega

theorem isBlank_of_isWordChar {c : Char} (h : isWordChar c = true) : Text.isBlank c = false := by
  cases hdigit : c.isDigit with
  | true => exact isBlank_of_isDigit hdigit
  | false =>
    have hstart : isWordStart c = true := by
      simpa [isWordChar, isWordStart, Char.isAlphanum, hdigit] using h
    exact isBlank_of_isWordStart hstart

/-- No token goes on with a blank. -/
theorem isSeam_of_isBlank {c : Char} (h : Text.isBlank c = true) : isSeam c = true := by
  have hword : isWordChar c = false := by
    rw [Bool.eq_false_iff]
    intro hword
    rw [isBlank_of_isWordChar hword] at h
    cases h
  have hmarks : c ∉ ['=', '&', '|', '.'] := by
    intro hmem
    simp only [List.mem_cons, List.not_mem_nil, or_false] at hmem
    rcases hmem with rfl | rfl | rfl | rfl
    all_goals
      revert h
      decide
  simp [isSeam, hword, List.contains_eq_mem, hmarks]

/-- A lexeme starts with a character that is no blank. -/
theorem IsLexeme.exists_cons {k : TokenKind} {lexeme : List Char} (h : IsLexeme k lexeme) :
    ∃ c tail, lexeme = c :: tail ∧ Text.isBlank c = false := by
  cases k with
  | word name =>
    obtain ⟨c, w, rfl, hstart, -⟩ := h
    exact ⟨c, w, rfl, isBlank_of_isWordStart hstart⟩
  | number x =>
    obtain ⟨whole, places, hne, hwhole, -, rfl, -⟩ := h
    obtain ⟨c, ds, rfl⟩ := List.exists_cons_of_ne_nil hne
    exact ⟨c, _, rfl, isBlank_of_isDigit (hwhole c List.mem_cons_self)⟩
  | text s =>
    obtain ⟨quote, body, hquote, -, -, rfl, -⟩ := h
    exact ⟨quote, _, rfl, isBlank_of_isQuote hquote⟩
  | mark m =>
    obtain rfl : lexeme = m.chars := h
    cases m <;> exact ⟨_, _, rfl, by decide⟩
  | stop => exact h.elim

/-- Nothing follows that is read as a token. -/
theorem stops_iff {cs : List Char} :
    Stops cs ↔ (∀ c ∈ cs.head?, Text.isBlank c = false) ∧ lexeme? cs = none := by
  cases cs with
  | nil => exact iff_of_true trivial ⟨nofun, rfl⟩
  | cons c rest =>
    have hhead : (∀ d ∈ (c :: rest).head?, Text.isBlank d = false) ↔
      Text.isBlank c = false := by simp
    rw [Stops, hhead]
    refine and_congr_right fun _ => ?_
    cases hquote : isQuote c with
    | true =>
      have hlex : lexeme? (c :: rest) = none ↔ NeverCloses c rest := by
        rw [lexeme?_of_isQuote hquote, Option.map_eq_none_iff,
          quoted?_eq_none_iff (ne_backslash_of_isQuote hquote)]
      simp [hlex]
    | false =>
      rw [lexeme?_eq_none_iff]
      simp

namespace Token

/-- The characters from byte `position` on are the lexemes of the tokens up to the stop, each the
longest at its place, with nothing but blanks before, between and behind them. -/
inductive Laid : Nat → List Char → List Token → Prop
  | stop {position : Nat} {gap rest : List Char} (hgap : ∀ c ∈ gap, Text.isBlank c = true)
      (hrest : Stops rest) :
    Laid position (gap ++ rest) [⟨.stop, position + Text.size gap⟩]
  | token {position : Nat} {gap lexeme rest : List Char} {kind : TokenKind} {tokens : List Token}
    (hgap : ∀ c ∈ gap, Text.isBlank c = true) (hlexeme : IsLongest (lexeme ++ rest) kind lexeme)
    (hrest : Laid (position + Text.size gap + Text.size lexeme) rest tokens) :
    Laid position (gap ++ (lexeme ++ rest)) (⟨kind, position + Text.size gap⟩ :: tokens)

theorem Laid.blank {position : Nat} {c : Char} {cs : List Char} {tokens : List Token}
    (hc : Text.isBlank c = true) (h : Laid (position + c.utf8Size) cs tokens) :
    Laid position (c :: cs) tokens := by
  cases h with
  | stop hgap hrest =>
    rw [Nat.add_assoc, ← Text.size_cons, ← List.cons_append]
    exact .stop (List.forall_mem_cons.mpr ⟨hc, hgap⟩) hrest
  | token hgap hlexeme hrest =>
    rw [Nat.add_assoc position, ← Text.size_cons] at hrest ⊢
    rw [← List.cons_append]
    exact .token (List.forall_mem_cons.mpr ⟨hc, hgap⟩) hlexeme hrest

theorem laid_scanFrom (position : Nat) (cs : List Char) :
    Laid position cs (scanFrom position cs) := by
  have hnone : ∀ c ∈ ([] : List Char), Text.isBlank c = true := nofun
  fun_induction scanFrom position cs with
  | case1 position => exact .stop hnone trivial
  | case2 position c rest hblank ih => exact .blank hblank ih
  | case3 position c rest hblank hlex =>
    have hstops : Stops (c :: rest) := stops_iff.mpr ⟨by simpa using hblank, hlex⟩
    exact .stop hnone hstops
  | case4 position c rest hblank kind n hlex ih =>
    obtain ⟨lexeme, hlongest, rfl⟩ := lexeme?_eq_some_iff.mp hlex
    obtain ⟨rest', hrest'⟩ := hlongest.isPrefix
    rw [← hrest', List.take_left, List.drop_left] at ih ⊢
    rw [← hrest'] at hlongest
    exact .token hnone hlongest ih

theorem scanFrom_blanks {gap : List Char} (hgap : ∀ c ∈ gap, Text.isBlank c = true) (position : Nat)
    (rest : List Char) :
    scanFrom position (gap ++ rest) = scanFrom (position + Text.size gap) rest := by
  induction gap generalizing position with
  | nil => rfl
  | cons c gap ih =>
    obtain ⟨hc, hgap⟩ := List.forall_mem_cons.mp hgap
    rw [List.cons_append, scanFrom_blank hc, ih hgap, Text.size_cons, Nat.add_assoc]

theorem scanFrom_of_stops {cs : List Char} (h : Stops cs) (position : Nat) :
    scanFrom position cs = [⟨.stop, position⟩] := by
  obtain ⟨hblank, hlex⟩ := stops_iff.mp h
  cases cs with
  | nil => rw [scanFrom]
  | cons c rest => exact scanFrom_of_lexeme?_eq_none (hblank c rfl) hlex position

theorem stops_of_scanFrom {position : Nat} {cs : List Char}
    (h : scanFrom position cs = [⟨.stop, position⟩]) : Stops cs := by
  have hlaid := laid_scanFrom position cs
  rw [h] at hlaid
  generalize htokens : [(⟨.stop, position⟩ : Token)] = tokens at hlaid
  cases hlaid with
  | @stop _ gap rest _ hrest =>
    have hgap : Text.size gap = 0 := by simpa using htokens
    obtain rfl := Text.size_eq_zero_iff.mp hgap
    exact hrest
  | token _ hlexeme _ =>
    -- a stop has no lexeme
    have hkind := congrArg Token.kind (List.cons_eq_cons.mp htokens).1
    obtain rfl : TokenKind.stop = _ := hkind
    exact hlexeme.isLexeme.elim

/-- Only the tokens that are scanned lie so in a text. -/
theorem laid_iff {position : Nat} {cs : List Char} {tokens : List Token} :
    Laid position cs tokens ↔ tokens = scanFrom position cs := by
  constructor
  · intro h
    induction h with
    | stop hgap hrest => rw [scanFrom_blanks hgap, scanFrom_of_stops hrest]
    | @token position gap lexeme rest kind tokens hgap hlexeme _ ih =>
      have hscanned : lexeme? (lexeme ++ rest) = some (kind, lexeme.length) :=
        lexeme?_eq_some_iff.mpr ⟨lexeme, hlexeme, rfl⟩
      have hblank : ∀ c ∈ (lexeme ++ rest).head?, Text.isBlank c = false := by
        obtain ⟨c, tail, rfl, hc⟩ := hlexeme.isLexeme.exists_cons
        rintro d ⟨⟩
        exact hc
      rw [scanFrom_blanks hgap, scanFrom_of_lexeme? hblank hscanned, List.take_left,
        List.drop_left, ih]
  · rintro rfl
    exact laid_scanFrom position cs

/-! ### Cutting a text -/

theorem eq_of_singleton_eq_append {pre post : List Token} {t u : Token}
    (h : [u] = pre ++ t :: post) :
    pre = [] ∧ u = t ∧ post = [] := by
  cases pre with
  | nil => simpa [eq_comm] using h
  | cons v pre => simp at h

/-- Before a token a text can be cut: the first part has the tokens before it, and the second part
has the others. -/
theorem exists_cut {position : Nat} {cs : List Char} {pre post : List Token} {t : Token}
    (h : scanFrom position cs = pre ++ t :: post) :
    ∃ before after, cs = before ++ after ∧ position + Text.size before = t.position ∧
      scanFrom position before = pre ++ [⟨.stop, t.position⟩] ∧
        scanFrom t.position after = t :: post := by
  fun_induction scanFrom position cs generalizing pre with
  | case1 position =>
    obtain ⟨rfl, rfl, rfl⟩ := eq_of_singleton_eq_append h
    exact ⟨[], [], rfl, rfl, by rw [scanFrom]; rfl, by rw [scanFrom]⟩
  | case2 position c rest hblank ih =>
    obtain ⟨before, after, rfl, hsize, hbefore, hafter⟩ := ih h
    refine ⟨c :: before, after, rfl, ?_, ?_, hafter⟩
    · rw [Text.size_cons]
      omega
    · rw [scanFrom_blank hblank, hbefore]
  | case3 position c rest hblank hlex =>
    obtain ⟨rfl, rfl, rfl⟩ := eq_of_singleton_eq_append h
    refine ⟨[], c :: rest, rfl, rfl, by rw [scanFrom]; rfl, ?_⟩
    exact scanFrom_of_lexeme?_eq_none (by simpa using hblank) hlex position
  | case4 position c rest hblank kind n hlex ih =>
    have hhead : ∀ d ∈ (c :: rest).head?, Text.isBlank d = false := by
      rintro d ⟨⟩
      simpa using hblank
    cases pre with
    | nil =>
      obtain ⟨rfl, rfl⟩ := List.cons_eq_cons.mp h
      exact ⟨[], c :: rest, rfl, rfl, by rw [scanFrom]; rfl,
        scanFrom_of_lexeme? hhead hlex position⟩
    | cons u pre =>
      obtain ⟨rfl, htail⟩ := List.cons_eq_cons.mp h
      obtain ⟨before, after, hdrop, hsize, hbefore, hafter⟩ := ih htail
      -- the token is there without what is cut off
      have hn := length_lexeme?_le hlex
      have hlength : ((c :: rest).take n).length = n := List.length_take_of_le hn
      have hsplit : c :: rest = ((c :: rest).take n ++ before) ++ after := by
        rw [List.append_assoc, ← hdrop, List.take_append_drop]
      have hcut : lexeme? ((c :: rest).take n ++ before) = some (kind, n) := by
        rw [hsplit] at hlex
        exact lexeme?_of_append hlex (by rw [List.length_append]; omega)
      have hhead' : ∀ d ∈ ((c :: rest).take n ++ before).head?, Text.isBlank d = false := by
        intro d hd
        refine hhead d ?_
        rw [hsplit, List.head?_append, hd]
        rfl
      refine ⟨(c :: rest).take n ++ before, after, hsplit, ?_, ?_, hafter⟩
      · rw [Text.size_append]
        omega
      · rw [scanFrom_of_lexeme? hhead' hcut, List.take_left' hlength,
          List.drop_left' hlength, hbefore]
        rfl

theorem exists_cut_scan {text : String} {pre post : List Token} {t : Token}
    (h : scan text = pre ++ t :: post) :
    ∃ front back : String, text = front ++ back ∧ Text.size front.toList = t.position ∧
      scan front = pre ++ [⟨.stop, t.position⟩] ∧ scanFrom t.position back.toList = t :: post := by
  obtain ⟨before, after, hcut, hsize, hbefore, hafter⟩ := exists_cut h
  refine ⟨String.ofList before, String.ofList after, ?_, ?_, ?_, ?_⟩
  · rw [← String.ofList_append, ← hcut, String.ofList_toList]
  · rw [String.toList_ofList]
    omega
  · rw [scan, String.toList_ofList, hbefore]
  · rw [String.toList_ofList, hafter]

/-- Where a token begins, a text can be cut in one way. -/
theorem scan_of_cut {front back : String} {t : Token} (ht : t ∈ scan (front ++ back))
    (hfront : Text.size front.toList = t.position) :
    ∃ pre post, scan (front ++ back) = pre ++ t :: post ∧
      scan front = pre ++ [⟨.stop, t.position⟩] ∧
      scanFrom t.position back.toList = t :: post := by
  obtain ⟨pre, post, hscan⟩ := List.append_of_mem ht
  obtain ⟨front', back', hcut, hsize, hbefore, hafter⟩ := exists_cut_scan hscan
  have hchars : front.toList ++ back.toList = front'.toList ++ back'.toList := by
    rw [← String.toList_append, hcut, String.toList_append]
  obtain ⟨hfirst, hsecond⟩ := Text.append_inj_of_size hchars (hfront.trans hsize.symm)
  rw [← String.toList_injective hfirst] at hbefore
  rw [← hsecond] at hafter
  exact ⟨pre, post, hscan, hbefore, hafter⟩

/-- Blanks before a token change no token. -/
theorem map_kind_scan_blanks {front back gap : String} {t : Token} (ht : t ∈ scan (front ++ back))
    (hfront : Text.size front.toList = t.position)
    (hgap : ∀ c ∈ gap.toList, Text.isBlank c = true) :
    (scan (front ++ gap ++ back)).map kind = (scan (front ++ back)).map kind := by
  obtain ⟨pre, post, hscan, hbefore, hafter⟩ := scan_of_cut ht hfront
  have hwhole : IsWhole front := by
    show (scan front).getLast? = some ⟨.stop, Text.size front.toList⟩
    rw [hbefore, hfront, List.getLast?_concat]
  have hmoved : (scanFrom (Text.size gap.toList + t.position) back.toList).map kind =
      (t :: post).map kind := by
    rw [scanFrom_add, hafter, List.map_map]
    rfl
  have hchars : (front ++ gap ++ back).toList = front.toList ++ (gap.toList ++ back.toList) := by
    simp
  cases hempty : gap.toList with
  | nil =>
    rw [hempty, List.nil_append, ← String.toList_append] at hchars
    rw [String.toList_injective hchars]
  | cons c cs =>
    have hc : Text.isBlank c = true := hgap c (by rw [hempty]; exact List.mem_cons_self)
    have hseam : ∀ d ∈ (gap.toList ++ back.toList).head?, isSeam d = true := by
      rw [hempty]
      rintro d ⟨⟩
      exact isSeam_of_isBlank hc
    calc (scan (front ++ gap ++ back)).map kind
        = ((scan front).dropLast ++
            scanFrom (Text.size front.toList) (gap.toList ++ back.toList)).map kind := by
          rw [scan, hchars, hwhole.scan_append hseam]
      _ = (pre ++ scanFrom (Text.size gap.toList + t.position) back.toList).map kind := by
          rw [hbefore, List.dropLast_concat, scanFrom_blanks hgap, hfront, Nat.add_comm]
      _ = (scan (front ++ back)).map kind := by
          rw [List.map_append, hmoved, hscan, List.map_append]

end Token

/-- **How the tokens lie in a text**: just the last token is a stop. It lies at the end of the text,
or before the first character outside of a token that is no blank and starts no token, or before a
quote that is never closed; and what is cut off there changes no token and no formula. Each position
is the number of bytes before a character, and they ascend. The tokens are the only ones whose
lexemes, each the longest at its place, fill the text up to the stop with nothing but blanks between
them. Blanks that are put before a token change the kind of none. -/
theorem scan_layout (text : String) :
    (∃ (body : List Token) (front back : String), text = front ++ back ∧
      Token.scan text = body ++ [⟨.stop, Text.size front.toList⟩] ∧ (∀ t ∈ body, t.kind ≠ .stop) ∧
      Stops back.toList ∧
      Token.scan front = Token.scan text ∧ parse front = parse text) ∧
    (∀ t ∈ Token.scan text, ∃ front back : String, text = front ++ back ∧
      Text.size front.toList = t.position) ∧
    (Token.scan text).Pairwise (fun t u => t.position < u.position) ∧
    (∀ tokens, Token.Laid 0 text.toList tokens ↔ tokens = Token.scan text) ∧
    ∀ t ∈ Token.scan text, ∀ front back : String, text = front ++ back →
      Text.size front.toList = t.position →
      ∀ gap : String, (∀ c ∈ gap.toList, Text.isBlank c = true) →
        (Token.scan (front ++ gap ++ back)).map Token.kind = (Token.scan text).map Token.kind := by
  refine ⟨?_, ?_, Token.pairwise_scan text, fun tokens => Token.laid_iff, ?_⟩
  · obtain ⟨body, last, hscan, hbody⟩ := Token.scan_eq text
    obtain ⟨front, back, htext, hsize, hfront, hback⟩ := Token.exists_cut_scan hscan
    have hsame : Token.scan front = Token.scan text := hfront.trans hscan.symm
    refine ⟨body, front, back, htext, by rw [hscan, hsize], hbody,
      Token.stops_of_scanFrom hback, hsame, ?_⟩
    rw [parse, hsame, parse]
  · intro t ht
    obtain ⟨pre, post, hscan⟩ := List.append_of_mem ht
    obtain ⟨front, back, htext, hsize, -⟩ := Token.exists_cut_scan hscan
    exact ⟨front, back, htext, hsize⟩
  · rintro t ht front back rfl hfront gap hgap
    exact Token.map_kind_scan_blanks ht hfront hgap

/-- Here a lone `&` stops the tokens, and blanks of two kinds come before the comparison. -/
theorem scan_layout_spaced :
    (⟨.mark .atLeast, 1⟩ : Token) ∈ Token.scan "a>='é' & b" ∧
      (Token.scan ("a" ++ "\u00a0 " ++ ">='é' & b")).map Token.kind =
        (Token.scan "a>='é' & b").map Token.kind := by
  have hmem : (⟨.mark .atLeast, 1⟩ : Token) ∈ Token.scan "a>='é' & b" := by decide +kernel
  have hgap : ∀ c ∈ "\u00a0 ".toList, Text.isBlank c = true := List.all_eq_true.mp (by decide)
  have hblanks := (scan_layout "a>='é' & b").2.2.2.2 _ hmem "a" ">='é' & b" rfl rfl
  exact ⟨hmem, hblanks _ hgap⟩

end Formula
end PageBuilder
