import PageBuilder.Json.Printer
import PageBuilder.Proofs.Formula.Composition

/-!
# How formulas are spelled

A text spells a derivation if it is scanned to the tokens of the derivation, wherever it stands
before something that no word goes on with (`Spells`). Texts, truth values and `null` are spelled as
literals, the texts in quotes and with a backslash before each backslash and each quote of the same
kind (`exists_spells_literal`). What is spelled can be compared and joined with blanks around the
mark (`Spells.compare`, `Spells.link`), and a spelled sentence is parsed to its formula
(`Spells.parse_eq`).
-/

namespace PageBuilder

/-- A text, a truth value or `null`. -/
def Json.isConstant : Json → Bool
  | .null | .bool _ | .string _ => true
  | _ => false

namespace Formula

/-- The characters of a text as they stand between quotes. -/
def escaped (quote : Char) : List Char → List Char
  | [] => []
  | c :: cs => if c = quote ∨ c = '\\' then '\\' :: c :: escaped quote cs else c :: escaped quote cs

/-- A text in quotes. -/
def inQuotes (quote : Char) (s : String) : String :=
  String.ofList (quote :: (escaped quote s.toList ++ [quote]))

/-- A value as it stands in a formula. Texts are in quotes of the given kind; all else is written as
in JSON. -/
def literalText (quote : Char) : Json → String
  | .string s => inQuotes quote s
  | v => v.render

section Quotes

variable {quote : Char} (h : isQuote quote = true)

include h

theorem eq_of_isQuote : quote = '\x27' ∨ quote = '"' := by simpa [isQuote] using h

theorem isBlank_of_isQuote : Text.isBlank quote = false := by
  rcases eq_of_isQuote h with rfl | rfl <;> decide

theorem ne_backslash_of_isQuote : '\\' ≠ quote := by
  rcases eq_of_isQuote h with rfl | rfl <;> decide

/-- What is escaped stands for itself. -/
theorem unescape_of_isQuote {c : Char} (hc : c = quote ∨ c = '\\') : unescape c = c := by
  rcases hc with rfl | rfl
  · rcases eq_of_isQuote h with rfl | rfl <;> rfl
  · rfl

/-- An escaped text is read back up to the quote after it. -/
theorem quoted?_escaped (cs rest : List Char) :
    quoted? quote (escaped quote cs ++ quote :: rest) =
      some (cs, (escaped quote cs).length + 1) := by
  induction cs with
  | nil =>
    rw [escaped, List.nil_append, quoted?.eq_def]
    simp
  | cons c cs ih =>
    by_cases hc : c = quote ∨ c = '\\'
    · simp [escaped, hc, quoted?, ne_backslash_of_isQuote h, ih, unescape_of_isQuote h hc]
    · obtain ⟨hquote, hslash⟩ := not_or.mp hc
      rw [escaped, if_neg hc, List.cons_append, quoted?.eq_def]
      simp [hquote, hslash, ih]

theorem lexeme?_inQuotes (s : String) (rest : List Char) :
    lexeme? ((inQuotes quote s).toList ++ rest) =
      some (.text s, (inQuotes quote s).toList.length) := by
  have hquoted := quoted?_escaped h s.toList rest
  simp [inQuotes, lexeme?, mark?_eq_none (.inl h), h, hquoted]

/-- A text in quotes is one token. -/
theorem Token.scanFrom_inQuotes (s : String) (position : Nat) (rest : List Char) :
    scanFrom position ((inQuotes quote s).toList ++ rest) =
      ⟨.text s, position⟩ :: scanFrom (position + Text.size (inQuotes quote s).toList) rest := by
  have hblank : ∀ c ∈ ((inQuotes quote s).toList ++ rest).head?, Text.isBlank c = false := by
    intro c hc
    rw [inQuotes, String.toList_ofList] at hc
    obtain rfl : quote = c := Option.some.inj hc
    exact isBlank_of_isQuote h
  rw [scanFrom_of_lexeme? hblank (lexeme?_inQuotes h s rest), List.take_left, List.drop_left]

end Quotes

/-- A quote of the other kind is not escaped. -/
example : inQuotes '"' "it's \\ \"" = "\"it's \\\\ \\\"\"" := rfl

/-! ### Texts that spell derivations -/

/-- The text is scanned to the tokens of the derivation, wherever it stands before something that no
word goes on with. -/
def Spells (text : String) {l : Level} (d : Derivation l) : Prop :=
  ∀ (position : Nat) {rest : List Char}, (∀ c ∈ rest.head?, isWordChar c = false) →
    ∃ ts next, Token.scanFrom position (text.toList ++ rest) = ts ++ Token.scanFrom next rest ∧
      ts.map Token.kind = d.kinds

theorem spells_word {w : String} (hw : IsWord w.toList) {l : Literal} (hl : l.kind = .word w) :
    Spells w (.literal l) := by
  intro position rest hrest
  have hscan := Token.scanFrom_word hw hrest position
  rw [String.ofList_toList] at hscan
  exact ⟨[⟨.word w, position⟩], _, hscan, by simp [Derivation.kinds, hl]⟩

/-- A constant is spelled by a literal with its value. -/
theorem exists_spells_literal {quote : Char} (h : isQuote quote = true) {v : Json}
    (hv : v.isConstant = true) :
    ∃ l : Literal, l.value = v ∧ Spells (literalText quote v) (.literal l) := by
  cases v with
  | null => exact ⟨.null, rfl, spells_word (by decide : IsWord "null".toList) rfl⟩
  | bool b =>
    cases b with
    | true => exact ⟨.yes, rfl, spells_word (by decide : IsWord "true".toList) rfl⟩
    | false => exact ⟨.no, rfl, spells_word (by decide : IsWord "false".toList) rfl⟩
  | string s =>
    exact ⟨.text s, rfl, fun position _ _ =>
      ⟨[⟨.text s, position⟩], _, Token.scanFrom_inQuotes h s position _, rfl⟩⟩
  | number n | array xs | object d => cases hv

theorem spells_path {text head : String} {keys : List String}
    (htext : text.toList = head.toList ++ Token.keyChars (keys.map String.toList))
    (hhead : IsWord head.toList) (hkeys : ∀ key ∈ keys, IsWord key.toList)
    (hfree : head ∉ reservedWords) : Spells text (.path head keys hfree) := by
  intro position rest hrest
  have hwords : ∀ cs ∈ keys.map String.toList, IsWord cs := List.forall_mem_map.mpr hkeys
  obtain ⟨ts, next, hscan, hts⟩ := Token.scanFrom_path hhead hwords hrest position
  refine ⟨ts, next, by rw [htext, List.append_assoc, hscan], ?_⟩
  have hback : (keys.map String.toList).map String.ofList = keys := by simp
  rw [hts, String.ofList_toList, hback, Derivation.kinds]

namespace Spells

variable {a b : String}

/-- Two spelled texts around a mark and blanks. -/
theorem marked {m : Mark} (hmark : ∀ rest, mark? (m.chars ++ ' ' :: rest) = some m) {l l' : Level}
    {x : Derivation l} {y : Derivation l'} (ha : Spells a x) (hb : Spells b y) (position : Nat)
    {rest : List Char} (hrest : ∀ c ∈ rest.head?, isWordChar c = false) :
    ∃ ts next, Token.scanFrom position (a.toList ++ ' ' :: (m.chars ++ ' ' :: (b.toList ++ rest))) =
      ts ++ Token.scanFrom next rest ∧ ts.map Token.kind = x.kinds ++ .mark m :: y.kinds := by
  have hblank : Text.isBlank ' ' = true := by decide
  -- the first text ends at a blank, so what it spells does not go on into the mark
  have hseam : ∀ c ∈ (' ' :: (m.chars ++ ' ' :: (b.toList ++ rest))).head?,
      isWordChar c = false := by
    rintro c ⟨⟩
    decide
  obtain ⟨ts, next, hscan, hts⟩ := ha position hseam
  obtain ⟨ts', next', hscan', hts'⟩ :=
    hb (next + ' '.utf8Size + Text.size m.chars + ' '.utf8Size) hrest
  refine ⟨ts ++ ⟨.mark m, next + ' '.utf8Size⟩ :: ts', next', ?_,
    by rw [List.map_append, List.map_cons, hts, hts']⟩
  rw [hscan, Token.scanFrom_blank hblank, Token.scanFrom_mark (hmark _),
    Token.scanFrom_blank hblank, hscan']
  simp

theorem compare {op : Comparison} {text : String}
    (htext : text.toList = a.toList ++ ' ' :: (op.mark.chars ++ ' ' :: b.toList))
    {x y : Derivation .operand} (ha : Spells a x) (hb : Spells b y) :
    Spells text (.compare op x y) := by
  intro position rest hrest
  have hmark : ∀ rest, mark? (op.mark.chars ++ ' ' :: rest) = some op.mark := by
    cases op <;> exact fun _ => rfl
  obtain ⟨ts, next, hscan, hts⟩ := ha.marked hmark hb position hrest
  refine ⟨ts, next, ?_, hts⟩
  rw [← hscan, htext]
  simp

theorem link {c : Connective} {x : Derivation c.inner} {xs : Derivation (.chain c)}
    (ha : Spells a x) (hb : Spells b xs) :
    Spells (a ++ c.text ++ b) (.link c x xs) := by
  intro position rest hrest
  have hmark : ∀ rest, mark? (c.mark.chars ++ ' ' :: rest) = some c.mark := by
    cases c <;> exact fun _ => rfl
  obtain ⟨ts, next, hscan, hts⟩ := ha.marked hmark hb position hrest
  refine ⟨ts, next, ?_, hts⟩
  rw [← hscan]
  simp [c.toList_text]

/-- A spelled sentence is parsed to its formula. -/
theorem parse_eq {text : String} {d : Sentence} (h : Spells text d)
    (hnesting : d.nesting ≤ nestingLimit) :
    parse text = .ok d.formula := by
  have hend : ∀ c ∈ ([] : List Char).head?, isWordChar c = false := nofun
  obtain ⟨ts, next, hscan, hts⟩ := h 0 hend
  rw [List.append_nil] at hscan
  exact parse_eq_ok_iff.mpr ⟨d, by rw [Token.kinds_of_scan hscan, hts], hnesting, rfl⟩

end Spells

end Formula
end PageBuilder
