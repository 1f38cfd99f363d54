import PageBuilder.Proofs.Formula.Parsing

/-!
# Words and paths in texts

A word goes as far as its characters do and is one token (`scanFrom_word`), so words with dots
between them are scanned as the head and the keys of a path (`scanFrom_path`), and a text of this
form is the formula of the path (`parse_path`).
-/

namespace PageBuilder
namespace Formula

/-- The characters are one word and nothing else. -/
def IsWord (cs : List Char) : Prop := lexeme? cs = some (.word (String.ofList cs), cs.length)

instance (cs : List Char) : Decidable (IsWord cs) := inferInstanceAs (Decidable (_ = _))

/-! ### The characters of words -/

section Characters

variable {c : Char} (h : isWordStart c = true)

include h

theorem toNat_of_isWordStart :
    c.toNat = 36 ∨ c.toNat = 95 ∨ 65 ≤ c.toNat ∧ c.toNat ≤ 90 ∨ 97 ≤ c.toNat ∧ c.toNat ≤ 122 := by
  unfold isWordStart Char.isAlpha Char.isUpper Char.isLower at h
  simp only [Bool.or_eq_true, beq_iff_eq, Bool.and_eq_true, decide_eq_true_eq,
    UInt32.le_iff_toNat_le, ge_iff_le] at h
  rcases h with ((h | h) | rfl) | rfl
  · exact .inr (.inr (.inl h))
  · exact .inr (.inr (.inr h))
  · exact .inr (.inl rfl)
  · exact .inl rfl

theorem isBlank_of_isWordStart : Text.isBlank c = false := by
  have hc := toNat_of_isWordStart h
  simp [Text.isBlank, Text.blankRanges]
  omega

theorem isQuote_of_isWordStart : isQuote c = false := by
  rw [Bool.eq_false_iff]
  intro hquote
  simp only [isQuote, Bool.or_eq_true, beq_iff_eq] at hquote
  rcases hquote with rfl | rfl <;> revert h <;> decide

theorem isDigit_of_isWordStart : c.isDigit = false := by
  have hc := toNat_of_isWordStart h
  rw [Bool.eq_false_iff]
  intro hdigit
  simp only [Char.isDigit, Bool.and_eq_true, decide_eq_true_eq, UInt32.le_iff_toNat_le,
    ge_iff_le] at hdigit
  change 48 ≤ c.toNat ∧ c.toNat ≤ 57 at hdigit
  omega

theorem mark?_of_isWordStart (cs : List Char) : mark? (c :: cs) = none := by
  rcases hmark : mark? (c :: cs) with _ | m
  · rfl
  · obtain ⟨rest, hrest⟩ := chars_prefix_of_mark? hmark
    cases m <;> cases hrest <;> simp [isWordStart] at h

/-- A word ends before the first character that cannot stand in it. -/
theorem lexeme?_word {w rest : List Char} (hw : ∀ d ∈ w, isWordChar d = true)
    (hrest : ∀ d ∈ rest.head?, isWordChar d = false) :
    lexeme? (c :: w ++ rest) = some (.word (String.ofList (c :: w)), (c :: w).length) := by
  have hall : ∀ d ∈ c :: w, isWordChar d = true :=
    List.forall_mem_cons.mpr ⟨isWordChar_of_isWordStart h, hw⟩
  have htake : (c :: w ++ rest).takeWhile isWordChar = c :: w := Text.takeWhile_run hall hrest
  rw [List.cons_append] at htake ⊢
  simp only [lexeme?, mark?_of_isWordStart h, isQuote_of_isWordStart h, isDigit_of_isWordStart h, h,
    htake, if_true, Bool.false_eq_true, if_false]

end Characters

/-- A word is a character that may start one, and then characters that may stand in one. -/
theorem isWord_iff {cs : List Char} :
    IsWord cs ↔ ∃ c w, cs = c :: w ∧ isWordStart c = true ∧ ∀ d ∈ w, isWordChar d = true := by
  constructor
  · intro h
    unfold IsWord lexeme? at h
    split at h
    · simp at h
    · split at h
      · simp at h
      next c w _ =>
        split_ifs at h with hquote hdigit hstart
        · simp at h
        · simp [number] at h
        · simp only [Option.some.injEq, Prod.mk.injEq, TokenKind.word.injEq, String.ofList_inj] at h
          have hall := List.all_takeWhile (p := isWordChar) (l := c :: w)
          rw [h.1, List.all_cons, Bool.and_eq_true, List.all_eq_true] at hall
          exact ⟨c, w, rfl, hstart, hall.2⟩
  · rintro ⟨c, w, rfl, hstart, hw⟩
    have hend : ∀ d ∈ ([] : List Char).head?, isWordChar d = false := nofun
    have hlex := lexeme?_word hstart hw hend
    rwa [List.append_nil] at hlex

/-! ### Scanning -/

namespace Token

theorem scanFrom_word {cs rest : List Char} (h : IsWord cs)
    (hrest : ∀ d ∈ rest.head?, isWordChar d = false) (position : Nat) :
    scanFrom position (cs ++ rest) =
      ⟨.word (String.ofList cs), position⟩ :: scanFrom (position + Text.size cs) rest := by
  obtain ⟨c, w, rfl, hstart, hw⟩ := isWord_iff.mp h
  have hlex := lexeme?_word hstart hw hrest
  rw [List.cons_append] at hlex ⊢
  rw [scanFrom, if_neg (by rw [isBlank_of_isWordStart hstart]; exact Bool.false_ne_true)]
  split
  next hnone => simp [hlex] at hnone
  next kind n hsome =>
    rw [hlex] at hsome
    obtain ⟨rfl, rfl⟩ := Prod.mk.inj (Option.some.inj hsome)
    rw [← List.cons_append, List.take_left, List.drop_left]

theorem scanFrom_dot (position : Nat) (rest : List Char) :
    scanFrom position ('.' :: rest) = ⟨.mark .dot, position⟩ :: scanFrom (position + 1) rest := by
  rw [scanFrom, if_neg (by decide)]
  rfl

/-- The characters of the keys of a path, each after a dot. -/
def keyChars : List (List Char) → List Char
  | [] => []
  | key :: keys => '.' :: (key ++ keyChars keys)

/-- What a text is cut into at its dots are the keys of the path that is the text after one more
dot. -/
theorem keyChars_split (cs : List Char) : keyChars (Text.split '.' cs) = '.' :: cs := by
  have hjoin : ∀ keys ≠ [], keyChars keys = '.' :: Text.join '.' keys := by
    intro keys hkeys
    induction keys with
    | nil => exact absurd rfl hkeys
    | cons key keys ih =>
      cases keys with
      | nil => simp [keyChars, Text.join]
      | cons key' keys =>
        rw [keyChars, ih (List.cons_ne_nil _ _)]
        rfl
  rw [hjoin _ (Text.split_ne_nil '.' cs), Text.join_split]

/-- No character after a word of a path goes on with the word. -/
theorem head?_keyChars {keys : List (List Char)} {rest : List Char}
    (hrest : ∀ d ∈ rest.head?, isWordChar d = false) :
    ∀ d ∈ (keyChars keys ++ rest).head?, isWordChar d = false := by
  cases keys with
  | nil => exact hrest
  | cons key keys =>
    intro d hd
    obtain rfl : '.' = d := Option.some.inj hd
    decide

/-- The keys of a path are scanned up to a character that goes on with none of them. -/
theorem scanFrom_keys {keys : List (List Char)} (hkeys : ∀ key ∈ keys, IsWord key)
    {rest : List Char} (hrest : ∀ d ∈ rest.head?, isWordChar d = false) (position : Nat) :
    ∃ ts next, scanFrom position (keyChars keys ++ rest) = ts ++ scanFrom next rest ∧
      ts.map kind = keyKinds (keys.map String.ofList) := by
  induction keys generalizing position with
  | nil => exact ⟨[], position, rfl, rfl⟩
  | cons key keys ih =>
    obtain ⟨hkey, hkeys⟩ := List.forall_mem_cons.mp hkeys
    obtain ⟨ts, next, hscan, hts⟩ := ih hkeys (position + 1 + Text.size key)
    refine ⟨⟨.mark .dot, position⟩ :: ⟨.word (String.ofList key), position + 1⟩ :: ts, next, ?_, ?_⟩
    · rw [keyChars, List.cons_append, List.append_assoc, scanFrom_dot,
        scanFrom_word hkey (head?_keyChars hrest), hscan]
      rfl
    · rw [List.map_cons, List.map_cons, hts]
      rfl

/-- A path is scanned up to a character that goes on with none of its words. -/
theorem scanFrom_path {head : List Char} (hhead : IsWord head) {keys : List (List Char)}
    (hkeys : ∀ key ∈ keys, IsWord key) {rest : List Char}
    (hrest : ∀ d ∈ rest.head?, isWordChar d = false) (position : Nat) :
    ∃ ts next, scanFrom position (head ++ (keyChars keys ++ rest)) = ts ++ scanFrom next rest ∧
      ts.map kind = .word (String.ofList head) :: keyKinds (keys.map String.ofList) := by
  obtain ⟨ts, next, hscan, hts⟩ := scanFrom_keys hkeys hrest (position + Text.size head)
  refine ⟨⟨.word (String.ofList head), position⟩ :: ts, next, ?_, by rw [List.map_cons, hts]⟩
  rw [scanFrom_word hhead (head?_keyChars hrest), hscan]
  rfl

end Token

/-- Words with dots between them are the formula of a path, unless the first one is a literal. -/
theorem parse_path {text : String} {head : List Char} {keys : List (List Char)}
    (htext : text.toList = head ++ Token.keyChars keys) (hhead : IsWord head)
    (hkeys : ∀ key ∈ keys, IsWord key) (hfree : String.ofList head ∉ reservedWords) :
    parse text = .ok (.path (.ofName (String.ofList head)) (keys.map String.ofList)) := by
  have hend : ∀ d ∈ ([] : List Char).head?, isWordChar d = false := nofun
  obtain ⟨ts, next, hscan, hts⟩ := Token.scanFrom_path hhead hkeys hend 0
  rw [List.append_nil, ← htext, Token.scanFrom] at hscan
  have hkinds : Token.kinds text = .word (String.ofList head) ::
      keyKinds (keys.map String.ofList) := by
    rw [Token.kinds, Token.scan, hscan, List.dropLast_concat, hts]
  let path : Derivation .operand := .path (String.ofList head) (keys.map String.ofList) hfree
  exact parse_eq_ok_iff.mpr ⟨.last .or (.last .and (.lone path)), hkinds.symm, Nat.zero_le _, rfl⟩

end Formula
end PageBuilder
