import PageBuilder.Number.Numeral
import PageBuilder.Number.Shortest
import PageBuilder.Text.Blank
import PageBuilder.Text.Split

/-!
# Tokens of formulas

The text of a formula is cut into words, numbers, quoted texts and marks. `lexeme?` tells the token
at the head of a text and its length; `Token.scan` repeats it between blanks. Reading never fails:
the first character that starts no token, or a quote that is never closed, ends it, and one `stop`
token holds the place.
-/

namespace PageBuilder
namespace Formula

/-- The marks of the formula language. -/
inductive Mark where
  | equal
  | notEqual
  | atLeast
  | atMost
  | and
  | or
  | greater
  | less
  | not
  | dot
  | leftParen
  | rightParen
deriving DecidableEq

/-- How a mark is written. -/
def Mark.chars : Mark → List Char
  | .equal => ['=', '=']
  | .notEqual => ['!', '=']
  | .atLeast => ['>', '=']
  | .atMost => ['<', '=']
  | .and => ['&', '&']
  | .or => ['|', '|']
  | .greater => ['>']
  | .less => ['<']
  | .not => ['!']
  | .dot => ['.']
  | .leftParen => ['(']
  | .rightParen => [')']

/-- What a token is. -/
inductive TokenKind where
  | word (name : String)
  | number (x : Binary64)
  | text (s : String)
  | mark (m : Mark)
  | stop
deriving DecidableEq

/-- The words by which messages name a token. -/
def TokenKind.describe : TokenKind → String
  | .word name => "identifier '" ++ name ++ "'"
  | .number x => "number " ++ Layout.plain.renderAny x
  | .text s => "string '" ++ s ++ "'"
  | .mark m => "'" ++ String.ofList m.chars ++ "'"
  | .stop => "end of input"

/-- A token and the byte at which it starts. -/
structure Token where
  kind : TokenKind
  position : Nat
deriving DecidableEq

/-! ### The token at the head of a text -/

/-- The mark at the head; of two marks the longer one. -/
def mark? : List Char → Option Mark
  | '=' :: '=' :: _ => some .equal
  | '!' :: '=' :: _ => some .notEqual
  | '>' :: '=' :: _ => some .atLeast
  | '<' :: '=' :: _ => some .atMost
  | '&' :: '&' :: _ => some .and
  | '|' :: '|' :: _ => some .or
  | '>' :: _ => some .greater
  | '<' :: _ => some .less
  | '!' :: _ => some .not
  | '.' :: _ => some .dot
  | '(' :: _ => some .leftParen
  | ')' :: _ => some .rightParen
  | _ => none

/-- The characters that quote a text. -/
def isQuote (c : Char) : Bool := c == '\x27' || c == '"'

/-- The character that a backslash before `c` stands for. -/
def unescape (c : Char) : Char := if c = 'n' then '\n' else if c = 't' then '\t' else c

/-- The contents of a quoted text after its opening quote, and the number of characters up to the
closing one, itself included. -/
def quoted? (quote : Char) : List Char → Option (List Char × Nat)
  | [] => none
  | c :: cs =>
    if c = quote then some ([], 1)
    else if c = '\\' then
      match cs with
      | [] => none
      | e :: cs => (quoted? quote cs).map fun p => (unescape e :: p.1, p.2 + 2)
    else (quoted? quote cs).map fun p => (c :: p.1, p.2 + 1)

/-- The digits of the fraction at the head: a point counts only with a digit after it. -/
def fraction : List Char → List Char
  | '.' :: cs => cs.takeWhile Char.isDigit
  | _ => []

/-- The number at the head of a text that starts with a digit, and its length. -/
def number (cs : List Char) : TokenKind × Nat :=
  let (whole, rest) := Numeral.digits cs
  let places := fraction rest
  (.number (Numeral.decimal false whole places 0),
    whole.length + if places = [] then 0 else places.length + 1)

/-- A character that may start a word. -/
def isWordStart (c : Char) : Bool := c.isAlpha || c == '_' || c == '$'

/-- A character that may stand in a word. -/
def isWordChar (c : Char) : Bool := c.isAlphanum || c == '_' || c == '$'

/-- The token at the head of a text and the number of its characters. -/
def lexeme? (cs : List Char) : Option (TokenKind × Nat) :=
  match mark? cs with
  | some m => some (.mark m, m.chars.length)
  | none =>
    match cs with
    | [] => none
    | c :: rest =>
      if isQuote c then (quoted? c rest).map fun p => (.text (String.ofList p.1), p.2 + 1)
      else if c.isDigit then some (number cs)
      else if isWordStart c then
        let w := cs.takeWhile isWordChar
        some (.word (String.ofList w), w.length)
      else none

theorem isWordChar_of_isWordStart {c : Char} (h : isWordStart c = true) : isWordChar c = true := by
  simp only [isWordStart, isWordChar, Char.isAlphanum, Bool.or_eq_true] at h ⊢
  rcases h with (h | h) | h <;> simp [h]

/-- A mark stands at the head as it is written. -/
theorem chars_prefix_of_mark? {cs : List Char} {m : Mark} (h : mark? cs = some m) :
    ∃ rest, cs = m.chars ++ rest := by
  unfold mark? at h
  split at h <;> simp only [Option.some.injEq, reduceCtorEq] at h <;> subst h <;> exact ⟨_, rfl⟩

theorem length_chars_pos (m : Mark) : 0 < m.chars.length := by cases m <;> decide

/-- A token has at least one character. -/
theorem lexeme?_length_pos {cs : List Char} {k : TokenKind} {n : Nat}
    (h : lexeme? cs = some (k, n)) : 0 < n := by
  unfold lexeme? at h
  split at h
  · rename_i m _
    simp only [Option.some.injEq, Prod.mk.injEq] at h
    have := length_chars_pos m
    omega
  · split at h
    · simp at h
    · rename_i c rest _
      split at h
      · simp only [Option.map_eq_some_iff, Prod.mk.injEq] at h
        obtain ⟨p, -, -, rfl⟩ := h
        omega
      · split at h
        · rename_i hd
          simp only [number, Numeral.digits, List.takeWhile_cons, hd, if_true, Option.some.injEq,
            Prod.mk.injEq, List.length_cons] at h
          omega
        · split at h
          · rename_i hw
            simp only [List.takeWhile_cons, isWordChar_of_isWordStart hw, if_true,
              Option.some.injEq, Prod.mk.injEq, List.length_cons] at h
            omega
          · simp at h

/-! ### All tokens -/

namespace Token

/-- The tokens of a text whose first character is at byte `position`. -/
def scanFrom (position : Nat) (cs : List Char) : List Token :=
  match cs with
  | [] => [⟨.stop, position⟩]
  | c :: rest =>
    if Text.isBlank c then scanFrom (position + c.utf8Size) rest
    else match _h : lexeme? (c :: rest) with
      | none => [⟨.stop, position⟩]
      | some (kind, n) =>
        ⟨kind, position⟩ :: scanFrom (position + Text.size ((c :: rest).take n))
          ((c :: rest).drop n)
termination_by cs.length
decreasing_by
  · simp
  · have := lexeme?_length_pos _h
    simp only [List.length_drop, List.length_cons]
    omega

/-- The tokens of a text. -/
def scan (text : String) : List Token := scanFrom 0 text.toList

end Token
end Formula
end PageBuilder
