import PageBuilder.Formula.Syntax
import PageBuilder.Formula.Token

/-!
# Parsing formulas

The grammar, loosest binding first:

* a disjunction is conjunctions joined by `||`, a conjunction is comparisons joined by `&&`;
* a comparison is an operand, or two operands around one comparison mark;
* an operand is `!` before an operand, a disjunction in parentheses, a literal, or a path.

Each level is a function of the parser of its operands, so only the operands call themselves, once
for each open `!` or parenthesis, and at most `nestingLimit` of these are open at once. A parser
hands on the tokens that follow, which are fewer.
-/

namespace PageBuilder

namespace Formula

/-- Why a text is no formula. -/
inductive SyntaxError where
  /-- A token stands where the grammar does not allow it. -/
  | unexpectedToken (found : TokenKind) (position : Nat)
  /-- The text ends in the middle of a formula. -/
  | unexpectedEnd
  /-- Too many negations and parentheses are open. -/
  | tooDeep
  /-- A token follows a complete formula. -/
  | trailingInput (position : Nat)
deriving DecidableEq

/-- The largest number of negations and parentheses that are open at once. -/
def nestingLimit : Nat := 64

/-- The text of an error. -/
def SyntaxError.message : SyntaxError → String
  | .unexpectedToken found position =>
    "Unexpected token " ++ found.describe ++ " at position " ++ toString position
  | .unexpectedEnd => "Unexpected end of expression"
  | .tooDeep => "Expression nested deeper than " ++ toString nestingLimit ++ " levels"
  | .trailingInput position => "Trailing input at position " ++ toString position

/-- A parser: what it read, and the tokens that follow, which are fewer. -/
abbrev Parser (α : Type) :=
  (ts : List Token) → Except SyntaxError (α × { rest : List Token // rest.length < ts.length })

/-- The error for the token at the head. -/
def unexpected : List Token → SyntaxError
  | [] => .unexpectedEnd
  | t :: _ => if t.kind = .stop then .unexpectedEnd else .unexpectedToken t.kind t.position

/-- The comparison of a mark. -/
def Comparison.ofKind? : TokenKind → Option Comparison
  | .mark .equal => some .equal
  | .mark .notEqual => some .notEqual
  | .mark .greater => some .greater
  | .mark .atLeast => some .atLeast
  | .mark .less => some .less
  | .mark .atMost => some .atMost
  | _ => none

/-- The literal of a number; one beyond binary64 is `null`. -/
def numberLiteral : Binary64 → Json
  | .finite x => .number (.float x)
  | _ => .null

/-- The keys of a path: as many words as follow, each after a dot. -/
def keys : (ts : List Token) →
    Except SyntaxError (List String × { rest : List Token // rest.length ≤ ts.length })
  | ⟨.mark .dot, _⟩ :: ⟨.word name, _⟩ :: ts =>
    match keys ts with
    | .error e => .error e
    | .ok (names, ⟨rest, h⟩) => .ok (name :: names, ⟨rest, by simp only [List.length_cons]; omega⟩)
  | ⟨.mark .dot, _⟩ :: ts => .error (unexpected ts)
  | ts => .ok ([], ⟨ts, Nat.le_refl _⟩)

/-- A literal or a path. -/
def atom : Parser Formula
  | [] => .error (unexpected [])
  | t :: ts =>
    match t.kind with
    | .number x => .ok (.literal (numberLiteral x), ⟨ts, by simp⟩)
    | .text s => .ok (.literal (.string s), ⟨ts, by simp⟩)
    | .word name =>
      if name = "true" then .ok (.literal (.bool true), ⟨ts, by simp⟩)
      else if name = "false" then .ok (.literal (.bool false), ⟨ts, by simp⟩)
      else if name = "null" then .ok (.literal .null, ⟨ts, by simp⟩)
      else
        match keys ts with
        | .error e => .error e
        | .ok (names, ⟨rest, h⟩) =>
          .ok (.path (.ofName name) names, ⟨rest, by simp only [List.length_cons]; omega⟩)
    | _ => .error (unexpected (t :: ts))

/-- One operand, or two around a comparison mark. -/
def comparison (operand : Parser Formula) : Parser Formula := fun ts =>
  match operand ts with
  | .error e => .error e
  | .ok (left, ⟨[], h⟩) => .ok (left, ⟨[], h⟩)
  | .ok (left, ⟨t :: rest, h⟩) =>
    match Comparison.ofKind? t.kind with
    | none => .ok (left, ⟨t :: rest, h⟩)
    | some op =>
      match operand rest with
      | .error e => .error e
      | .ok (right, ⟨rest', h'⟩) =>
        .ok (.compare op left right, ⟨rest', by simp only [List.length_cons] at h; omega⟩)

/-- One or more operands with a mark between each two. -/
def chain (mark : Mark) (operand : Parser Formula) (ts : List Token) :
    Except SyntaxError (List Formula × { rest : List Token // rest.length < ts.length }) :=
  match operand ts with
  | .error e => .error e
  | .ok (x, ⟨[], h⟩) => .ok ([x], ⟨[], h⟩)
  | .ok (x, ⟨t :: rest, h⟩) =>
    if t.kind = .mark mark then
      match chain mark operand rest with
      | .error e => .error e
      | .ok (xs, ⟨rest', h'⟩) => .ok (x :: xs, ⟨rest', by simp only [List.length_cons] at h; omega⟩)
    else .ok ([x], ⟨t :: rest, h⟩)
termination_by ts.length
decreasing_by
  simp only [List.length_cons] at h
  omega

/-- A single operand stands for itself. -/
def join (connective : List Formula → Formula) : List Formula → Formula
  | [x] => x
  | xs => connective xs

/-- Comparisons joined by `&&`. -/
def conjunction (operand : Parser Formula) : Parser Formula := fun ts =>
  (chain .and (comparison operand) ts).map fun p => (join .all p.1, p.2)

/-- Conjunctions joined by `||`. -/
def disjunction (operand : Parser Formula) : Parser Formula := fun ts =>
  (chain .or (conjunction operand) ts).map fun p => (join .any p.1, p.2)

/-- A disjunction up to a closing parenthesis. -/
def group (operand : Parser Formula) : Parser Formula := fun ts =>
  match disjunction operand ts with
  | .error e => .error e
  | .ok (_, ⟨[], _⟩) => .error (unexpected [])
  | .ok (x, ⟨t :: rest, h⟩) =>
    if t.kind = .mark .rightParen then .ok (x, ⟨rest, by simp only [List.length_cons] at h; omega⟩)
    else .error (unexpected (t :: rest))

/-- Go on with the tokens after the head. -/
def Parser.after {α : Type} (parser : Parser α) (t : Token) (ts : List Token) :
    Except SyntaxError (α × { rest : List Token // rest.length < (t :: ts).length }) :=
  (parser ts).map fun p => (p.1, ⟨p.2.1, by have := p.2.2; simp only [List.length_cons]; omega⟩)

/-- An operand, given the parser of the operands one level further in, if a further level may be
opened. -/
def operandWithin (inner? : Option (Parser Formula)) : Parser Formula
  | [] => .error (unexpected [])
  | t :: ts =>
    if t.kind = .mark .not then
      match inner? with
      | none => .error .tooDeep
      | some inner => (inner.after t ts).map fun p => (.not p.1, p.2)
    else if t.kind = .mark .leftParen then
      match inner? with
      | none => .error .tooDeep
      | some inner => (group inner).after t ts
    else atom (t :: ts)

/-- An operand in which at most so many negations and parentheses are open at once. -/
def operand : Nat → Parser Formula
  | 0 => operandWithin none
  | levels + 1 => operandWithin (some (operand levels))

/-- The formula that a list of tokens spells. -/
def ofTokens (ts : List Token) : Except SyntaxError Formula :=
  match disjunction (operand nestingLimit) ts with
  | .error e => .error e
  | .ok (x, ⟨[], _⟩) => .ok x
  | .ok (x, ⟨t :: _, _⟩) => if t.kind = .stop then .ok x else .error (.trailingInput t.position)

/-- The formula that a text spells. -/
def parse (text : String) : Except SyntaxError Formula := ofTokens (Token.scan text)

end Formula

end PageBuilder
