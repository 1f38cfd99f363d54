import PageBuilder.Dict
import PageBuilder.Number.Binary64

/-!
# JSON values

A JSON value keeps the kind of its numbers: an integer stays an integer and a decimal is a binary64
number. The entries of an object are in the order of their keys. `Json.same` is structural equality,
in which an integer and a decimal always differ.
-/

namespace PageBuilder

/-- A number in JSON. -/
inductive Number where
  | int (n : Int)
  | float (x : Finite64)
deriving DecidableEq

namespace Number

/-- The number as binary64; a large integer is rounded. -/
def toFloat : Number → Finite64
  | int n => Finite64.ofInt n
  | float x => x

/-- Equal kinds and equal values. -/
def same : Number → Number → Bool
  | int a, int b => a == b
  | float x, float y => x.same y
  | _, _ => false

end Number

/-- A JSON value. -/
inductive Json where
  | null
  | bool (b : Bool)
  | number (n : Number)
  | string (s : String)
  | array (items : List Json)
  | object (fields : List (String × Json))

namespace Json

instance : Inhabited Json := ⟨.null⟩

/-- A whole number. -/
def ofNat (n : Nat) : Json := .number (.int n)

/-- The object without entries. -/
def empty : Json := .object []

/-- The entries of an object; any other value has none. -/
def fields : Json → Dict Json
  | .object d => d
  | _ => []

/-- Whether the value is `null`. -/
def isNull : Json → Bool
  | .null => true
  | _ => false

/-- The value stored for a key of an object. -/
def get? : Json → String → Option Json
  | .object d, key => Dict.get? d key
  | _, _ => none

/-- The text of a string. -/
def text? : Json → Option String
  | .string s => some s
  | _ => none

mutual

/-- Structural equality. -/
def same : Json → Json → Bool
  | .null, .null => true
  | .bool a, .bool b => a == b
  | .number a, .number b => a.same b
  | .string a, .string b => a == b
  | .array xs, .array ys => sameItems xs ys
  | .object d, .object e => sameFields d e
  | _, _ => false

/-- Equal lengths and equal items. -/
def sameItems : List Json → List Json → Bool
  | [], [] => true
  | x :: xs, y :: ys => same x y && sameItems xs ys
  | _, _ => false

/-- Equal keys with equal values. -/
def sameFields : List (String × Json) → List (String × Json) → Bool
  | [], [] => true
  | (k, v) :: d, (j, w) :: e => k == j && same v w && sameFields d e
  | _, _ => false

end

@[simp] theorem get?_object (d : Dict Json) (key : String) :
    get? (.object d) key = Dict.get? d key := rfl

@[simp] theorem fields_object (d : Dict Json) : fields (.object d) = d := rfl

theorem get?_eq_get?_fields (v : Json) (key : String) : v.get? key = Dict.get? v.fields key := by
  cases v <;> rfl

end Json

end PageBuilder
