import PageBuilder.Json.Basic

/-!
# Expected shapes

A text is read for a value of some shape. Where a value of another shape begins, the text does not
match, whatever follows; a text that breaks the rules of JSON before that is malformed. Fields that
a record does not know are skipped: they only have to be made of tokens in a possible order. A
record may also be written as a list of its first fields.
-/

namespace PageBuilder
namespace Json

/-- Why a text cannot be read. -/
inductive Fault where
  /-- It is no JSON. -/
  | malformed
  /-- A value in it has another shape than the expected one. -/
  | mismatch
deriving DecidableEq

/-- What is expected of a value. -/
inductive Shape where
  | any
  /-- A value that is not kept. -/
  | skipped
  | null
  | bool
  | number
  /-- A natural number below a limit. -/
  | natural (limit : Nat)
  | string
  /-- One of some words, which may also be the one key of an object, with the value `null`. -/
  | word (words : List String)
  /-- The tag of a record: one of some words, or any string. -/
  | tag (words : Option (List String))
  /-- A value that may be `null`. -/
  | nullable (shape : Shape)
  | list (item : Shape)
  | dict (value : Shape)
  /-- The fields in their order: the name, whether it must be there, and the shape of its value. -/
  | record (fields : List (String × Bool × Shape))
  /-- A record whose tag says which fields it has. Only a whole record is judged. -/
  | tagged (tag : String) (words : Option (List String)) (accepts : Json → Bool)

namespace Shape

/-- A natural number below a limit. -/
def isNatural (limit : Nat) : Json → Bool
  | .number (.int n) => decide (0 ≤ n ∧ n < limit)
  | _ => false

/-- The value is one of some words; no list of words allows any string. -/
def isWord (words : Option (List String)) : Json → Bool
  | .string s => words.all fun ws => ws.contains s
  | _ => false

/-- Keep a value on a condition. -/
def keepIf (condition : Bool) (v : Json) : Except Fault Json :=
  if condition then .ok v else .error .mismatch

/-- Read a value that is no container. A word can only be a string; anything else there is no JSON
for it. -/
def ofScalar : Shape → Json → Except Fault Json
  | nullable _, .null => .ok .null
  | nullable s, v => s.ofScalar v
  | any, v => .ok v
  | skipped, _ => .ok .null
  | null, v => keepIf v.isNull v
  | bool, .bool b => .ok (.bool b)
  | number, .number n => .ok (.number n)
  | natural limit, v => keepIf (isNatural limit v) v
  | string, .string s => .ok (.string s)
  | word words, .string s => keepIf (words.contains s) (.string s)
  | word _, _ => .error .malformed
  | tag words, v => keepIf (isWord words v) v
  | _, _ => .error .mismatch

/-- The shape of the container that an opening bracket begins. -/
def ofBracket : Shape → Except Fault Shape
  | nullable s => s.ofBracket
  | any => .ok any
  | skipped => .ok skipped
  | list s => .ok (list s)
  | record fs => .ok (record fs)
  | tagged t words accepts => .ok (tagged t words accepts)
  | word _ => .error .malformed
  | _ => .error .mismatch

/-- The shape of the container that an opening brace begins. -/
def ofBrace : Shape → Except Fault Shape
  | nullable s => s.ofBrace
  | any => .ok any
  | skipped => .ok skipped
  | dict s => .ok (dict s)
  | record fs => .ok (record fs)
  | tagged t words accepts => .ok (tagged t words accepts)
  | word words => .ok (word words)
  | _ => .error .mismatch

/-- What is expected of the items of a list. -/
def item : Shape → Shape
  | list s => s
  | skipped => skipped
  | _ => any

/-- What is expected of the value of a key. -/
def value : Shape → String → Shape
  | dict s, _ => s
  | record fs, key =>
    match fs.find? fun f => f.1 == key with
    | some (_, _, s) => s
    | none => skipped
  | tagged t words _, key => if key = t then tag words else any
  | word _, _ => null
  | skipped, _ => skipped
  | _, _ => any

/-- The entry of a key is kept. -/
def keeps : Shape → String → Bool
  | record fs, key => fs.any fun f => f.1 == key
  | skipped, _ => false
  | _, _ => true

/-- A key may follow some entries. A record has no field twice. -/
def checkKey : Shape → Dict Json → String → Except Fault Unit
  | record _, done, key => if done.contains key then .error .mismatch else .ok ()
  | word words, [], key => if words.contains key then .ok () else .error .mismatch
  | word _, _ :: _, _ => .error .malformed
  | _, _, _ => .ok ()

/-- What is wrong with a value other than a string in the place of a key. -/
def keyFault : Shape → Dict Json → Fault
  | word _, [] => .mismatch
  | _, _ => .malformed

/-- The value of a whole list. -/
def closeList : Shape → List Json → Except Fault Json
  | skipped, _ => .ok .null
  | tagged .., _ => .error .mismatch
  | _, items => .ok (.array items)

/-- The value of a whole object. -/
def closeObject : Shape → Dict Json → Except Fault Json
  | skipped, _ => .ok .null
  | record fs, done => keepIf (fs.all fun f => !f.2.1 || done.contains f.1) (.object done)
  | tagged _ _ accepts, done => keepIf (accepts (.object done)) (.object done)
  | word _, [] => .error .malformed
  | _, done => .ok (.object done)

end Shape
end Json
end PageBuilder
