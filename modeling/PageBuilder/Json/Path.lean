import PageBuilder.Json.Basic
import PageBuilder.Text.Split

/-!
# Paths into JSON

A path is a list of keys. `at?` walks it through objects; `put` writes at its end, making objects
along the way and replacing what is no object. Written out, the keys are joined by dots and none of
them is empty (`Path.ofText?`).
-/

namespace PageBuilder
namespace Json

/-- The value at the end of a path, if every step leads from an object to one of its entries. -/
def at? : Json → List String → Option Json
  | v, [] => some v
  | v, key :: path =>
    match v.get? key with
    | some w => at? w path
    | none => none

/-- Write a value at the end of a path. -/
def put (value : Json) : List String → Json → Json
  | [], _ => value
  | key :: path, root =>
    .object (Dict.insert key (put value path ((root.get? key).getD empty)) root.fields)

/-- The keys of a dotted text, unless one of them is empty. -/
def pathOfText? (text : String) : Option (List String) :=
  let keys := Text.split '.' text.toList
  if [] ∈ keys then none else some (keys.map String.ofList)

/-- Write a value at a dotted path. -/
def putText? (text : String) (value root : Json) : Option Json :=
  (pathOfText? text).map fun path => put value path root

@[simp] theorem at?_nil (v : Json) : v.at? [] = some v := by cases v <;> rfl

theorem at?_cons (v : Json) (key : String) (path : List String) :
    v.at? (key :: path) = (v.get? key).bind fun w => w.at? path := by
  cases h : v.get? key <;> simp [at?, h]

/-- What was written is found. -/
theorem at?_put (value : Json) (path : List String) (root : Json) :
    (put value path root).at? path = some value := by
  induction path generalizing root with
  | nil => simp [put]
  | cons key path ih => simp [put, at?_cons, ih]

/-- What a write leaves at a key: at the first key of the path what is written further on, at any
other what was there. -/
theorem get?_put_cons (value : Json) (key : String) (path : List String) (root : Json)
    (other : String) :
    (put value (key :: path) root).get? other =
      if key = other then some (put value path ((root.get? key).getD empty))
      else root.get? other := by
  simp only [put, get?_object, Dict.get?_insert, get?_eq_get?_fields root]

end Json
end PageBuilder
