import PageBuilder.Json.Printer
import PageBuilder.Json.Record
import PageBuilder.Policy.Length

/-!
# Values of style keys

A `StyleSpec` says which values a style key takes: the kind of value, the units and the range of a
length or number, and the words that are offered. `StyleSpec.validate` judges a value and names the
first thing that is wrong with it; `null` clears a style and is always accepted.
-/

namespace PageBuilder
namespace Policy

/-- The kinds of style values. -/
inductive ValueKind where
  | length
  | number
  | color
  | enum
  | string
  | any
deriving DecidableEq

/-- The values that a style key takes. Its bounds are finite numbers: a registry is read from a JSON
document, which spells no others. -/
structure StyleSpec where
  kind : ValueKind := .any
  units : List String := []
  min : Option Finite64 := none
  max : Option Finite64 := none
  /-- The words that are values. -/
  values : List String := []
  /-- Further words that the editor offers. -/
  presets : List String := []
deriving DecidableEq

/-- What is wrong with a style value. -/
inductive StyleFault where
  | notString (value : Json)
  | notListed (values : List String) (value : Json)
  | notNumber (value : Json)
  | notLength (value : Json)
  | malformedLength (text : String)
  | unknownUnit (unit : String) (units : List String)
  | missingUnit (text : String)
  | notColor (value : Json)
  | belowMinimum (x : Binary64) (min : Finite64)
  | aboveMaximum (x : Binary64) (max : Finite64)

/-- The text of a fault. -/
def StyleFault.message : StyleFault → String
  | notString v => "expected a string, got " ++ v.render
  | notListed values v => "expected one of [" ++ ", ".intercalate values ++ "], got " ++ v.render
  | notNumber v => "expected a number, got " ++ v.render
  | notLength v => "expected a length, got " ++ v.render
  | malformedLength s => "'" ++ s ++ "' is not a length"
  | unknownUnit unit units => "unit '" ++ unit ++ "' not in [" ++ ", ".intercalate units ++ "]"
  | missingUnit s => "'" ++ s ++ "' is missing a unit"
  | notColor v => "'" ++ v.render ++ "' is not a color"
  | belowMinimum x min =>
    Layout.plain.renderAny x ++ " is below the minimum " ++ Layout.plain.render min
  | aboveMaximum x max =>
    Layout.plain.renderAny x ++ " is above the maximum " ++ Layout.plain.render max

namespace StyleSpec

/-- Whether a text is one of the words on offer. -/
def isKeyword (m : StyleSpec) (s : String) : Bool := m.values.contains s || m.presets.contains s

/-- A number must not lie below the minimum or above the maximum. -/
def checkRange (m : StyleSpec) (x : Binary64) : Except StyleFault Unit :=
  match m.min.filter fun low => x.lt (.finite low) with
  | some low => .error (.belowMinimum x low)
  | none =>
    match m.max.filter fun high => (Binary64.finite high).lt x with
    | some high => .error (.aboveMaximum x high)
    | none => .ok ()

/-- The number that a value stands for, itself or spelled in a text. -/
def numberOf? : Json → Option Binary64
  | .number n => some (.finite n.toFloat)
  | .string s => Numeral.read (Text.trim s.toList)
  | _ => none

/-- A length needs one of the units, if any are listed; zero needs none. -/
def checkUnit (m : StyleSpec) (text : String) (l : Length) : Except StyleFault Unit :=
  if m.units = [] then .ok ()
  else if l.unit = [] then (if l.number.isZero then .ok () else .error (.missingUnit text))
  else if String.ofList l.unit ∈ m.units then .ok ()
  else .error (.unknownUnit (String.ofList l.unit) m.units)

/-- Judge a text as a length. -/
def checkLengthText (m : StyleSpec) (s : String) : Except StyleFault Unit :=
  match Length.read? s.toList with
  | none => .error (.malformedLength s)
  | some l => do
    m.checkUnit s l
    m.checkRange l.number

/-- Judge a value. -/
def validate (m : StyleSpec) (v : Json) : Except StyleFault Unit :=
  if v.isNull then .ok ()
  else match m.kind, v with
    | .any, _ => .ok ()
    | .string, .string _ => .ok ()
    | .string, v => .error (.notString v)
    | .enum, .string s => if m.isKeyword s then .ok () else .error (.notListed m.values v)
    | .enum, v => .error (.notListed m.values v)
    | .number, v =>
      match numberOf? v with
      | some x => m.checkRange x
      | none => .error (.notNumber v)
    | .length, .number n => m.checkRange (.finite n.toFloat)
    | .length, .string s => if m.isKeyword s then .ok () else m.checkLengthText s
    | .length, v => .error (.notLength v)
    | .color, .string s =>
      if m.isKeyword s || isColor s.toList then .ok () else .error (.notColor v)
    | .color, v => .error (.notColor v)

end StyleSpec

/-! ### Stored form -/

instance : Codec ValueKind where
  encode
    | .length => .string "length"
    | .number => .string "number"
    | .color => .string "color"
    | .enum => .string "enum"
    | .string => .string "string"
    | .any => .string "any"
  decode v :=
    match v.word? with
    | some "length" => .ok .length
    | some "number" => .ok .number
    | some "color" => .ok .color
    | some "enum" => .ok .enum
    | some "string" => .ok .string
    | some "any" => .ok .any
    | some word => .error (.unknownWord word)
    | none => .error (.mismatch "a kind of value")
  shape := .word ["length", "number", "color", "enum", "string", "any"]

open Json in
instance : Codec StyleSpec where
  encode m := .object <|
    fieldIfSome "max" m.max ++ fieldIfSome "min" m.min ++ fieldIfAny "presets" m.presets ++
      field "type" m.kind ++ fieldIfAny "units" m.units ++ fieldIfAny "values" m.values
  decode v := do
    v.checkObject
    return {
      kind := ← withDefault v "type" .any
      units := ← withDefault v "units" []
      min := ← optional v "min"
      max := ← optional v "max"
      values := ← withDefault v "values" []
      presets := ← withDefault v "presets" [] }
  shape := .record [mayHave ValueKind "type", mayHave (List String) "units",
    mayHaveOrNull Finite64 "min", mayHaveOrNull Finite64 "max", mayHave (List String) "values",
    mayHave (List String) "presets"]

end Policy
end PageBuilder
