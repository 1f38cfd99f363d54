import PageBuilder.Json.Record

/-!
# Viewports

A declaration gives values to style keys. A node stores one declaration for each viewport: the one
of the base viewport always applies, and another viewport adds its own on top of it only if its mode
is `independent`.
-/

namespace PageBuilder

/-- Values for style keys. -/
abbrev Declaration := Dict Json

/-- The declaration that a value holds; anything but an object declares nothing. -/
def Declaration.ofJson? (v : Option Json) : Declaration := (v.getD .null).fields

/-- How a viewport relates to the base declaration. -/
inductive CascadeMode where
  /-- Only the base declaration counts. -/
  | unified
  /-- The declaration of the viewport is laid over the base declaration. -/
  | independent
deriving DecidableEq

/-- A viewport besides the base one. -/
structure Viewport where
  name : String
  minWidth : Option UInt32 := none
  mode : CascadeMode := .unified
deriving DecidableEq

/-- The base viewport of a project that names no other. -/
def baseViewport : String := "base"

/-- The viewports that a project is designed for. -/
structure Viewports where
  base : String := baseViewport
  entries : List Viewport := []
deriving DecidableEq

namespace Viewports

/-- The mode of a viewport; one that is not known is unified. -/
def mode (vs : Viewports) (name : String) : CascadeMode :=
  match vs.entries.find? fun v => v.name == name with
  | some v => v.mode
  | none => .unified

/-- The viewport is the base viewport or one of the others. -/
def contains (vs : Viewports) (name : String) : Bool :=
  name == vs.base || vs.entries.any fun v => v.name == name

/-- The viewport lays its own declaration over the base declaration. -/
def overrides (vs : Viewports) (name : String) : Bool :=
  name != vs.base && vs.mode name == .independent

/-- The declaration that applies at a viewport, out of those stored for the viewports. -/
def effective (vs : Viewports) (styles : Dict Json) (active : String) : Declaration :=
  let base := Declaration.ofJson? (styles.get? vs.base)
  if vs.overrides active then base.overlay (Declaration.ofJson? (styles.get? active)) else base

end Viewports

/-! ### Stored form -/

open Json

instance : Codec CascadeMode where
  encode
    | .unified => .string "unified"
    | .independent => .string "independent"
  decode v :=
    match v.word? with
    | some "unified" => .ok .unified
    | some "independent" => .ok .independent
    | some word => .error (.unknownWord word)
    | none => .error (.mismatch "a cascade mode")
  shape := .word ["unified", "independent"]

instance : Codec Viewport where
  encode v :=
    .object (fieldIfSome "minWidth" v.minWidth ++ field "mode" v.mode ++ field "name" v.name)
  decode v := do
    v.checkObject
    return {
      name := ← required v "name"
      minWidth := ← optional v "minWidth"
      mode := ← withDefault v "mode" .unified }
  shape :=
    .record [mustHave String "name", mayHaveOrNull UInt32 "minWidth", mayHave CascadeMode "mode"]

instance : Codec Viewports where
  encode vs := .object (field "base" vs.base ++ field "entries" vs.entries)
  decode v := do
    v.checkObject
    return { base := ← withDefault v "base" baseViewport, entries := ← withDefault v "entries" [] }
  shape := .record [mayHave String "base", mayHave (List Viewport) "entries"]

end PageBuilder
