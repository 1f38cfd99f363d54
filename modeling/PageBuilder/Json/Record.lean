import PageBuilder.Json.Shape

/-!
# Records in JSON

A `Codec` writes values of a type as JSON and reads them back, and says what shape they have in
texts. Records are objects: fields that are not known are ignored, a field without a value may be
required (`required`), absent (`optional`, where `null` counts as absent) or filled in
(`withDefault`, where `null` is read like any other value). `LawfulCodec` says that what was written
is read back.
-/

namespace PageBuilder

/-- Why a JSON value is not a value of the expected type. -/
inductive DecodeError where
  /-- A required field is absent. -/
  | missing (field : String)
  /-- A value has another shape than the expected one. -/
  | mismatch (expected : String)
  /-- A word is none of the expected ones. -/
  | unknownWord (word : String)
deriving DecidableEq

/-- A type whose values are stored as JSON. -/
class Codec (α : Type) where
  encode : α → Json
  decode : Json → Except DecodeError α
  /-- What is expected of a value in a text. -/
  shape : Json.Shape := .any

/-- What was written is read back, and is never `null`. -/
class LawfulCodec (α : Type) [Codec α] : Prop where
  decode_encode : ∀ x : α, Codec.decode (Codec.encode x) = .ok x
  encode_ne_null : ∀ x : α, Codec.encode x ≠ .null

export Codec (encode decode)

/-- What is expected of a value of a type. -/
def shapeOf (α : Type) [Codec α] : Json.Shape := Codec.shape α

variable {α : Type}

/-! ### Values -/

instance : Codec Json where
  encode := id
  decode := .ok

instance : Codec String where
  encode := .string
  decode
    | .string s => .ok s
    | _ => .error (.mismatch "a string")
  shape := .string

instance : Codec Bool where
  encode := .bool
  decode
    | .bool b => .ok b
    | _ => .error (.mismatch "a truth value")
  shape := .bool

instance : Codec Finite64 where
  encode x := .number (.float x)
  decode
    | .number n => .ok n.toFloat
    | _ => .error (.mismatch "a number")
  shape := .number

instance : Codec UInt32 where
  encode n := .ofNat n.toNat
  decode
    | .number (.int n) =>
      if 0 ≤ n ∧ n < UInt32.size then .ok (UInt32.ofNat n.toNat)
      else .error (.mismatch "an integer of 32 bits")
    | _ => .error (.mismatch "an integer of 32 bits")
  shape := .natural UInt32.size

instance [Codec α] : Codec (List α) where
  encode xs := .array (xs.map encode)
  decode
    | .array xs => xs.mapM decode
    | _ => .error (.mismatch "a list")
  shape := .list (shapeOf α)

instance [Codec α] : Codec (Dict α) where
  encode d := .object (d.map fun e => (e.1, encode e.2))
  decode
    | .object d => d.mapM fun e => (decode e.2).map (e.1, ·)
    | _ => .error (.mismatch "an object")
  shape := .dict (shapeOf α)

instance : LawfulCodec String := ⟨fun _ => rfl, fun _ => nofun⟩

instance : LawfulCodec Bool := ⟨fun _ => rfl, fun _ => nofun⟩

instance : LawfulCodec Finite64 := ⟨fun _ => rfl, fun _ => nofun⟩

/-- A natural number below a limit passes the check of its bounds. -/
theorem ite_natural_of_lt {n limit : Nat} (h : n < limit) (x y : Except DecodeError α) :
    (if 0 ≤ (n : Int) ∧ (n : Int) < limit then x else y) = x :=
  if_pos ⟨Int.natCast_nonneg n, Int.ofNat_lt.2 h⟩

instance : LawfulCodec UInt32 where
  decode_encode n := by
    show (if 0 ≤ (n.toNat : Int) ∧ (n.toNat : Int) < (UInt32.size : Nat) then
      Except.ok (UInt32.ofNat (n.toNat : Int).toNat) else .error _) = _
    rw [ite_natural_of_lt n.toNat_lt, Int.toNat_natCast, UInt32.ofNat_toNat]
  encode_ne_null _ := nofun

theorem mapM_decode_map_encode [Codec α] (h : ∀ x : α, decode (encode x) = .ok x) (xs : List α) :
    (xs.map encode).mapM (decode (α := α)) = .ok xs := by
  induction xs with
  | nil => rfl
  | cons x xs ih => simp [h, ih, bind, Except.bind, pure, Except.pure]

instance [Codec α] [LawfulCodec α] : LawfulCodec (List α) where
  decode_encode := mapM_decode_map_encode LawfulCodec.decode_encode
  encode_ne_null _ := nofun

theorem decode_encode_dict [Codec α] (h : ∀ x : α, decode (encode x) = .ok x) (d : Dict α) :
    decode (encode d) = .ok d := by
  show (d.map fun e => (e.1, encode e.2)).mapM (fun e => (decode (α := α) e.2).map (e.1, ·)) = .ok d
  induction d with
  | nil => rfl
  | cons e d ih =>
    rw [List.map_cons, List.mapM_cons, ih]
    simp [h, Except.map, bind, Except.bind, pure, Except.pure]

instance [Codec α] [LawfulCodec α] : LawfulCodec (Dict α) where
  decode_encode := decode_encode_dict LawfulCodec.decode_encode
  encode_ne_null _ := nofun

/-- A dictionary of any values is read back. -/
instance : LawfulCodec (Dict Json) where
  decode_encode := decode_encode_dict fun _ => rfl
  encode_ne_null _ := nofun

namespace Json

/-! ### Reading fields -/

/-- The value is an object. -/
def checkObject : Json → Except DecodeError Unit
  | .object _ => .ok ()
  | _ => .error (.mismatch "an object")

/-- A field that must be there. -/
def required [Codec α] (v : Json) (key : String) : Except DecodeError α :=
  match v.get? key with
  | some w => decode w
  | none => .error (.missing key)

/-- A field that may be absent or `null`. -/
def optional [Codec α] (v : Json) (key : String) : Except DecodeError (Option α) :=
  match v.get? key with
  | none | some .null => .ok none
  | some w => (decode w).map some

/-- A field with a value for the case that it is absent. -/
def withDefault [Codec α] (v : Json) (key : String) (default : α) : Except DecodeError α :=
  match v.get? key with
  | some w => decode w
  | none => .ok default

/-- A field of any value, where `null` counts as absent. -/
def valueOrNull (v : Json) (key : String) : Json := (v.get? key).getD .null

/-- The word that a value stands for, by itself or as the one key of an object. -/
def word? : Json → Option String
  | .string s => some s
  | .object [(s, .null)] => some s
  | _ => none

/-! ### Fields in shapes -/

/-- A field that must be there. -/
def mustHave (α : Type) [Codec α] (key : String) : String × Bool × Shape := (key, true, shapeOf α)

/-- A field that may be absent. -/
def mayHave (α : Type) [Codec α] (key : String) : String × Bool × Shape := (key, false, shapeOf α)

/-- A field that may be absent or `null`. -/
def mayHaveOrNull (α : Type) [Codec α] (key : String) : String × Bool × Shape :=
  (key, false, .nullable (shapeOf α))

/-! ### Writing fields -/

/-- A field that is always written. -/
def field [Codec α] (key : String) (x : α) : Dict Json := [(key, encode x)]

/-- A field that is left out when there is no value. -/
def fieldIfSome [Codec α] (key : String) : Option α → Dict Json
  | some x => [(key, encode x)]
  | none => []

/-- A field that is `null` when there is no value. -/
def fieldOrNull [Codec α] (key : String) : Option α → Dict Json
  | some x => [(key, encode x)]
  | none => [(key, .null)]

/-- A list that is left out when it is empty. -/
def fieldIfAny {β : Type} [Codec (List β)] (key : String) (xs : List β) : Dict Json :=
  if xs.isEmpty then [] else [(key, encode xs)]

/-- A value that is left out when it is `null`. -/
def fieldIfValue (key : String) (v : Json) : Dict Json := if v.isNull then [] else [(key, v)]

end Json

end PageBuilder
