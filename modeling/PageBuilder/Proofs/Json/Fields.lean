import PageBuilder.Json.Record

/-!
# Fields are read as they are written

What is found for a key among the fields of a record is said for each way of writing a field
(`get?_field` and so on). Reading a field looks at what is found for its key and at nothing else
(`required_eq` and so on), and gives the value that was written, if the way of reading goes with the
way of writing: an absent field for a missing value, an empty list or `null`, or `null` itself for a
missing value. By these rules `simp` reads a record back field by field.
-/

namespace PageBuilder

variable {α : Type}

namespace Json

@[simp] theorem encode_json (v : Json) : encode v = v := rfl

theorem encode_dict_json (d : Dict Json) : encode d = .object d :=
  congrArg Json.object (List.map_id d)

/-! ### What is found for a key -/

section Writing

variable [Codec α] (key k : String)

@[simp] theorem get?_field (x : α) :
    Dict.get? (field key x) k = if key = k then some (encode x) else none := rfl

@[simp] theorem get?_fieldIfSome (x : Option α) :
    Dict.get? (fieldIfSome key x) k = if key = k then x.map encode else none := by
  cases x <;> simp [fieldIfSome]

@[simp] theorem get?_fieldOrNull (x : Option α) :
    Dict.get? (fieldOrNull key x) k =
      if key = k then some ((x.map encode).getD .null) else none := by
  cases x <;> rfl

end Writing

@[simp] theorem get?_fieldIfAny [Codec (List α)] (key k : String) (xs : List α) :
    Dict.get? (fieldIfAny key xs) k =
      if key = k then (if xs.isEmpty then none else some (encode xs)) else none := by
  unfold fieldIfAny
  cases xs.isEmpty <;> simp

@[simp] theorem get?_fieldIfValue (key k : String) (v : Json) :
    Dict.get? (fieldIfValue key v) k =
      if key = k then (if v.isNull then none else some v) else none := by
  unfold fieldIfValue
  cases v.isNull <;> simp

/-! ### What is read -/

section Reading

variable [Codec α] (v : Json) (key : String)

/-- Read what is found for a field that must be there. -/
def ofRequired (key : String) : Option Json → Except DecodeError α
  | some w => decode w
  | none => .error (.missing key)

/-- Read what is found for a field that may be absent or `null`. -/
def ofOptional : Option Json → Except DecodeError (Option α)
  | none | some .null => .ok none
  | some w => (decode w).map some

/-- Read what is found for a field with a value for the case that it is absent. -/
def ofDefault (default : α) : Option Json → Except DecodeError α
  | some w => decode w
  | none => .ok default

@[simp] theorem required_eq :
    (required v key : Except DecodeError α) = ofRequired key (v.get? key) := by
  unfold required
  cases v.get? key <;> rfl

@[simp] theorem optional_eq :
    (optional v key : Except DecodeError (Option α)) = ofOptional (v.get? key) := by
  unfold optional
  rcases v.get? key with _ | (_ | _ | _ | _ | _ | _) <;> rfl

@[simp] theorem withDefault_eq (default : α) :
    withDefault v key default = ofDefault default (v.get? key) := by
  unfold withDefault
  cases v.get? key <;> rfl

end Reading

section Lawful

variable [Codec α] [LawfulCodec α]

@[simp] theorem ofRequired_encode (key : String) (x : α) :
    ofRequired key (some (encode x)) = .ok x :=
  LawfulCodec.decode_encode x

@[simp] theorem ofDefault_encode (default x : α) : ofDefault default (some (encode x)) = .ok x :=
  LawfulCodec.decode_encode x

/-- A value that is there is not written as `null`, so that it is not read as a missing one. -/
@[simp] theorem ofOptional_encode (x : Option α) : ofOptional (x.map encode) = .ok x := by
  cases x with
  | none => rfl
  | some x =>
    have hnull := LawfulCodec.encode_ne_null x
    have hread := LawfulCodec.decode_encode x
    simp only [Option.map_some]
    unfold ofOptional
    split
    next h => cases h
    next h => exact absurd (Option.some.inj h) hnull
    next w _ h =>
      obtain rfl := Option.some.inj h
      rw [hread]
      rfl

@[simp] theorem ofOptional_encode_getD (x : Option α) :
    ofOptional (some ((x.map encode).getD .null)) = .ok x := by
  cases x with
  | none => rfl
  | some x => exact ofOptional_encode (some x)

end Lawful

@[simp] theorem ofDefault_encode_ifAny [Codec (List α)] [LawfulCodec (List α)] (xs : List α)
    [Decidable (xs = [])] :
    ofDefault [] (if xs = [] then none else some (encode xs)) = .ok xs := by
  split
  next hnil => rw [hnil]; rfl
  next => exact ofDefault_encode [] xs

@[simp] theorem ofDefault_none [Codec α] (default : α) : ofDefault default none = .ok default := rfl

/-- A value is read as it stands, `null` included. -/
@[simp] theorem ofRequired_value (key : String) (v : Json) : ofRequired key (some v) = .ok v := rfl

@[simp] theorem getD_ifValue (v : Json) : (if v.isNull then none else some v).getD .null = v := by
  cases v <;> rfl

/-! ### One field after another -/

attribute [simp] checkObject valueOrNull Dict.get?_append

@[simp] theorem ok_bind {β : Type} (x : α) (f : α → Except DecodeError β) :
    (Except.ok x >>= f) = f x := rfl

@[simp] theorem map_ok {β : Type} (f : α → β) (x : α) :
    f <$> (Except.ok x : Except DecodeError α) = .ok (f x) := rfl

end Json
end PageBuilder
