import PageBuilder.Json.Record

/-!
# Sets of names

A set of names is the strictly ascending list of its members, so two sets with the same members are
equal (`ext`), and a set has one written form.
-/

namespace PageBuilder

/-- A set of names. -/
structure NameSet where
  names : List String
  ascending : names.Pairwise (· < ·)
deriving DecidableEq

namespace NameSet

instance : Membership String NameSet := ⟨fun s x => x ∈ s.names⟩

instance (x : String) (s : NameSet) : Decidable (x ∈ s) := inferInstanceAs (Decidable (x ∈ s.names))

theorem mem_iff {x : String} {s : NameSet} : x ∈ s ↔ x ∈ s.names := Iff.rfl

/-- The set without members. -/
def empty : NameSet := ⟨[], .nil⟩

instance : Inhabited NameSet := ⟨empty⟩

/-- Put a name at its place in an ascending list. -/
def place (x : String) : List String → List String
  | [] => [x]
  | y :: ys => if x < y then x :: y :: ys else if x = y then y :: ys else y :: place x ys

theorem mem_place {x z : String} {ys : List String} : z ∈ place x ys ↔ z = x ∨ z ∈ ys := by
  induction ys with
  | nil => simp [place]
  | cons y ys ih =>
    unfold place
    by_cases h1 : x < y
    · rw [if_pos h1, List.mem_cons]
    · by_cases h2 : x = y
      · subst h2
        rw [if_neg h1, if_pos rfl]
        simp
      · simp only [h1, h2, if_false, List.mem_cons, ih]
        exact ⟨fun h => by rcases h with h | h | h <;> simp [h],
          fun h => by rcases h with h | h | h <;> simp [h]⟩

theorem ascending_place {x : String} {ys : List String} (h : ys.Pairwise (· < ·)) :
    (place x ys).Pairwise (· < ·) := by
  induction ys with
  | nil => simp [place]
  | cons y ys ih =>
    obtain ⟨hy, hys⟩ := List.pairwise_cons.1 h
    unfold place
    by_cases h1 : x < y
    · simp only [h1, if_true, List.pairwise_cons]
      refine ⟨fun z hz => ?_, hy, hys⟩
      rcases List.mem_cons.1 hz with rfl | hz
      · exact h1
      · exact String.lt_trans h1 (hy z hz)
    · by_cases h2 : x = y
      · simpa [h1, h2] using h
      · simp only [h1, h2, if_false, List.pairwise_cons]
        refine ⟨fun z hz => ?_, ih hys⟩
        rcases mem_place.1 hz with rfl | hz
        · exact lt_of_not_lt_of_ne h1 h2
        · exact hy z hz

/-- Add a name. -/
def insert (x : String) (s : NameSet) : NameSet := ⟨place x s.names, ascending_place s.ascending⟩

/-- The set of the names of a list. -/
def ofList : List String → NameSet
  | [] => empty
  | x :: xs => insert x (ofList xs)

/-- The members that pass a test. -/
def filter (test : String → Bool) (s : NameSet) : NameSet :=
  ⟨s.names.filter test, s.ascending.filter test⟩

/-- The number of members. -/
def size (s : NameSet) : Nat := s.names.length

/-- Whether there are no members. -/
def isEmpty (s : NameSet) : Bool := s.names.isEmpty

@[simp] theorem not_mem_empty (x : String) : x ∉ empty := by simp [mem_iff, empty]

@[simp] theorem mem_insert {x y : String} {s : NameSet} :
    y ∈ insert x s ↔ y = x ∨ y ∈ s := mem_place

@[simp] theorem mem_ofList {x : String} {xs : List String} : x ∈ ofList xs ↔ x ∈ xs := by
  induction xs with
  | nil => simp [ofList]
  | cons y ys ih => simp [ofList, ih]

@[simp] theorem mem_filter {x : String} {test : String → Bool} {s : NameSet} :
    x ∈ filter test s ↔ x ∈ s ∧ test x = true := by
  simp [mem_iff, filter]

/-- A name that is smaller than all members goes to the front. -/
theorem place_of_lt {x : String} {ys : List String} (h : ∀ y ∈ ys, x < y) :
    place x ys = x :: ys := by
  cases ys with
  | nil => rfl
  | cons y ys => simp [place, h y (by simp)]

/-- Reading the written form of a set gives the set. -/
theorem ofList_names (s : NameSet) : ofList s.names = s := by
  obtain ⟨names, h⟩ := s
  induction names with
  | nil => rfl
  | cons x xs ih =>
    obtain ⟨hx, hxs⟩ := List.pairwise_cons.1 h
    have hrec := ih hxs
    simp only [ofList] at hrec ⊢
    rw [hrec]
    simp only [insert, mk.injEq]
    exact place_of_lt hx

theorem names_eq_of_mem_iff {xs ys : List String} (hx : xs.Pairwise (· < ·))
    (hy : ys.Pairwise (· < ·)) (h : ∀ z, z ∈ xs ↔ z ∈ ys) : xs = ys := by
  induction xs generalizing ys with
  | nil =>
    cases ys with
    | nil => rfl
    | cons y ys => exact absurd ((h y).2 (by simp)) (by simp)
  | cons x xs ih =>
    cases ys with
    | nil => exact absurd ((h x).1 (by simp)) (by simp)
    | cons y ys =>
      obtain ⟨hx1, hx2⟩ := List.pairwise_cons.1 hx
      obtain ⟨hy1, hy2⟩ := List.pairwise_cons.1 hy
      have hxy : x = y := by
        rcases List.mem_cons.1 ((h x).1 (by simp)) with e | hxs
        · exact e
        rcases List.mem_cons.1 ((h y).2 (by simp)) with e | hys
        · exact e.symm
        · exact absurd (String.lt_trans (hx1 y hys) (hy1 x hxs)) (String.lt_irrefl x)
      subst hxy
      congr 1
      refine ih hx2 hy2 fun z => ⟨fun hz => ?_, fun hz => ?_⟩
      · rcases List.mem_cons.1 ((h z).1 (by simp [hz])) with rfl | hz'
        · exact absurd (hx1 _ hz) (String.lt_irrefl _)
        · exact hz'
      · rcases List.mem_cons.1 ((h z).2 (by simp [hz])) with rfl | hz'
        · exact absurd (hy1 _ hz) (String.lt_irrefl _)
        · exact hz'

/-- Sets with the same members are equal. -/
theorem ext {s t : NameSet} (h : ∀ x, x ∈ s ↔ x ∈ t) : s = t := by
  cases s with
  | mk xs hx =>
    cases t with
    | mk ys hy => simpa using names_eq_of_mem_iff hx hy h

end NameSet

instance : Codec NameSet where
  encode s := encode s.names
  decode v := (decode v : Except DecodeError (List String)).map NameSet.ofList
  shape := shapeOf (List String)

instance : LawfulCodec NameSet where
  decode_encode s := by
    show ((decode (encode s.names) : Except DecodeError (List String)).map NameSet.ofList) = _
    rw [LawfulCodec.decode_encode]
    simp [Except.map, NameSet.ofList_names]
  encode_ne_null _ := nofun

end PageBuilder
