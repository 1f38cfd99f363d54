import PageBuilder.Json.Basic
import PageBuilder.NameSet

/-!
# Equality of JSON values

Structural equality and the equality by value are one equality with two ways to compare numbers
(`sameBy`): it takes lists apart item by item (`sameBy_array_iff`) and objects key by key
(`sameBy_object_iff`). Structural equality tells apart what the equality by value does not exactly
where, at one place of both values, there are two numbers with one binary64 value
(`same_iff_alike`).
-/

namespace PageBuilder

/-- A property of all values is shown for each kind of value, given that all items and all entries
have it. -/
@[elab_as_elim]
theorem Json.induction {motive : Json → Prop} (null : motive .null) (bool : ∀ b, motive (.bool b))
    (number : ∀ n, motive (.number n)) (string : ∀ s, motive (.string s))
    (array : ∀ items, (∀ x ∈ items, motive x) → motive (.array items))
    (object : ∀ fields, (∀ e ∈ fields, motive e.2) → motive (.object fields))
    (v : Json) : motive v :=
  Json.rec (motive_2 := fun xs => ∀ x ∈ xs, motive x) (motive_3 := fun d => ∀ e ∈ d, motive e.2)
    (motive_4 := fun e => motive e.2) null bool number string array object nofun
    (fun _ _ hx hxs => List.forall_mem_cons.mpr ⟨hx, hxs⟩) nofun
    (fun _ _ he hd => List.forall_mem_cons.mpr ⟨he, hd⟩) (fun _ _ hv => hv) v

namespace Number

/-- Numbers with one binary64 value are one. -/
def alike (m n : Number) : Bool := m.toFloat.same n.toFloat

/-- Two numbers with one binary64 value: an integer and a decimal, or integers that are rounded to
the same decimal. -/
def IsTwin (m n : Number) : Prop := m.alike n = true ∧ m.same n = false

theorem alike_of_same {m n : Number} (h : m.same n = true) : m.alike n = true := by
  cases m with
  | int a =>
    cases n with
    | int b =>
      obtain rfl : a = b := by simpa [same] using h
      simp [alike, Finite64.same]
    | float y => simp [same] at h
  | float x =>
    cases n with
    | int b => simp [same] at h
    | float y => exact h

theorem same_iff_alike (m n : Number) : m.same n = true ↔ m.alike n = true ∧ ¬ m.IsTwin n := by
  unfold IsTwin
  cases hsame : m.same n with
  | true => simp [alike_of_same hsame]
  | false => simp

end Number

namespace Json

/-- In every object, at every depth, the keys ascend, so that no key is there twice. -/
inductive Ordered : Json → Prop where
  | null : Ordered .null
  | bool (b : Bool) : Ordered (.bool b)
  | number (n : Number) : Ordered (.number n)
  | string (s : String) : Ordered (.string s)
  | array {items : List Json} (items_ordered : ∀ x ∈ items, Ordered x) : Ordered (.array items)
  | object {d : Dict Json} (ascending : d.Ascending) (values_ordered : ∀ e ∈ d, Ordered e.2) :
      Ordered (.object d)

/-! ### One equality for each way to compare numbers -/

mutual

/-- Equality in which numbers are compared by `r`, at every depth. -/
def sameBy (r : Number → Number → Bool) : Json → Json → Bool
  | .null, .null => true
  | .bool a, .bool b => a == b
  | .number a, .number b => r a b
  | .string a, .string b => a == b
  | .array xs, .array ys => sameItemsBy r xs ys
  | .object d, .object e => sameFieldsBy r d e
  | _, _ => false

/-- Equal lengths and equal items. -/
def sameItemsBy (r : Number → Number → Bool) : List Json → List Json → Bool
  | [], [] => true
  | x :: xs, y :: ys => sameBy r x y && sameItemsBy r xs ys
  | _, _ => false

/-- Equal keys with equal values. -/
def sameFieldsBy (r : Number → Number → Bool) : List (String × Json) → List (String × Json) → Bool
  | [], [] => true
  | (k, v) :: d, (j, w) :: e => k == j && sameBy r v w && sameFieldsBy r d e
  | _, _ => false

end

/-- The equality by value: numbers with one binary64 value are one, at every depth. -/
def alike (v w : Json) : Bool := v.sameBy Number.alike w

variable {r : Number → Number → Bool}

theorem sameItemsBy_iff {xs ys : List Json} :
    sameItemsBy r xs ys = true ↔
      xs.length = ys.length ∧ ∀ i (hx : i < xs.length) (hy : i < ys.length),
        xs[i].sameBy r ys[i] = true := by
  induction xs generalizing ys with
  | nil => cases ys <;> simp [sameItemsBy]
  | cons x xs ih =>
    cases ys with
    | nil => simp [sameItemsBy]
    | cons y ys =>
      simp only [sameItemsBy, Bool.and_eq_true, ih, List.length_cons, Nat.add_right_cancel_iff]
      constructor
      · rintro ⟨hhead, hlength, hitems⟩
        refine ⟨hlength, fun i hx hy => ?_⟩
        cases i with
        | zero => exact hhead
        | succ i => exact hitems i (Nat.lt_of_succ_lt_succ hx) (Nat.lt_of_succ_lt_succ hy)
      · rintro ⟨hlength, hitems⟩
        exact ⟨hitems 0 (Nat.zero_lt_succ _) (Nat.zero_lt_succ _), hlength,
          fun i hx hy => hitems (i + 1) (Nat.succ_lt_succ hx) (Nat.succ_lt_succ hy)⟩

/-- What equal entries have for a key: nothing, or values that are equal. -/
theorem get?_of_sameFieldsBy {d e : Dict Json} (h : sameFieldsBy r d e = true) (key : String) :
    d.get? key = none ∧ e.get? key = none ∨
      ∃ v w, d.get? key = some v ∧ e.get? key = some w ∧ v.sameBy r w = true := by
  induction d generalizing e with
  | nil =>
    cases e with
    | nil => exact .inl ⟨rfl, rfl⟩
    | cons q e => simp [sameFieldsBy] at h
  | cons p d ih =>
    cases e with
    | nil => simp [sameFieldsBy] at h
    | cons q e =>
      simp only [sameFieldsBy, Bool.and_eq_true, beq_iff_eq] at h
      obtain ⟨⟨hkey, hvalue⟩, hrest⟩ := h
      by_cases hp : p.1 = key
      · exact .inr ⟨p.2, q.2, by simp [Dict.get?, hp], by simp [Dict.get?, ← hkey, hp], hvalue⟩
      · simpa [Dict.get?, hp, ← hkey] using ih hrest

theorem sameFieldsBy_of_keys {d e : Dict Json} (hd : d.Ascending)
    (hkeys : d.map Prod.fst = e.map Prod.fst)
    (hvalues : ∀ key v w, d.get? key = some v → e.get? key = some w → v.sameBy r w = true) :
    sameFieldsBy r d e = true := by
  induction d generalizing e with
  | nil =>
    obtain rfl : e = [] := List.map_eq_nil_iff.mp hkeys.symm
    rfl
  | cons p d ih =>
    obtain ⟨q, e, rfl, hkey, hrest⟩ := List.map_eq_cons_iff.mp hkeys.symm
    obtain ⟨hfirst, hd⟩ := Dict.ascending_cons.mp hd
    simp only [sameFieldsBy, Bool.and_eq_true, beq_iff_eq]
    refine ⟨⟨hkey.symm, hvalues p.1 p.2 q.2 (by simp [Dict.get?]) (by simp [Dict.get?, hkey])⟩, ?_⟩
    refine ih hd hrest.symm fun key v w hv hw => ?_
    -- the first key is below all that follow
    have hne : p.1 ≠ key := by
      rintro rfl
      have hmem : p.1 ∈ d.map Prod.fst :=
        (Dict.contains_iff_mem d p.1).mp (by simp [Dict.contains, hv])
      exact String.lt_irrefl _ (hfirst _ hmem)
    exact hvalues key v w (by simp [Dict.get?, hne, hv]) (by simp [Dict.get?, hkey, hne, hw])

/-- Lists are equal item by item. -/
theorem sameBy_array_iff {xs ys : List Json} :
    (array xs).sameBy r (.array ys) = true ↔
      xs.length = ys.length ∧ ∀ i (hx : i < xs.length) (hy : i < ys.length),
        xs[i].sameBy r ys[i] = true := by
  rw [sameBy, sameItemsBy_iff]

/-- Objects are equal key by key. -/
theorem sameBy_object_iff {d e : Dict Json} (hd : d.Ascending) (he : e.Ascending) :
    (object d).sameBy r (.object e) = true ↔
      (∀ key, d.contains key = e.contains key) ∧
        ∀ key v w, d.get? key = some v → e.get? key = some w → v.sameBy r w = true := by
  rw [sameBy]
  constructor
  · intro h
    refine ⟨fun key => ?_, fun key v w hv hw => ?_⟩
    · rcases get?_of_sameFieldsBy h key with ⟨hv, hw⟩ | ⟨v, w, hv, hw, -⟩ <;>
        simp [Dict.contains, hv, hw]
    · rcases get?_of_sameFieldsBy h key with ⟨hv', -⟩ | ⟨v', w', hv', hw', hsame⟩
      · simp [hv'] at hv
      · obtain rfl : v' = v := by simpa [hv'] using hv
        obtain rfl : w' = w := by simpa [hw'] using hw
        exact hsame
  · rintro ⟨hkeys, hvalues⟩
    refine sameFieldsBy_of_keys hd (NameSet.names_eq_of_mem_iff hd he fun key => ?_) hvalues
    rw [← Dict.contains_iff_mem, ← Dict.contains_iff_mem, hkeys]

theorem sameItems_eq {xs ys : List Json} (h : ∀ x ∈ xs, ∀ y, x.same y = x.sameBy Number.same y) :
    sameItems xs ys = sameItemsBy Number.same xs ys := by
  induction xs generalizing ys with
  | nil => cases ys <;> rfl
  | cons x xs ih =>
    obtain ⟨hx, hxs⟩ := List.forall_mem_cons.mp h
    cases ys with
    | nil => rfl
    | cons y ys => rw [sameItems, sameItemsBy, hx, ih hxs]

theorem sameFields_eq {d e : Dict Json} (h : ∀ p ∈ d, ∀ w, p.2.same w = p.2.sameBy Number.same w) :
    sameFields d e = sameFieldsBy Number.same d e := by
  induction d generalizing e with
  | nil => cases e <;> rfl
  | cons p d ih =>
    obtain ⟨hp, hd⟩ := List.forall_mem_cons.mp h
    cases e with
    | nil => rfl
    | cons q e => rw [sameFields, sameFieldsBy, hp, ih hd]

/-- Structural equality compares numbers with their kinds. -/
theorem same_eq_sameBy (v w : Json) : v.same w = v.sameBy Number.same w := by
  induction v using Json.induction generalizing w with
  | null | bool | number | string => cases w <;> rfl
  | array xs ih =>
    cases w with
    | array ys => exact sameItems_eq ih
    | _ => rfl
  | object d ih =>
    cases w with
    | object e => exact sameFields_eq ih
    | _ => rfl

/-! ### Where the two equalities differ -/

/-- At one place of both values there are two numbers with one binary64 value. -/
inductive HasTwins : Json → Json → Prop where
  | number {m n : Number} (h : m.IsTwin n) : HasTwins (.number m) (.number n)
  | item {xs ys : List Json} {i : Nat} (hx : i < xs.length) (hy : i < ys.length)
      (h : HasTwins xs[i] ys[i]) :
      HasTwins (.array xs) (.array ys)
  | field {d e : Dict Json} {key : String} {v w : Json} (hv : d.get? key = some v)
      (hw : e.get? key = some w)
      (h : HasTwins v w) : HasTwins (.object d) (.object e)

theorem hasTwins_number_iff {m n : Number} : (number m).HasTwins (.number n) ↔ m.IsTwin n :=
  ⟨fun h => by cases h; assumption, .number⟩

theorem hasTwins_array_iff {xs ys : List Json} :
    (array xs).HasTwins (.array ys) ↔ ∃ i, ∃ (hx : i < xs.length) (hy : i < ys.length),
      xs[i].HasTwins ys[i] :=
  ⟨fun h => by cases h with | item hx hy h => exact ⟨_, hx, hy, h⟩, fun ⟨_, hx, hy, h⟩ =>
    .item hx hy h⟩

theorem hasTwins_object_iff {d e : Dict Json} :
    (object d).HasTwins (.object e) ↔ ∃ key v w, d.get? key = some v ∧ e.get? key = some w ∧
      v.HasTwins w :=
  ⟨fun h => by cases h with | field hv hw h => exact ⟨_, _, _, hv, hw, h⟩,
    fun ⟨_, _, _, hv, hw, h⟩ => .field hv hw h⟩

/-- Structural equality is the equality by value, but for two numbers with one binary64 value at one
place of both. -/
theorem same_iff_alike {v w : Json} (hv : v.Ordered) (hw : w.Ordered) :
    v.same w = true ↔ v.alike w = true ∧ ¬ v.HasTwins w := by
  rw [same_eq_sameBy, alike]
  induction v using Json.induction generalizing w with
  | null | bool | string =>
    cases w <;> simp [sameBy]
    nofun
  | number m =>
    cases w with
    | number n =>
      rw [hasTwins_number_iff]
      exact Number.same_iff_alike m n
    | _ => simp [sameBy]
  | array xs ih =>
    cases w with
    | array ys =>
      cases hv with | array hxs
      cases hw with | array hys
      have hitem (i) (hx : i < xs.length) (hy : i < ys.length) :=
        ih xs[i] (List.getElem_mem hx) (hxs _ (List.getElem_mem hx)) (hys _ (List.getElem_mem hy))
      rw [sameBy_array_iff, sameBy_array_iff, hasTwins_array_iff]
      constructor
      · rintro ⟨hlength, hsame⟩
        refine ⟨⟨hlength, fun i hx hy => ((hitem i hx hy).mp (hsame i hx hy)).1⟩, ?_⟩
        rintro ⟨i, hx, hy, htwins⟩
        exact ((hitem i hx hy).mp (hsame i hx hy)).2 htwins
      · rintro ⟨⟨hlength, halike⟩, htwins⟩
        exact ⟨hlength, fun i hx hy =>
          (hitem i hx hy).mpr ⟨halike i hx hy, fun h => htwins ⟨i, hx, hy, h⟩⟩⟩
    | _ => simp [sameBy]
  | object d ih =>
    cases w with
    | object e =>
      cases hv with | object hd hds
      cases hw with | object he hes
      have hvalue (key v w) (hv : Dict.get? d key = some v) (hw : Dict.get? e key = some w) :=
        ih (key, v) (Dict.mem_of_get?_eq_some hv) (hds _ (Dict.mem_of_get?_eq_some hv))
          (hes _ (Dict.mem_of_get?_eq_some hw))
      rw [sameBy_object_iff hd he, sameBy_object_iff hd he, hasTwins_object_iff]
      constructor
      · rintro ⟨hkeys, hsame⟩
        refine ⟨⟨hkeys, fun key v w hv hw => ((hvalue key v w hv hw).mp (hsame key v w hv hw)).1⟩,
          ?_⟩
        rintro ⟨key, v, w, hv, hw, htwins⟩
        exact ((hvalue key v w hv hw).mp (hsame key v w hv hw)).2 htwins
      · rintro ⟨⟨hkeys, halike⟩, htwins⟩
        exact ⟨hkeys, fun key v w hv hw =>
          (hvalue key v w hv hw).mpr ⟨halike key v w hv hw, fun h => htwins ⟨key, v, w, hv, hw, h⟩⟩⟩
    | _ => simp [sameBy]

end Json
end PageBuilder
