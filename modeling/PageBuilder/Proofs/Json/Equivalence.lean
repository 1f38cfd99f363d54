import PageBuilder.Proofs.Json.Alike

/-!
# Equality of JSON values is an equivalence

An equality of values takes over from the way in which it compares numbers that it is reflexive,
symmetric and transitive (`sameBy_equivalence`). What two equal values look like is said once
(`Matches`). Each of the three laws is shown for the items of lists first, given that the items have
it; the entries of an object are a list of keys and a list of items (`sameFieldsBy_eq`).
-/

namespace PageBuilder

theorem Number.same_equivalence : Equivalence fun m n : Number => m.same n = true where
  refl m := by cases m <;> simp [same, Finite64.same]
  symm {m n} h := by cases m <;> cases n <;> simp_all [same, Finite64.same]
  trans {m n k} h h' := by cases m <;> cases n <;> cases k <;> simp_all [same, Finite64.same]

namespace Json

variable {r : Number → Number → Bool} {xs ys zs : List Json}

/-! ### Items and entries -/

theorem sameItemsBy_nil_iff : sameItemsBy r [] ys = true ↔ ys = [] := by
  cases ys <;> simp [sameItemsBy]

theorem sameItemsBy_cons_iff {x : Json} :
    sameItemsBy r (x :: xs) ys = true ↔ ∃ y ys', ys = y :: ys' ∧ x.sameBy r y = true ∧
      sameItemsBy r xs ys' = true := by
  cases ys with
  | nil => simp [sameItemsBy]
  | cons y ys =>
    rw [sameItemsBy, Bool.and_eq_true]
    constructor
    · rintro ⟨hhead, htail⟩
      exact ⟨y, ys, rfl, hhead, htail⟩
    · rintro ⟨y', ys', hcons, hhead, htail⟩
      obtain ⟨rfl, rfl⟩ := List.cons_eq_cons.mp hcons
      exact ⟨hhead, htail⟩

theorem sameItemsBy_refl (h : ∀ x ∈ xs, x.sameBy r x = true) : sameItemsBy r xs xs = true := by
  induction xs with
  | nil => rfl
  | cons x xs ih =>
    obtain ⟨hx, hxs⟩ := List.forall_mem_cons.mp h
    exact sameItemsBy_cons_iff.mpr ⟨x, xs, rfl, hx, ih hxs⟩

theorem sameItemsBy_symm (h : ∀ x ∈ xs, ∀ y, x.sameBy r y = true → y.sameBy r x = true)
    (hxy : sameItemsBy r xs ys = true) : sameItemsBy r ys xs = true := by
  induction xs generalizing ys with
  | nil =>
    obtain rfl := sameItemsBy_nil_iff.mp hxy
    rfl
  | cons x xs ih =>
    obtain ⟨hx, hxs⟩ := List.forall_mem_cons.mp h
    obtain ⟨y, ys, rfl, hhead, htail⟩ := sameItemsBy_cons_iff.mp hxy
    exact sameItemsBy_cons_iff.mpr ⟨x, xs, rfl, hx y hhead, ih hxs htail⟩

theorem sameItemsBy_trans
    (h : ∀ x ∈ xs, ∀ y z, x.sameBy r y = true → y.sameBy r z = true → x.sameBy r z = true)
    (hxy : sameItemsBy r xs ys = true) (hyz : sameItemsBy r ys zs = true) :
    sameItemsBy r xs zs = true := by
  induction xs generalizing ys zs with
  | nil =>
    obtain rfl := sameItemsBy_nil_iff.mp hxy
    exact hyz
  | cons x xs ih =>
    obtain ⟨hx, hxs⟩ := List.forall_mem_cons.mp h
    obtain ⟨y, ys, rfl, hhead, htail⟩ := sameItemsBy_cons_iff.mp hxy
    obtain ⟨z, zs, rfl, hhead', htail'⟩ := sameItemsBy_cons_iff.mp hyz
    exact sameItemsBy_cons_iff.mpr ⟨z, zs, rfl, hx y z hhead hhead', ih hxs htail htail'⟩

/-- Entries are equal if they have the same keys and equal values, one after the other. -/
theorem sameFieldsBy_eq (d e : Dict Json) :
    sameFieldsBy r d e =
      (d.map Prod.fst == e.map Prod.fst && sameItemsBy r (d.map Prod.snd) (e.map Prod.snd)) := by
  induction d generalizing e with
  | nil => cases e <;> rfl
  | cons p d ih =>
    cases e with
    | nil => rfl
    | cons q e =>
      obtain ⟨k, v⟩ := p
      obtain ⟨j, w⟩ := q
      rw [sameFieldsBy, ih]
      simp only [List.map_cons, List.cons_beq_cons, sameItemsBy]
      cases k == j <;> cases d.map Prod.fst == e.map Prod.fst <;> simp

/-! ### Values -/

/-- The ways in which two values are equal. -/
inductive Matches (r : Number → Number → Bool) : Json → Json → Prop where
  | null : Matches r .null .null
  | bool (b : Bool) : Matches r (.bool b) (.bool b)
  | number {m n : Number} (h : r m n = true) : Matches r (.number m) (.number n)
  | string (s : String) : Matches r (.string s) (.string s)
  | array {xs ys : List Json} (h : sameItemsBy r xs ys = true) : Matches r (.array xs) (.array ys)
  | object {d e : Dict Json} (hkeys : d.map Prod.fst = e.map Prod.fst)
    (hvalues : sameItemsBy r (d.map Prod.snd) (e.map Prod.snd) = true) :
      Matches r (.object d) (.object e)

theorem matches_of_sameBy {v w : Json} (h : v.sameBy r w = true) : v.Matches r w := by
  unfold sameBy at h
  split at h
  · exact .null
  next b c =>
    obtain rfl : b = c := beq_iff_eq.mp h
    exact .bool b
  next m n => exact .number h
  next s t =>
    obtain rfl : s = t := beq_iff_eq.mp h
    exact .string s
  next xs ys => exact .array h
  next d e =>
    rw [sameFieldsBy_eq, Bool.and_eq_true, beq_iff_eq] at h
    exact .object h.1 h.2
  · cases h

theorem sameBy_iff {v w : Json} : v.sameBy r w = true ↔ v.Matches r w := by
  refine ⟨matches_of_sameBy, fun h => ?_⟩
  cases h with
  | null => rfl
  | bool b => exact beq_self_eq_true b
  | number h => exact h
  | string s => exact beq_self_eq_true s
  | array h => exact h
  | object hkeys hvalues =>
    rw [sameBy, sameFieldsBy_eq, Bool.and_eq_true, beq_iff_eq]
    exact ⟨hkeys, hvalues⟩

/-- What the values of an object have. -/
theorem forall_mem_values {d : Dict Json} {p : Json → Prop} (h : ∀ e ∈ d, p e.2) :
    ∀ v ∈ d.map Prod.snd, p v := by
  rintro v hv
  obtain ⟨e, he, rfl⟩ := List.mem_map.mp hv
  exact h e he

theorem sameBy_refl (hr : ∀ n, r n n = true) (v : Json) : v.sameBy r v = true := by
  rw [sameBy_iff]
  induction v using Json.induction with
  | null => exact .null
  | bool b => exact .bool b
  | number n => exact .number (hr n)
  | string s => exact .string s
  | array xs ih => exact .array (sameItemsBy_refl fun x hx => sameBy_iff.mpr (ih x hx))
  | object d ih =>
    exact .object rfl (sameItemsBy_refl (forall_mem_values fun e he => sameBy_iff.mpr (ih e he)))

theorem sameBy_symm (hr : ∀ m n, r m n = true → r n m = true) {v w : Json}
    (h : v.sameBy r w = true) :
    w.sameBy r v = true := by
  induction v using Json.induction generalizing w with
  | null | bool | string =>
    cases sameBy_iff.mp h
    exact h
  | number m =>
    cases sameBy_iff.mp h with
    | number hmn => exact hr m _ hmn
  | array xs ih =>
    cases sameBy_iff.mp h with
    | array hitems => exact sameItemsBy_symm (fun x hx y => ih x hx) hitems
  | object d ih =>
    cases sameBy_iff.mp h with
    | object hkeys hvalues =>
      exact sameBy_iff.mpr
        (.object hkeys.symm (sameItemsBy_symm (forall_mem_values fun p hp w => ih p hp) hvalues))

theorem sameBy_trans (hr : ∀ m n k, r m n = true → r n k = true → r m k = true) {u v w : Json}
    (h : u.sameBy r v = true) (h' : v.sameBy r w = true) : u.sameBy r w = true := by
  induction u using Json.induction generalizing v w with
  | null | bool | string =>
    cases sameBy_iff.mp h
    exact h'
  | number m =>
    cases sameBy_iff.mp h with
    | number hmn =>
      cases sameBy_iff.mp h' with
      | number hnk => exact hr m _ _ hmn hnk
  | array xs ih =>
    cases sameBy_iff.mp h with
    | array hitems =>
      cases sameBy_iff.mp h' with
      | array hitems' => exact sameItemsBy_trans (fun x hx y z => ih x hx) hitems hitems'
  | object d ih =>
    cases sameBy_iff.mp h with
    | object hkeys hvalues =>
      cases sameBy_iff.mp h' with
      | object hkeys' hvalues' =>
        exact sameBy_iff.mpr (.object (hkeys.trans hkeys')
          (sameItemsBy_trans (forall_mem_values fun p hp y z => ih p hp) hvalues hvalues'))

/-- An equality of values is an equivalence if the comparison of numbers is one. -/
theorem sameBy_equivalence (hr : Equivalence fun m n => r m n = true) :
    Equivalence fun v w : Json => v.sameBy r w = true where
  refl := sameBy_refl hr.refl
  symm := sameBy_symm (r := r) fun _ _ => hr.symm
  trans := sameBy_trans (r := r) fun _ _ _ => hr.trans

theorem same_equivalence : Equivalence fun v w : Json => v.same w = true := by
  simp only [same_eq_sameBy]
  exact sameBy_equivalence Number.same_equivalence

end Json
end PageBuilder
