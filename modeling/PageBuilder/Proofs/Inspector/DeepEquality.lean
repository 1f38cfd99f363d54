import PageBuilder.Inspector.PropGate
import PageBuilder.Proofs.Json.Alike

/-!
# How deep the equality of formulas goes by value

Two numbers are equal in a formula if their binary64 values are, but lists and objects are compared
structurally, and there an integer and a decimal always differ. So formulas and expected properties
judge by value exactly those values that are numbers themselves or have no twin numbers at one place
(`equals_alike_at_top`).
-/

namespace PageBuilder

namespace Formula

/-- Apart from two numbers, values are compared structurally. -/
theorem equals_eq_same {v w : Json} (h : ∀ m n, v = .number m → w ≠ .number n) :
    equals (some v) (some w) = v.same w := by
  cases v with
  | number m =>
    cases w with
    | number n => exact absurd rfl (h m n rfl)
    | _ => rfl
  | _ => cases w <;> rfl

/-- Structural equality is the equality of formulas, but for twins. -/
theorem same_iff_equals (v w : Json) :
    v.same w = true ↔ equals (some v) (some w) = true ∧ ∀ m n, v = .number m → w = .number n →
      ¬ m.IsTwin n := by
  by_cases h : ∃ m n, v = .number m ∧ w = .number n
  · obtain ⟨m, n, rfl, rfl⟩ := h
    have hequals : equals (some (.number m)) (some (.number n)) = m.alike n := rfl
    have hsame : Json.same (.number m) (.number n) = m.same n := rfl
    rw [hequals, hsame, Number.same_iff_alike]
    simp
  · have hnot : ∀ m n, v = .number m → w ≠ .number n := fun m n hv hw => h ⟨m, n, hv, hw⟩
    rw [equals_eq_same hnot]
    exact (and_iff_left fun m n hv hw => absurd hw (hnot m n hv)).symm

/-- Equality is the equality by value, but for twins below the top. -/
theorem equals_iff_alike {v w : Json} (hv : v.Ordered) (hw : w.Ordered) :
    equals (some v) (some w) = true ↔ v.alike w = true ∧
      ((∃ m, v = .number m) ∨ ¬ v.HasTwins w) := by
  by_cases h : ∃ m n, v = .number m ∧ w = .number n
  · obtain ⟨m, n, rfl, rfl⟩ := h
    have hequals : equals (some (.number m)) (some (.number n)) =
      (Json.number m).alike (.number n) := rfl
    simp [hequals]
  · have hnot : ∀ m n, v = .number m → w ≠ .number n := fun m n hv hw => h ⟨m, n, hv, hw⟩
    rw [equals_eq_same hnot, Json.same_iff_alike hv hw]
    refine and_congr_right fun halike => (or_iff_right ?_).symm
    -- only a number is like a number
    rintro ⟨m, rfl⟩
    cases w with
    | number n => exact hnot m n rfl rfl
    | _ => simp [Json.alike, Json.sameBy] at halike

end Formula

namespace Inspector

open Formula

/-- Expected properties are found if each of them is there with an equal value. -/
theorem propsMatch_iff (expected props : Dict Json) :
    propsMatch expected props = true ↔ ∀ e ∈ expected, ∃ v, props.get? e.1 = some v ∧
      equals (some v) (some e.2) = true := by
  rw [propsMatch, List.all_eq_true]
  refine forall₂_congr fun e _ => ?_
  cases props.get? e.1 with
  | none => simp [equals]
  | some v => simp

/-- **Numbers are equal by value at the top only**: two values are equal if they are one by value at
every depth and have no twins at one place below the top. So two lists are equal if they have the
same length and their items are equal and no twins, and two objects if they have the same keys and
their values are equal and no twins. The same holds of the properties that a schema expects. -/
theorem equals_alike_at_top (v w : Json) :
    (v.Ordered → w.Ordered → (equals (some v) (some w) = true ↔
      v.alike w = true ∧ ((∃ m, v = .number m) ∨ ¬ v.HasTwins w))) ∧
    (∀ xs ys, v = .array xs → w = .array ys → (equals (some v) (some w) = true ↔
      xs.length = ys.length ∧ ∀ i (hx : i < xs.length) (hy : i < ys.length),
        equals (some xs[i]) (some ys[i]) = true ∧ ∀ m n, xs[i] = .number m → ys[i] = .number n →
          ¬ m.IsTwin n)) ∧
    (∀ d e, v = .object d → w = .object e → Dict.Ascending d → Dict.Ascending e →
      (equals (some v) (some w) = true ↔
      (∀ key, Dict.contains d key = Dict.contains e key) ∧
        ∀ key x y, Dict.get? d key = some x → Dict.get? e key = some y →
          equals (some x) (some y) = true ∧ ∀ m n, x = .number m → y = .number n → ¬ m.IsTwin n)) ∧
    ∀ expected props : Dict Json, (∀ e ∈ expected, e.2.Ordered) → (∀ e ∈ props, e.2.Ordered) →
      (propsMatch expected props = true ↔ ∀ e ∈ expected, ∃ x, props.get? e.1 = some x ∧
        x.alike e.2 = true ∧ ((∃ m, x = .number m) ∨ ¬ x.HasTwins e.2)) := by
  refine ⟨fun hv hw => equals_iff_alike hv hw, ?_, ?_, fun expected props he hp => ?_⟩
  · rintro xs ys rfl rfl
    have hstructural : equals (some (.array xs)) (some (.array ys)) =
      Json.same (.array xs) (.array ys) := rfl
    rw [hstructural, Json.same_eq_sameBy, Json.sameBy_array_iff]
    simp only [← Json.same_eq_sameBy, same_iff_equals]
  · rintro d e rfl rfl hd he
    have hstructural : equals (some (.object d)) (some (.object e)) =
      Json.same (.object d) (.object e) := rfl
    rw [hstructural, Json.same_eq_sameBy, Json.sameBy_object_iff hd he]
    simp only [← Json.same_eq_sameBy, same_iff_equals]
  · rw [propsMatch_iff]
    refine forall₂_congr fun e hmem => exists_congr fun x => and_congr_right fun hget => ?_
    exact equals_iff_alike (hp _ (Dict.mem_of_get?_eq_some hget)) (he e hmem)

/-- The number one as an integer. -/
def wholeOne : Json := .number (.int 1)

/-- The number one as a decimal. -/
def decimalOne : Json := .number (.float (Finite64.ofInt 1))

theorem isTwin_one : Number.IsTwin (.int 1) (.float (Finite64.ofInt 1)) :=
  ⟨by simp [Number.alike, Number.toFloat, Finite64.same], rfl⟩

theorem equals_one : equals (some wholeOne) (some decimalOne) = true := isTwin_one.1

/-- One as an integer is one as a decimal, also where a schema expects it, but not below a key. -/
theorem equals_alike_at_top_one :
    wholeOne.Ordered ∧ decimalOne.Ordered ∧
      propsMatch [("size", wholeOne)] [("size", decimalOne)] = true ∧
      Dict.Ascending [("size", wholeOne)] ∧ Dict.Ascending [("size", decimalOne)] ∧
      equals (some (.object [("size", wholeOne)])) (some (.object [("size", decimalOne)])) = false ∧
      (Json.array [wholeOne]).Ordered ∧ (Json.array [decimalOne]).Ordered ∧
      (Json.array [wholeOne]).alike (.array [decimalOne]) = true ∧
      equals (some (.array [wholeOne])) (some (.array [decimalOne])) = false := by
  obtain ⟨-, -, hobjects, hprops⟩ :=
    equals_alike_at_top (.object [("size", wholeOne)]) (.object [("size", decimalOne)])
  obtain ⟨hvalues, -⟩ := equals_alike_at_top (.array [wholeOne]) (.array [decimalOne])
  have hwhole : wholeOne.Ordered := .number _
  have hdecimal : decimalOne.Ordered := .number _
  have halike : wholeOne.alike decimalOne = true := isTwin_one.1
  have hexpected : propsMatch [("size", wholeOne)] [("size", decimalOne)] = true := by
    refine (hprops _ _ (by simp [hwhole]) (by simp [hdecimal])).mpr fun e he => ?_
    obtain rfl := List.mem_singleton.mp he
    exact ⟨decimalOne, rfl, isTwin_one.1, .inl ⟨_, rfl⟩⟩
  have hkeys (v : Json) : Dict.Ascending [("size", v)] := List.pairwise_singleton _ _
  have hlist (v : Json) (hv : v.Ordered) : (Json.array [v]).Ordered := .array (by simp [hv])
  refine ⟨hwhole, hdecimal, hexpected, hkeys _, hkeys _, Bool.eq_false_iff.mpr fun hobject => ?_,
    hlist _ hwhole, hlist _ hdecimal, ?_, Bool.eq_false_iff.mpr fun harray => ?_⟩
  · exact (((hobjects _ _ rfl rfl (hkeys _) (hkeys _)).mp hobject).2 "size" _ _ rfl rfl).2 _ _ rfl
      rfl isTwin_one
  · simpa [Json.alike, Json.sameBy, Json.sameItemsBy] using halike
  · obtain ⟨-, ⟨m, hm⟩ | htwins⟩ := (hvalues (hlist _ hwhole) (hlist _ hdecimal)).mp harray
    · cases hm
    · exact htwins (.item (i := 0) (by simp) (by simp) (.number isTwin_one))

/-- A list with an integer differs from the list with the same number as a decimal, though they have
the same length and their items are equal. -/
theorem equals_not_by_value_in_lists :
    ¬ ∀ xs ys : List Json, equals (some (.array xs)) (some (.array ys)) = true ↔
      xs.length = ys.length ∧ ∀ i (hx : i < xs.length) (hy : i < ys.length),
        equals (some xs[i]) (some ys[i]) = true := by
  intro h
  have hdiffer : equals (some (.array [wholeOne])) (some (.array [decimalOne])) = false := rfl
  have hequal := (h [wholeOne] [decimalOne]).mpr ⟨rfl, fun i hx hy => ?_⟩
  · rw [hdiffer] at hequal
    exact Bool.false_ne_true hequal
  · obtain rfl : i = 0 := Nat.lt_one_iff.mp hx
    exact equals_one

end Inspector
end PageBuilder
