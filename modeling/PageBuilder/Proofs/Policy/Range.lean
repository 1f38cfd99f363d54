import Mathlib.Tactic.SplitIfs
import PageBuilder.Proofs.Policy.OfferedWords

/-!
# Numbers in bounds

A range refuses what lies below its minimum or above its maximum. This is less than to ask for a
number between the two (`InBounds`), as no number (`nan`) is refused by neither (`inRange_iff`). A
text spells it by the word `nan` and in no other way (`Numeral.read_eq_nan_iff`). So a key for
numbers takes this word, whatever its range, and all else that it takes is in bounds; and what a key
for lengths takes is always in bounds, as no length is spelled by a word (`Length.number_ne_nan`).
-/

namespace PageBuilder

/-! ### The order of numbers -/

namespace Binary64

/-- `x ≤ y`; `nan` is neither below nor above anything, and not equal to itself. -/
def le : Binary64 → Binary64 → Bool
  | finite x, finite y => x.value ≤ y.value
  | infinite a, infinite b => a || !b
  | infinite a, finite _ => a
  | finite _, infinite b => !b
  | _, _ => false

theorem finite_ne_nan (x : Finite64) : finite x ≠ nan := nofun

theorem le_iff {x y : Binary64} : x.le y = true ↔ x ≠ nan ∧ y ≠ nan ∧ y.lt x = false := by
  cases x with
  | finite x => cases y <;> simp [le, lt]
  | infinite a =>
    cases y with
    | infinite b => cases a <;> cases b <;> decide
    | finite | nan => simp [le, lt]
  | nan => simp [le]

end Binary64

/-! ### Spelling no number -/

namespace Numeral

/-- The word for no number, in small or large letters and with or without a sign. -/
def IsNan (cs : List Char) : Prop := String.ofList ((sign cs).2.map Char.toLower) = "nan"

theorem ofUnits_ne_nan (negative : Bool) (units : Nat) :
    Binary64.ofUnits negative units ≠ .nan := by
  unfold Binary64.ofUnits
  split <;> exact nofun

theorem ofDecimal_ne_nan (negative : Bool) (digits : Nat) (exponent : Int) :
    Binary64.ofDecimal negative digits exponent ≠ .nan := by
  unfold Binary64.ofDecimal
  dsimp only
  split_ifs
  · exact nofun
  · exact nofun
  · exact nofun
  · cases exponent <;> exact ofUnits_ne_nan _ _

theorem unsigned?_ne_nan (negative : Bool) (cs : List Char) :
    unsigned? negative cs ≠ some .nan := by
  unfold unsigned?
  dsimp only
  split_ifs
  · exact nofun
  · intro h
    obtain ⟨e, -, he⟩ := Option.map_eq_some_iff.mp h
    exact ofDecimal_ne_nan _ _ _ he

/-- Only the word for it spells no number. -/
theorem read_eq_nan_iff {cs : List Char} : read cs = some .nan ↔ IsNan cs := by
  unfold read IsNan
  dsimp only
  split_ifs with hinf hnan
  · refine ⟨nofun, fun hnan => ?_⟩
    rw [hnan] at hinf
    exact absurd hinf (by decide)
  · exact ⟨fun _ => hnan, fun _ => rfl⟩
  · exact ⟨fun h => absurd h (unsigned?_ne_nan _ _), fun h => absurd h hnan⟩

end Numeral

namespace Policy

namespace Length

theorem toNat_of_isNumberChar {c : Char} (h : isNumberChar c = true) :
    c.toNat = 46 ∨ 48 ≤ c.toNat ∧ c.toNat ≤ 57 := by
  simp only [isNumberChar, Char.isDigit, Bool.or_eq_true, Bool.and_eq_true,
    decide_eq_true_eq, beq_iff_eq, UInt32.le_iff_toNat_le, ge_iff_le] at h
  rcases h with h | rfl
  · exact .inr h
  · exact .inl rfl

theorem ne_sign_of_isNumberChar {c : Char} (h : isNumberChar c = true) : c ≠ '-' ∧ c ≠ '+' := by
  constructor
  all_goals
    rintro rfl
    revert h
    decide

/-- The number of a length has no letters. -/
theorem toLower_ne_of_isNumberChar {c : Char} (h : isNumberChar c = true) : c.toLower ≠ 'n' := by
  have hc := toNat_of_isNumberChar h
  intro hlower
  unfold Char.toLower at hlower
  split at hlower
  next hupper =>
    have hle : 65 ≤ c.toNat := hupper.1
    omega
  next =>
    subst hlower
    revert hc
    decide

theorem sign_mem (text : List Char) : sign text ∈ [[], ['+'], ['-']] := by
  unfold sign
  split <;> decide

section Digits

variable {head digits : List Char} (hhead : head ∈ [[], ['+'], ['-']])
    (h : ∀ c ∈ digits, isNumberChar c = true)

include hhead h

/-- What follows the sign of a length is its digits. -/
theorem sign_append : Numeral.sign (head ++ digits) = (decide (head = ['-']), digits) := by
  simp only [List.mem_cons, List.not_mem_nil, or_false] at hhead
  rcases hhead with rfl | rfl | rfl
  · cases digits with
    | nil => rfl
    | cons c cs =>
      obtain ⟨hminus, hplus⟩ := ne_sign_of_isNumberChar (h c List.mem_cons_self)
      simp [Numeral.sign, hminus, hplus]
  · rfl
  · rfl

/-- The number of a length is never one of the words that are numbers. -/
theorem read_append : Numeral.read (head ++ digits) = Numeral.unsigned? (head = ['-']) digits := by
  -- each of the words has the letter `n`, where only digits and points are read
  have hword : ∀ word : String, 'n' ∈ word.toList →
      String.ofList (digits.map Char.toLower) ≠ word := by
    rintro word hn rfl
    rw [String.toList_ofList] at hn
    obtain ⟨c, hc, hlower⟩ := List.mem_map.mp hn
    exact toLower_ne_of_isNumberChar (h c hc) hlower
  have hinf := hword "inf" (by decide)
  have hinfinity := hword "infinity" (by decide)
  have hnan := hword "nan" (by decide)
  unfold Numeral.read
  simp only [sign_append hhead h, hinf, hinfinity, hnan, or_self, if_false]

end Digits

/-- The number of a length is a number. -/
theorem number_ne_nan {cs : List Char} {l : Length} (h : read? cs = some l) : l.number ≠ .nan := by
  unfold read? at h
  obtain ⟨x, hread, hx⟩ := Option.bind_eq_some_iff.mp h
  split at hx
  next =>
    obtain rfl := Option.some.inj hx
    rintro rfl
    rw [read_append (sign_mem _) (List.all_eq_true.mp List.all_takeWhile)] at hread
    exact Numeral.unsigned?_ne_nan _ _ hread
  next => cases hx

end Length

namespace StyleSpec

/-! ### Values in bounds -/

/-- The number lies between the minimum and the maximum of a style key, as far as there are any.
`nan` lies below and above nothing, so it is in bounds only if there are none. -/
structure InBounds (m : StyleSpec) (x : Binary64) : Prop where
  at_least : ∀ low, m.min = some low → (Binary64.finite low).le x = true
  at_most : ∀ high, m.max = some high → x.le (.finite high) = true

/-- The value is a text that spells no number. -/
def SpellsNan : Json → Prop
  | .string s => Numeral.IsNan (Text.trim s.toList)
  | _ => False

/-- The number of the length that a value stands for. -/
def lengthOf? : Json → Option Binary64
  | .number n => some (.finite n.toFloat)
  | .string s => (Length.read? s.toList).map Length.number
  | _ => none

/-- The key takes the length: if the key has units, the length is in one of them or is zero without
a unit; and the number is in bounds. -/
structure Takes (m : StyleSpec) (l : Length) : Prop where
  unit_known : l.unit ≠ [] → m.units ≠ [] → String.ofList l.unit ∈ m.units
  unit_needed : m.units ≠ [] → l.unit ≠ [] ∨ l.number.isZero = true
  inBounds : m.InBounds l.number

variable {m : StyleSpec} {v : Json}

theorem inRange_iff {x : Binary64} : m.InRange x ↔ x = .nan ∨ m.InBounds x := by
  constructor
  · intro h
    by_cases hx : x = .nan
    · exact .inl hx
    · exact .inr ⟨fun low hlow => Binary64.le_iff.mpr ⟨nofun, hx, h.not_below low hlow⟩,
        fun high hhigh => Binary64.le_iff.mpr ⟨hx, nofun, h.not_above high hhigh⟩⟩
  · rintro (rfl | h)
    · exact ⟨fun _ _ => rfl, fun _ _ => rfl⟩
    · exact ⟨fun low hlow => (Binary64.le_iff.mp (h.at_least low hlow)).2.2,
        fun high hhigh => (Binary64.le_iff.mp (h.at_most high hhigh)).2.2⟩

theorem not_inBounds_nan (h : m.min.isSome ∨ m.max.isSome) : ¬ m.InBounds .nan := by
  intro hx
  rcases h with h | h
  · obtain ⟨low, hlow⟩ := Option.isSome_iff_exists.mp h
    exact (Binary64.le_iff.mp (hx.at_least low hlow)).2.1 rfl
  · obtain ⟨high, hhigh⟩ := Option.isSome_iff_exists.mp h
    exact (Binary64.le_iff.mp (hx.at_most high hhigh)).1 rfl

theorem numberOf?_eq_nan_iff : numberOf? v = some .nan ↔ SpellsNan v := by
  cases v with
  | string s =>
    rw [numberOf?]
    exact Numeral.read_eq_nan_iff
  | number n => exact ⟨fun h => Binary64.finite_ne_nan _ (Option.some.inj h), False.elim⟩
  | null | bool | array | object => exact ⟨nofun, False.elim⟩

theorem checkUnit_eq_ok_iff {s : String} {l : Length} :
    m.checkUnit s l = .ok () ↔
      (l.unit ≠ [] → m.units ≠ [] → String.ofList l.unit ∈ m.units) ∧
        (m.units ≠ [] → l.unit ≠ [] ∨ l.number.isZero = true) := by
  unfold checkUnit
  split_ifs with hunits hunit hzero hmem
  · simp [hunits]
  · simp [hunit, hzero]
  · simp [hunits, hunit, hzero]
  · simp [hunit, hmem]
  · simp [hunits, hunit, hmem]

/-- A text is taken as a length if it spells one that the key takes. -/
theorem checkLengthText_eq_ok_iff {s : String} :
    m.checkLengthText s = .ok () ↔ ∃ l, Length.read? s.toList = some l ∧ m.Takes l := by
  unfold checkLengthText
  split
  next hread => simp [hread]
  next l hread =>
    have hrange : m.checkRange l.number = .ok () ↔ m.InBounds l.number := by
      rw [checkRange_eq_ok_iff, inRange_iff]
      exact or_iff_right (Length.number_ne_nan hread)
    have hunit := checkUnit_eq_ok_iff (m := m) (s := s) (l := l)
    constructor
    · intro h
      cases hcheck : m.checkUnit s l with
      | error fault =>
        rw [hcheck] at h
        cases h
      | ok _ =>
        rw [hcheck] at h
        obtain ⟨hknown, hneeded⟩ := hunit.mp hcheck
        exact ⟨l, hread, hknown, hneeded, hrange.mp h⟩
    · rintro ⟨l', hread', htakes⟩
      obtain rfl := Option.some.inj (hread.symm.trans hread')
      rw [hunit.mpr ⟨htakes.unit_known, htakes.unit_needed⟩]
      exact hrange.mpr htakes.inBounds

/-- A key for lengths takes a text, but for the words that it offers, for the length that it
spells. -/
theorem validate_string_of_length (hkind : m.kind = .length) {s : String} (hs : s ∉ m.offered) :
    m.validate (.string s) = .ok () ↔ ∃ l, Length.read? s.toList = some l ∧ m.Takes l := by
  have hkeyword : ¬ m.isKeyword s = true := fun h => hs (isKeyword_iff.mp h)
  unfold validate
  simp [Json.isNull, hkind, hkeyword, checkLengthText_eq_ok_iff]

/-- A value that is taken as a length, and is none of the words on offer, stands for a length in
bounds. -/
theorem validate_inBounds_of_length (hkind : m.kind = .length) (hv : v ≠ .null)
    (hword : ∀ s ∈ m.offered, v ≠ .string s) (h : m.validate v = .ok ()) :
    ∃ x, lengthOf? v = some x ∧ m.InBounds x := by
  cases v with
  | null => exact absurd rfl hv
  | number n =>
    unfold validate at h
    rw [hkind] at h
    exact ⟨_, rfl,
      (inRange_iff.mp (checkRange_eq_ok_iff.mp h)).resolve_left (Binary64.finite_ne_nan _)⟩
  | string s =>
    obtain ⟨l, hread, hl⟩ := (validate_string_of_length hkind fun hs => hword s hs rfl).mp h
    exact ⟨l.number, by rw [lengthOf?, hread, Option.map_some], hl.inBounds⟩
  | bool | array | object =>
    unfold validate at h
    rw [hkind] at h
    cases h

/-- A key for numbers takes just the numbers in bounds and the texts that spell no number. -/
theorem validate_of_number_iff_spellsNan_or_inBounds (hkind : m.kind = .number) (hv : v ≠ .null) :
    m.validate v = .ok () ↔ SpellsNan v ∨ ∃ x, numberOf? v = some x ∧ m.InBounds x := by
  rw [validate_of_number hkind hv]
  constructor
  · rintro ⟨x, hx, hrange⟩
    rcases inRange_iff.mp hrange with rfl | hbounds
    · exact .inl (numberOf?_eq_nan_iff.mp hx)
    · exact .inr ⟨x, hx, hbounds⟩
  · rintro (hnan | ⟨x, hx, hbounds⟩)
    · exact ⟨.nan, numberOf?_eq_nan_iff.mpr hnan, inRange_iff.mpr (.inl rfl)⟩
    · exact ⟨x, hx, inRange_iff.mpr (.inr hbounds)⟩

end StyleSpec

/-- **What gets past a range**: a key for numbers with a minimum or a maximum takes a value exactly
if the number that the value stands for is in bounds, or it is a text that spells no number, and
this is out of all bounds. What a key for lengths takes, but for the words that it offers, stands
for a length in bounds. -/
theorem accepted_inBounds {m : StyleSpec} (hbound : m.min.isSome ∨ m.max.isSome) {v : Json}
    (hv : v ≠ .null) (key : String) :
    (m.kind = .number →
      (m.check key v = .ok () ↔ StyleSpec.SpellsNan v ∨ ∃ x, StyleSpec.numberOf? v = some x ∧
        m.InBounds x) ∧
        (StyleSpec.SpellsNan v → ¬ ∃ x, StyleSpec.numberOf? v = some x ∧ m.InBounds x)) ∧
      (m.kind = .length → (∀ word, word ∈ m.values ∨ word ∈ m.presets → v ≠ .string word) →
        m.check key v = .ok () →
        ∃ x, StyleSpec.lengthOf? v = some x ∧ m.InBounds x) := by
  rw [StyleSpec.check_eq_ok_iff]
  refine ⟨fun hkind => ⟨StyleSpec.validate_of_number_iff_spellsNan_or_inBounds hkind hv, ?_⟩,
    fun hkind hword => ?_⟩
  · rintro hnan ⟨x, hx, hbounds⟩
    rw [StyleSpec.numberOf?_eq_nan_iff.mpr hnan] at hx
    obtain rfl := Option.some.inj hx
    exact StyleSpec.not_inBounds_nan hbound hbounds
  · exact StyleSpec.validate_inBounds_of_length hkind hv fun word hoffered =>
      hword word (List.mem_append.mp hoffered)

/-- A share of a whole, as `opacity` is. -/
def share : StyleSpec :=
  { kind := .number, min := some (Builtin.whole 0), max := some (Builtin.whole 1) }

/-- What is taken as a share is between zero and one, as `5e-1` is and `2` is not; and no width is
negative. -/
theorem share_accepts_half :
    share.check "opacity" (.string "5e-1") = .ok () ∧ share.check "opacity" (.string "2") ≠ .ok () ∧
      (Builtin.length (some (Builtin.whole 0)) ["auto"]).check "width" (.string "-1px") ≠
        .ok () := by
  have hhalf : StyleSpec.numberOf? (.string "5e-1") = some (.finite ⟨false, Nat.pow 2 1073⟩) := by
    decide +kernel
  have htwo : StyleSpec.numberOf? (.string "2") = some (.finite (Builtin.whole 2)) := by
    decide +kernel
  have hwidth : StyleSpec.lengthOf? (.string "-1px") = some (.finite (Builtin.whole 1).neg) := by
    decide +kernel
  refine ⟨?_, fun h => ?_, fun h => ?_⟩
  · have haccept :=
      (accepted_inBounds (m := share) (.inl rfl) (v := .string "5e-1") nofun "opacity").1 rfl
    refine haccept.1.mpr (.inr ⟨_, hhalf, ?_, ?_⟩)
    · intro low hlow
      obtain rfl := Option.some.inj hlow
      decide +kernel
    · intro high hhigh
      obtain rfl := Option.some.inj hhigh
      decide +kernel
  · have haccept :=
      (accepted_inBounds (m := share) (.inl rfl) (v := .string "2") nofun "opacity").1 rfl
    rcases haccept.1.mp h with hnan | ⟨x, hx, hbounds⟩
    · exact absurd hnan (by unfold StyleSpec.SpellsNan Numeral.IsNan; decide +kernel)
    · obtain rfl := Option.some.inj (htwo.symm.trans hx)
      have hle := hbounds.at_most _ rfl
      exact absurd hle (by decide +kernel)
  · have hword : ∀ word, word ∈ ["auto"] ∨ word ∈ [] → Json.string "-1px" ≠ .string word := by
      rintro word (hword | hword)
      · obtain rfl := List.mem_singleton.mp hword
        simp
      · cases hword
    have hinBounds :=
      (accepted_inBounds (m := Builtin.length (some (Builtin.whole 0)) ["auto"]) (.inl rfl)
      (v := .string "-1px") nofun "width").2 rfl
    obtain ⟨x, hx, hbounds⟩ := hinBounds hword h
    obtain rfl := Option.some.inj (hwidth.symm.trans hx)
    have hle := hbounds.at_least _ rfl
    exact absurd hle (by decide +kernel)

/-- Not all that is accepted is in bounds, not even by the builtin keys: `nan` is taken for
`opacity`. -/
theorem opacity_accepts_nan :
    (¬ ∀ (m : StyleSpec) (key : String) (v : Json), m.min.isSome ∨ m.max.isSome →
      m.kind = .number → v ≠ .null →
      m.check key v = .ok () → ∃ x, StyleSpec.numberOf? v = some x ∧ m.InBounds x) ∧
    ¬ ∀ (key : String) (m : StyleSpec) (v : Json), Registry.builtin.spec? key = some m →
      m.kind = .number → v ≠ .null →
      m.check key v = .ok () → ∃ x, StyleSpec.numberOf? v = some x ∧ m.InBounds x := by
  have hspec : Registry.builtin.spec? "opacity" = some share := by decide +kernel
  have hread : StyleSpec.numberOf? (.string "nan") = some .nan := by decide +kernel
  have haccept : share.check "opacity" (.string "nan") = .ok () :=
    StyleSpec.check_eq_ok_iff.mpr ((StyleSpec.validate_string_of_number rfl "nan").mpr
      ⟨.nan, hread, StyleSpec.inRange_iff.mpr (.inl rfl)⟩)
  have hout : ¬ ∃ x, StyleSpec.numberOf? (.string "nan") = some x ∧ share.InBounds x := by
    rintro ⟨x, hx, hbounds⟩
    obtain rfl := Option.some.inj (hread.symm.trans hx)
    exact StyleSpec.not_inBounds_nan (.inl rfl) hbounds
  exact ⟨fun h => hout (h share _ _ (.inl rfl) rfl nofun haccept),
    fun h => hout (h _ share _ hspec rfl nofun haccept)⟩

end Policy
end PageBuilder
