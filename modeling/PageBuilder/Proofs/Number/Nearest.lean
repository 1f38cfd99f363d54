import Mathlib.Algebra.Order.Field.Basic
import Mathlib.Algebra.Order.Field.Power
import Mathlib.Data.Nat.Digits.Lemmas
import Mathlib.Data.Rat.Cast.Order
import Mathlib.Tactic.FieldSimp
import Mathlib.Tactic.Linarith
import Mathlib.Tactic.LinearCombination
import Mathlib.Tactic.NormNum
import Mathlib.Tactic.Positivity
import PageBuilder.Number.Numeral

/-!
# The nearest number

A magnitude of the format is held by 53 bits and zeros behind them (`Held`). To every quantity
there is one held magnitude that is nearest, of two that are equally near the even one
(`IsNearest`, `IsNearest.unique`), and rounding finds it (`isNearest_roundUnits`). So a decimal
numeral is read as the number of the format that is nearest to what is written
(`Numeral.isRounded_decimal`).
-/

namespace PageBuilder

/-- A magnitude of the format, in units: 53 bits, and zeros behind them. -/
def Held (n : ℕ) : Prop := ∃ m s, m < 2 ^ 53 ∧ n = m * 2 ^ s

/-- The held magnitude that is nearest to `q`. Where two are equally near, it is the one that is an
even multiple of the gap between them. -/
structure IsNearest (q : ℚ) (n : ℕ) : Prop where
  held : Held n
  nearest : ∀ k, Held k → |q - n| ≤ |q - k|
  even : ∀ k, Held k → |q - k| = |q - n| → k ≠ n → 2 * ((n : ℤ) - k) ∣ n

/-- There is only one nearest magnitude. -/
theorem IsNearest.unique {q : ℚ} {n n' : ℕ} (h : IsNearest q n) (h' : IsNearest q n') : n = n' := by
  by_contra hne
  have hsame : |q - n'| = |q - n| := le_antisymm (h'.nearest n h.held) (h.nearest n' h'.held)
  obtain ⟨a, ha⟩ := h.even n' h'.held hsame (Ne.symm hne)
  obtain ⟨b, hb⟩ := h'.even n h.held hsame.symm hne
  -- both would be even multiples of the gap between them
  have hzero : ((n : ℤ) - n') * (2 * (a + b) - 1) = 0 := by linear_combination hb - ha
  rcases mul_eq_zero.mp hzero with hgap | hodd
  · omega
  · omega

/-- A magnitude that is held is nearest to itself. -/
theorem Held.isNearest {n : ℕ} (h : Held n) : IsNearest n n := by
  have hzero : |(n : ℚ) - n| = 0 := by rw [sub_self, abs_zero]
  refine ⟨h, fun k _ => hzero.trans_le (abs_nonneg _), fun k _ hsame hne => ?_⟩
  rw [hzero, abs_eq_zero, sub_eq_zero] at hsame
  exact absurd (Nat.cast_inj.mp hsame).symm hne

/-! ### Rounding to a whole number -/

/-- A whole number nearest to `t`, of two the even one. -/
structure IsRound (t : ℚ) (r : ℕ) : Prop where
  close : |t - r| ≤ 1 / 2
  even : |t - r| = 1 / 2 → 2 ∣ r

/-- Of a quantity that is no half, the nearest whole number is less than a half away. -/
theorem isRound_of_abs_lt {t : ℚ} {r : ℕ} (h : |t - r| < 1 / 2) : IsRound t r :=
  ⟨h.le, fun hhalf => absurd hhalf h.ne⟩

/-- A half goes to its even neighbour. -/
theorem isRound_half (whole : ℕ) : IsRound (whole + 1 / 2) (whole + whole % 2) := by
  have hclose : |(whole : ℚ) + 1 / 2 - (whole + whole % 2 : ℕ)| = 1 / 2 := by
    rw [Nat.cast_add, add_sub_add_left_eq_sub]
    rcases Nat.mod_two_eq_zero_or_one whole with heven | hodd
    · rw [heven]
      norm_num
    · rw [hodd]
      norm_num
  exact ⟨hclose.le, fun _ => by omega⟩

theorem isRound_roundEven (num : ℕ) {den : ℕ} (hden : 0 < den) :
    IsRound ((num : ℚ) / den) (roundEven num den) := by
  have hpos : (0 : ℚ) < den := by exact_mod_cast hden
  have hrest : num % den < den := Nat.mod_lt num hden
  have hsplit : (num : ℚ) / den = (num / den : ℕ) + (num % den : ℕ) / den := by
    have hnum : (num : ℚ) = den * (num / den : ℕ) + (num % den : ℕ) := by
      exact_mod_cast (Nat.div_add_mod num den).symm
    field_simp
    linarith
  unfold roundEven
  dsimp only
  rw [hsplit]
  generalize num / den = whole
  generalize num % den = rest at *
  split_ifs with hlow hhigh
  · -- below the half
    have hhalf : (rest : ℚ) / den < 1 / 2 := by
      rw [div_lt_iff₀ hpos]
      have hlow' : (2 : ℚ) * rest < den := by exact_mod_cast hlow
      linarith
    refine isRound_of_abs_lt ?_
    rwa [add_sub_cancel_left, abs_of_nonneg (by positivity)]
  · -- above the half
    have hhalf : 1 / 2 < (rest : ℚ) / den := by
      rw [lt_div_iff₀ hpos]
      have hhigh' : (den : ℚ) < 2 * rest := by exact_mod_cast hhigh
      linarith
    have hone : (rest : ℚ) / den < 1 := by
      rw [div_lt_one hpos]
      exact_mod_cast hrest
    refine isRound_of_abs_lt ?_
    rw [abs_sub_comm, Nat.cast_add, Nat.cast_one, add_sub_add_left_eq_sub,
      abs_of_nonneg (by linarith)]
    linarith
  · have hhalf : (rest : ℚ) / den = 1 / 2 := by
      rw [div_eq_iff hpos.ne']
      have hsame : (2 : ℚ) * rest = den := by exact_mod_cast le_antisymm (by omega) (by omega)
      linarith
    rw [hhalf]
    exact isRound_half whole

/-- Two whole numbers are at least one apart. -/
theorem one_le_abs_sub_add_abs_sub {r j : ℕ} (hj : j ≠ r) (t : ℚ) : 1 ≤ |t - r| + |t - j| := by
  have hgap : (1 : ℚ) ≤ |(r : ℚ) - j| := by
    have hint : (1 : ℤ) ≤ |(r : ℤ) - j| := Int.one_le_abs (by omega)
    exact_mod_cast hint
  calc (1 : ℚ) ≤ |(r : ℚ) - j| := hgap
    _ ≤ |(r : ℚ) - t| + |t - j| := abs_sub_le _ _ _
    _ = |t - r| + |t - j| := by rw [abs_sub_comm t r]

namespace IsRound

variable {t : ℚ} {r : ℕ} (h : IsRound t r)

include h

theorem le (j : ℕ) : |t - r| ≤ |t - j| := by
  by_cases hj : j = r
  · rw [hj]
  · have hsum := one_le_abs_sub_add_abs_sub hj t
    have hclose := h.close
    linarith

/-- Another whole number that is as near lies next to it, and then this one is even. -/
theorem tie {j : ℕ} (hj : j ≠ r) (hsame : |t - j| = |t - r|) : 2 * ((r : ℤ) - j) ∣ r := by
  have hsum := one_le_abs_sub_add_abs_sub hj t
  have hclose := h.close
  have heven : 2 ∣ r := h.even (by linarith)
  have hgap : |(r : ℚ) - j| ≤ 1 := by
    calc |(r : ℚ) - j| ≤ |(r : ℚ) - t| + |t - j| := abs_sub_le _ _ _
      _ ≤ 1 := by rw [abs_sub_comm (r : ℚ) t]; linarith
  have hint : |(r : ℤ) - j| ≤ 1 := by exact_mod_cast hgap
  obtain ⟨hlow, hhigh⟩ := abs_le.mp hint
  obtain hone | hone : (r : ℤ) - j = 1 ∨ (r : ℤ) - j = -1 := by omega
  · rw [hone]
    omega
  · rw [hone, mul_neg, neg_dvd]
    omega

end IsRound

/-! ### Rounding to 53 bits -/

theorem lt_two_pow_gridShift (n : ℕ) : n < 2 ^ (53 + gridShift n) := by
  have hle : n.log2 + 1 ≤ 53 + gridShift n := by
    unfold gridShift
    omega
  exact Nat.lt_log2_self.trans_le (Nat.pow_le_pow_right (by decide) hle)

theorem two_pow_gridShift_le {n : ℕ} (h : gridShift n ≠ 0) : 2 ^ (52 + gridShift n) ≤ n := by
  have hlog : n.log2 = 52 + gridShift n := by
    unfold gridShift at h ⊢
    omega
  have hn : n ≠ 0 := by
    rintro rfl
    exact h (by decide)
  rw [← hlog]
  exact Nat.log2_self_le hn

/-- A held magnitude lies on the grid of any magnitude, or is so low that its own grid is finer. -/
theorem Held.dvd_or_lt {k : ℕ} (h : Held k) (s : ℕ) : 2 ^ s ∣ k ∨ s ≠ 0 ∧ k < 2 ^ (52 + s) := by
  obtain ⟨m, s', hm, rfl⟩ := h
  rcases Nat.lt_or_ge s' s with hlt | hge
  · right
    refine ⟨by omega, ?_⟩
    calc m * 2 ^ s' < 2 ^ 53 * 2 ^ s' := Nat.mul_lt_mul_of_pos_right hm (by positivity)
      _ = 2 ^ (53 + s') := (pow_add 2 53 s').symm
      _ ≤ 2 ^ (52 + s) := Nat.pow_le_pow_right (by decide) (by omega)
  · exact .inl (Dvd.dvd.mul_left (pow_dvd_pow 2 hge) m)

theorem held_mul {r : ℕ} (hr : r ≤ 2 ^ 53) (s : ℕ) : Held (r * 2 ^ s) := by
  rcases hr.lt_or_eq with hlt | rfl
  · exact ⟨r, s, hlt, rfl⟩
  · exact ⟨1, 53 + s, by norm_num, by rw [pow_add, one_mul]⟩

/-- Rounding on a grid that has 53 bits at `q` gives the nearest of all held magnitudes. -/
theorem IsRound.isNearest {t q : ℚ} {r s : ℕ} (h : IsRound t r) (hq : q = t * 2 ^ s)
    (hr : r ≤ 2 ^ 53) (hlow : s ≠ 0 → 2 ^ (52 + s) ≤ q) : IsNearest q (r * 2 ^ s) := by
  have hpos : (0 : ℚ) < 2 ^ s := by positivity
  have hgrid : ∀ j : ℕ, |q - (j * 2 ^ s : ℕ)| = |t - j| * 2 ^ s := by
    intro j
    rw [hq, Nat.cast_mul, Nat.cast_pow, Nat.cast_ofNat, ← sub_mul, abs_mul, abs_of_pos hpos]
  have hon : ∀ j : ℕ, |q - (r * 2 ^ s : ℕ)| ≤ |q - (j * 2 ^ s : ℕ)| := by
    intro j
    rw [hgrid, hgrid]
    exact mul_le_mul_of_nonneg_right (h.le j) hpos.le
  -- below the grid there is nothing as near as its lowest point
  have hoff : ∀ k : ℕ, s ≠ 0 → k < 2 ^ (52 + s) → |q - (r * 2 ^ s : ℕ)| < |q - k| := by
    intro k hs hk
    have hle := hon (2 ^ 52)
    have hbase : ((2 ^ 52 * 2 ^ s : ℕ) : ℚ) = 2 ^ (52 + s) := by
      rw [← pow_add]
      push_cast
      rfl
    have hk' : (k : ℚ) < 2 ^ (52 + s) := by exact_mod_cast hk
    have hq' := hlow hs
    rw [hbase, abs_of_nonneg (sub_nonneg.mpr hq')] at hle
    rw [abs_of_pos (by linarith : (0 : ℚ) < q - k)]
    linarith
  refine ⟨held_mul hr s, fun k hk => ?_, fun k hk hsame hne => ?_⟩
  · rcases hk.dvd_or_lt s with ⟨j, rfl⟩ | ⟨hs, hlt⟩
    · rw [mul_comm (2 ^ s) j]
      exact hon j
    · exact (hoff k hs hlt).le
  · rcases hk.dvd_or_lt s with ⟨j, rfl⟩ | ⟨hs, hlt⟩
    · rw [mul_comm (2 ^ s) j] at hsame hne ⊢
      rw [hgrid, hgrid, mul_left_inj' hpos.ne'] at hsame
      have hj : j ≠ r := fun hjr => hne (by rw [hjr])
      have hgap : 2 * (((r * 2 ^ s : ℕ) : ℤ) - (j * 2 ^ s : ℕ)) = 2 * ((r : ℤ) - j) * 2 ^ s := by
        push_cast
        ring
      rw [hgap, Nat.cast_mul, Nat.cast_pow, Nat.cast_ofNat]
      exact mul_dvd_mul_right (h.tie hj hsame) _
    · exact absurd hsame (hoff k hs hlt).ne'

/-- Rounding finds the nearest magnitude. -/
theorem isNearest_roundUnits (num : ℕ) {den : ℕ} (hden : 0 < den) :
    IsNearest ((num : ℚ) / den) (roundUnits num den) := by
  have hpos : (0 : ℚ) < den := by exact_mod_cast hden
  generalize hs : gridShift (num / den) = s
  have hgrid : 0 < den * 2 ^ s := by positivity
  have hround := isRound_roundEven num hgrid
  have hq : (num : ℚ) / den = num / (den * 2 ^ s : ℕ) * 2 ^ s := by
    push_cast
    field_simp
  have hupper : (num : ℚ) / (den * 2 ^ s : ℕ) < 2 ^ 53 := by
    have hlt := lt_two_pow_gridShift (num / den)
    rw [hs, Nat.div_lt_iff_lt_mul hden, pow_add, mul_assoc, mul_comm (2 ^ s)] at hlt
    rw [div_lt_iff₀ (by exact_mod_cast hgrid)]
    exact_mod_cast hlt
  have hr : roundEven num (den * 2 ^ s) ≤ 2 ^ 53 := by
    have hclose := (abs_le.mp hround.close).1
    have hlt : (roundEven num (den * 2 ^ s) : ℚ) < (2 ^ 53 + 1 : ℕ) := by
      push_cast
      linarith
    exact Nat.lt_succ_iff.mp (by exact_mod_cast hlt)
  have hlow : s ≠ 0 → (2 : ℚ) ^ (52 + s) ≤ num / den := by
    intro hne
    have hle := two_pow_gridShift_le (hs ▸ hne)
    rw [hs, Nat.le_div_iff_mul_le hden] at hle
    rw [le_div_iff₀ hpos]
    exact_mod_cast hle
  have hunits : roundUnits num den = roundEven num (den * 2 ^ s) * 2 ^ s := by
    simp only [roundUnits, hs, Nat.pow_eq]
  rw [hunits]
  exact hround.isNearest hq hr hlow

/-- Every quantity has a nearest magnitude. -/
theorem exists_isNearest {q : ℚ} (hq : 0 ≤ q) : ∃ n, IsNearest q n := by
  have hnear := isNearest_roundUnits q.num.toNat q.den_pos
  have hnum : ((q.num.toNat : ℕ) : ℚ) = q.num := by
    exact_mod_cast Int.toNat_of_nonneg (Rat.num_nonneg.mpr hq)
  rw [hnum, Rat.num_div_den] at hnear
  exact ⟨_, hnear⟩

/-! ### Numbers of the format -/

namespace IsNearest

variable {q : ℚ} {n : ℕ} (h : IsNearest q n)

include h

theorem le_of_held {k : ℕ} (hk : Held k) (hle : (k : ℚ) ≤ q) : k ≤ n := by
  by_contra hlt
  have hlt' : (n : ℚ) < k := by exact_mod_cast Nat.lt_of_not_le hlt
  have hnear := h.nearest k hk
  rw [abs_of_nonneg (by linarith), abs_of_nonneg (by linarith)] at hnear
  linarith

theorem eq_zero (hq : 0 ≤ q) (hlt : q < 1 / 2) : n = 0 := by
  by_contra hn
  have hone : (1 : ℚ) ≤ n := by exact_mod_cast Nat.one_le_iff_ne_zero.mpr hn
  have hzero : Held 0 := ⟨0, 0, by norm_num, rfl⟩
  have hnear := h.nearest 0 hzero
  rw [abs_sub_comm, abs_of_nonneg (by linarith), Nat.cast_zero, sub_zero, abs_of_nonneg hq] at hnear
  linarith

end IsNearest

theorem cast_of_eq_two_pow {n k : ℕ} (h : n = 2 ^ k) : (n : ℚ) = 2 ^ k := by
  rw [h, Nat.cast_pow, Nat.cast_ofNat]

theorem cast_unitsPerOne : (unitsPerOne : ℚ) = 2 ^ 1074 := cast_of_eq_two_pow (by decide +kernel)

theorem cast_unitsLimit : (unitsLimit : ℚ) = 2 ^ 1024 * 2 ^ 1074 := by
  rw [← pow_add]
  exact cast_of_eq_two_pow (by decide +kernel)

theorem held_unitsLimit : Held unitsLimit := ⟨1, 2098, by norm_num, by decide +kernel⟩

namespace Binary64

/-- The number of the format for a sign and a quantity: the nearest magnitude, in units of 2^-1074,
if that is below 2^1024, and else an infinity. -/
inductive IsRounded (negative : Bool) (q : ℚ) : Binary64 → Prop where
  | finite {units : ℕ} (hnear : IsNearest (q * 2 ^ 1074) units)
    (hlt : (units : ℚ) < 2 ^ 1024 * 2 ^ 1074) : IsRounded negative q (.finite ⟨negative, units⟩)
  | infinite {units : ℕ} (hnear : IsNearest (q * 2 ^ 1074) units)
    (hle : 2 ^ 1024 * 2 ^ 1074 ≤ (units : ℚ)) : IsRounded negative q (.infinite negative)

section Rounded

variable {negative : Bool} {q : ℚ}

theorem IsRounded.unique {x y : Binary64} (hx : IsRounded negative q x)
    (hy : IsRounded negative q y) : x = y := by
  cases hx with
  | finite hnear hlt =>
    cases hy with
    | finite hnear' => rw [hnear.unique hnear']
    | infinite hnear' hle => exact absurd (hnear.unique hnear' ▸ hlt) (not_lt.mpr hle)
  | infinite hnear hle =>
    cases hy with
    | finite hnear' hlt => exact absurd (hnear.unique hnear' ▸ hle) (not_le.mpr hlt)
    | infinite => rfl

/-- A quantity that the format has is read as it is. -/
theorem IsRounded.exact {units : ℕ} (hheld : Held units) (hq : q * 2 ^ 1074 = units)
    (hlt : units < unitsLimit) : IsRounded negative q (.finite ⟨negative, units⟩) := by
  refine .finite (hq ▸ hheld.isNearest) ?_
  rw [← cast_unitsLimit]
  exact Nat.cast_lt.mpr hlt

/-- A quantity of less than half a unit is read as zero. -/
theorem IsRounded.zero (hq : 0 ≤ q) (hlt : q * 2 ^ 1074 < 1 / 2) :
    IsRounded negative q (.finite ⟨negative, 0⟩) := by
  have hpos : (0 : ℚ) < 2 ^ 1074 := by positivity
  obtain ⟨units, hnear⟩ := exists_isNearest (mul_nonneg hq hpos.le)
  obtain rfl := hnear.eq_zero (mul_nonneg hq hpos.le) hlt
  refine .finite hnear ?_
  rw [Nat.cast_zero]
  positivity

/-- A quantity from 2^1024 on is read as an infinity. -/
theorem IsRounded.beyond (hle : 2 ^ 1024 ≤ q) : IsRounded negative q (.infinite negative) := by
  have hpos : (0 : ℚ) < 2 ^ 1074 := by positivity
  have hq : 0 ≤ q := le_trans (by positivity) hle
  obtain ⟨units, hnear⟩ := exists_isNearest (mul_nonneg hq hpos.le)
  have hlimit : (unitsLimit : ℚ) ≤ q * 2 ^ 1074 := by
    rw [cast_unitsLimit]
    exact mul_le_mul_of_nonneg_right hle hpos.le
  refine .infinite hnear ?_
  rw [← cast_unitsLimit]
  exact Nat.cast_le.mpr (hnear.le_of_held held_unitsLimit hlimit)

theorem isRounded_ofUnits {units : ℕ} (hnear : IsNearest (q * 2 ^ 1074) units) :
    IsRounded negative q (ofUnits negative units) := by
  unfold ofUnits
  split
  next hlt =>
    refine .finite hnear ?_
    rw [← cast_unitsLimit]
    exact Nat.cast_lt.mpr hlt
  next hge =>
    refine .infinite hnear ?_
    rw [← cast_unitsLimit]
    exact Nat.cast_le.mpr (Nat.le_of_not_lt hge)

theorem isRounded_ofRatio (negative : Bool) (num : ℕ) {den : ℕ} (hden : 0 < den) :
    IsRounded negative (num / den) (ofRatio negative num den) := by
  have hnear := isNearest_roundUnits (num * unitsPerOne) hden
  rw [Nat.cast_mul, cast_unitsPerOne, mul_div_right_comm] at hnear
  exact isRounded_ofUnits hnear

end Rounded

/-! ### Decimal numbers -/

/-- The number of decimal digits gives the order of magnitude. -/
theorem pow_length_toDigits {n : ℕ} (hn : n ≠ 0) :
    10 ^ ((Nat.toDigits 10 n).length - 1) ≤ n ∧ n < 10 ^ (Nat.toDigits 10 n).length := by
  have hpos : 0 < (Nat.toDigits 10 n).length := Nat.length_toDigits_pos
  refine ⟨?_, (Nat.length_toDigits_le_iff (by decide) hpos).mp le_rfl⟩
  rcases Nat.eq_zero_or_pos ((Nat.toDigits 10 n).length - 1) with hone | hmore
  · rw [hone, pow_zero]
    omega
  · by_contra hlt
    have hle := (Nat.length_toDigits_le_iff (by decide) hmore).mpr (Nat.lt_of_not_le hlt)
    omega

/-- The number of digits before the point bounds a decimal number on both sides. -/
theorem decimal_bounds {digits : ℕ} (hdigits : digits ≠ 0) (exponent : ℤ) :
    (10 : ℚ) ^ (exponent + (Nat.toDigits 10 digits).length - 1) ≤ digits * 10 ^ exponent ∧
      (digits * 10 ^ exponent : ℚ) < 10 ^ (exponent + (Nat.toDigits 10 digits).length) := by
  obtain ⟨hlow, hhigh⟩ := pow_length_toDigits hdigits
  have hpos : 0 < (Nat.toDigits 10 digits).length := Nat.length_toDigits_pos
  generalize (Nat.toDigits 10 digits).length = places at *
  have hten : (0 : ℚ) < 10 ^ exponent := by positivity
  constructor
  · calc (10 : ℚ) ^ (exponent + places - 1) = 10 ^ (places - 1 : ℕ) * 10 ^ exponent := by
          rw [← zpow_natCast, ← zpow_add₀ (by norm_num), Nat.cast_sub hpos]
          congr 1
          push_cast
          ring
      _ ≤ digits * 10 ^ exponent := by
          refine mul_le_mul_of_nonneg_right ?_ hten.le
          exact_mod_cast hlow
  · calc (digits * 10 ^ exponent : ℚ) < 10 ^ places * 10 ^ exponent := by
          refine mul_lt_mul_of_pos_right ?_ hten
          exact_mod_cast hhigh
      _ = 10 ^ (exponent + places) := by
          rw [← zpow_natCast, ← zpow_add₀ (by norm_num), add_comm]

theorem two_pow_le_ten_pow {a b : ℕ} (h : 2 ^ a ≤ 10 ^ b) : (2 : ℚ) ^ a ≤ 10 ^ (b : ℤ) := by
  rw [zpow_natCast]
  exact_mod_cast h

/-- A decimal number is read as the number of the format that is nearest to it. -/
theorem isRounded_ofDecimal (negative : Bool) (digits : ℕ) (exponent : ℤ) :
    IsRounded negative (digits * 10 ^ exponent) (ofDecimal negative digits exponent) := by
  unfold ofDecimal
  dsimp only
  split_ifs with hzero hhigh hlow
  · refine .zero (by positivity) ?_
    rw [hzero, Nat.cast_zero, zero_mul, zero_mul]
    norm_num
  · obtain ⟨hlower, -⟩ := decimal_bounds hzero exponent
    refine .beyond ?_
    calc (2 : ℚ) ^ 1024 ≤ 10 ^ (310 : ℤ) := two_pow_le_ten_pow (by decide +kernel)
      _ ≤ 10 ^ (exponent + (Nat.toDigits 10 digits).length - 1) :=
        zpow_le_zpow_right₀ (by norm_num) (by omega)
      _ ≤ digits * 10 ^ exponent := hlower
  · obtain ⟨-, hupper⟩ := decimal_bounds hzero exponent
    have hpos : (0 : ℚ) < 2 ^ 1074 := by positivity
    have hunit : (2 : ℚ) ^ (1 + 1074) ≤ 10 ^ (330 : ℤ) := two_pow_le_ten_pow (by decide +kernel)
    have hlt : (digits * 10 ^ exponent : ℚ) < (10 ^ (330 : ℤ))⁻¹ := by
      rw [← zpow_neg]
      exact hupper.trans (zpow_lt_zpow_right₀ (by norm_num) hlow)
    refine .zero (by positivity) ?_
    calc (digits * 10 ^ exponent : ℚ) * 2 ^ 1074 < (10 ^ (330 : ℤ))⁻¹ * 2 ^ 1074 :=
          mul_lt_mul_of_pos_right hlt hpos
      _ ≤ (2 ^ (1 + 1074))⁻¹ * 2 ^ 1074 :=
          mul_le_mul_of_nonneg_right (inv_anti₀ (by positivity) hunit) hpos.le
      _ = 1 / 2 := by
          rw [pow_add, mul_inv, mul_assoc, inv_mul_cancel₀ hpos.ne', pow_one, mul_one, one_div]
  · cases exponent with
    | ofNat e =>
      have hrounded := isRounded_ofRatio negative (digits * 10 ^ e) Nat.one_pos
      simpa using hrounded
    | negSucc e =>
      have hpos : 0 < 10 ^ (e + 1) := by positivity
      have hrounded := isRounded_ofRatio negative digits hpos
      simpa [zpow_negSucc, div_eq_mul_inv] using hrounded

end Binary64

/-! ### Written numbers -/

namespace Numeral

/-- A run of digits spells the number that has these decimal digits. -/
theorem natOf_eq_ofDigits (ds : List Char) :
    natOf 0 ds = Nat.ofDigits 10 (ds.map digitValue).reverse := by
  induction ds using List.reverseRecOn with
  | nil => rfl
  | append_singleton ds d ih =>
    rw [List.map_append, List.map_singleton, List.reverse_concat, Nat.ofDigits_cons, ← ih]
    simp only [natOf, List.foldl_append, List.foldl_cons, List.foldl_nil]
    omega

/-- Digits, a point among them and an exponent are read as the nearest number. -/
theorem isRounded_decimal (negative : Bool) (whole fraction : List Char) (exponent : ℤ) :
    Binary64.IsRounded negative
      ((Nat.ofDigits 10 ((whole ++ fraction).map digitValue).reverse : ℕ) / 10 ^ fraction.length *
        10 ^ exponent)
      (decimal negative whole fraction exponent) := by
  have hdigits : natOf (natOf 0 whole) fraction =
      Nat.ofDigits 10 ((whole ++ fraction).map digitValue).reverse := by
    rw [← natOf_eq_ofDigits]
    exact List.foldl_append.symm
  unfold decimal
  rw [hdigits]
  generalize Nat.ofDigits 10 ((whole ++ fraction).map digitValue).reverse = n
  have hvalue : (n / 10 ^ fraction.length * 10 ^ exponent : ℚ) =
      n * 10 ^ (exponent - fraction.length) := by
    rw [zpow_sub₀ (by norm_num), zpow_natCast]
    ring
  rw [hvalue]
  exact Binary64.isRounded_ofDecimal negative n (exponent - fraction.length)

end Numeral

end PageBuilder
