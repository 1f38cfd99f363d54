import PageBuilder.Proofs.Number.Nearest
import PageBuilder.Proofs.Policy.Range

/-!
# How lengths are written

A length is a sign or none, digits with a point or none among them, and a unit of letters and
percent signs (`Length.Written`). Its digits spell a decimal number, and the length that is meant
has the number of the format that is nearest to it (`Length.Written.Spells`). A text is read as a
length exactly if it is written so between its blanks, and it is read for what is meant
(`Length.read?_eq_some_iff`). So a key for lengths takes exactly the words that it offers and the
lengths with a unit that it knows and a number in its range (`lengths_as_written`).
-/

namespace PageBuilder
namespace Policy
namespace Length

/-- Digits, and a point with the digits behind it if there is one. -/
def withPoint (whole : List Char) (places? : Option (List Char)) : List Char :=
  whole ++ places?.elim [] ('.' :: ·)

/-- How a length is written: a sign or none, digits with a point or none, and a unit. -/
structure Written where
  sign : List Char
  whole : List Char
  /-- The digits behind the point, if there is a point. -/
  places? : Option (List Char)
  unit : List Char
  sign_mem : sign ∈ [[], ['+'], ['-']]
  isDigit_whole : ∀ c ∈ whole, c.isDigit = true
  isDigit_places : ∀ c ∈ places?.getD [], c.isDigit = true
  some_digit : whole ≠ [] ∨ places?.getD [] ≠ []
  alpha_or_percent : ∀ c ∈ unit, c.isAlpha = true ∨ c = '%'

namespace Written

variable (w : Written)

/-- The number without its sign. -/
def number : List Char := withPoint w.whole w.places?

/-- All characters of the length. -/
def chars : List Char := w.sign ++ (w.number ++ w.unit)

/-- The digits that are written, from the first on. -/
def digits : List ℕ := (w.whole ++ w.places?.getD []).map fun c => c.toNat - '0'.toNat

/-- The decimal number that is written, without its sign. -/
def magnitude : ℚ := (Nat.ofDigits 10 w.digits.reverse : ℕ) / 10 ^ (w.places?.getD []).length

/-- The length that is written: its number is the nearest to the decimal number. -/
structure Spells (l : Length) : Prop where
  number : Binary64.IsRounded (w.sign = ['-']) w.magnitude l.number
  unit : l.unit = w.unit

/-- The number that the digits are read for. -/
def value : Binary64 := Numeral.decimal (w.sign = ['-']) w.whole (w.places?.getD []) 0

theorem isRounded_value : Binary64.IsRounded (w.sign = ['-']) w.magnitude w.value := by
  have hrounded := Numeral.isRounded_decimal (w.sign = ['-']) w.whole (w.places?.getD []) 0
  rw [zpow_zero, mul_one] at hrounded
  exact hrounded

theorem spells_iff {l : Length} : w.Spells l ↔ l = ⟨w.value, w.unit⟩ := by
  constructor
  · rintro ⟨hnumber, hunit⟩
    rw [← hnumber.unique w.isRounded_value, ← hunit]
  · rintro rfl
    exact ⟨w.isRounded_value, rfl⟩

end Written

/-! ### The number of a length -/

section Digits

variable {whole : List Char} {places? : Option (List Char)} (hwhole : ∀ c ∈ whole, c.isDigit = true)
  (hplaces : ∀ c ∈ places?.getD [], c.isDigit = true)

include hwhole hplaces

theorem isNumberChar_of_mem_withPoint : ∀ c ∈ withPoint whole places?, isNumberChar c = true := by
  have hdigit : ∀ {c : Char}, c.isDigit = true → isNumberChar c = true := fun h => by
    simp [isNumberChar, h]
  intro c hc
  rcases List.mem_append.mp hc with hc | hc
  · exact hdigit (hwhole c hc)
  · cases places? with
    | none => cases hc
    | some places =>
      rcases List.mem_cons.mp hc with rfl | hc
      · decide
      · exact hdigit (hplaces c hc)

/-- Digits with a point or none are read, if there is a digit. -/
theorem unsigned?_withPoint (hsome : whole ≠ [] ∨ places?.getD [] ≠ []) (negative : Bool) :
    Numeral.unsigned? negative (withPoint whole places?) =
      some (Numeral.decimal negative whole (places?.getD []) 0) := by
  have hend : ∀ c ∈ ([] : List Char).head?, c.isDigit = false := nofun
  cases places? with
  | none =>
    have hdigits : Numeral.digits whole = (whole, []) := by
      simpa using Numeral.digits_append hwhole hend
    have hne : whole ≠ [] := by simpa using hsome
    simp [withPoint, Numeral.unsigned?, hdigits, Numeral.fraction, Numeral.exponent?, hne]
  | some places =>
    have hpoint : ∀ c ∈ ('.' :: places).head?, c.isDigit = false := by
      rintro c ⟨⟩
      decide
    have hdigits := Numeral.digits_append hwhole hpoint
    have hdigits' : Numeral.digits places = (places, []) := by
      simpa using Numeral.digits_append hplaces hend
    have hne : ¬ (whole = [] ∧ places = []) := by
      rintro ⟨rfl, rfl⟩
      simp at hsome
    simp [withPoint, Numeral.unsigned?, hdigits, Numeral.fraction, hdigits', Numeral.exponent?, hne]

end Digits

/-- Of digits and points a number is read only if there is a digit, and no second point. -/
theorem exists_withPoint {negative : Bool} {cs : List Char} (h : ∀ c ∈ cs, isNumberChar c = true)
    {x : Binary64} (hread : Numeral.unsigned? negative cs = some x) :
    ∃ whole places?, cs = withPoint whole places? ∧ (∀ c ∈ whole, c.isDigit = true) ∧
      (∀ c ∈ places?.getD [], c.isDigit = true) ∧
      (whole ≠ [] ∨ places?.getD [] ≠ []) := by
  have hdot : ∀ {c : Char}, isNumberChar c = true → c.isDigit = false → c = '.' := by
    intro c hc hdigit
    simpa [isNumberChar, hdigit] using hc
  obtain ⟨whole, rest, rfl, hwhole, hrest⟩ := Numeral.exists_digits cs
  have hdigits := Numeral.digits_append hwhole hrest
  obtain ⟨-, hchars⟩ := List.forall_mem_append.mp h
  cases rest with
  | nil =>
    have hnone : ∀ c ∈ (none : Option (List Char)).getD [], c.isDigit = true := fun c hc =>
      absurd hc List.not_mem_nil
    refine ⟨whole, none, rfl, hwhole, hnone, .inl ?_⟩
    rintro rfl
    cases hread
  | cons c tail =>
    obtain ⟨hc, htail⟩ := List.forall_mem_cons.mp hchars
    obtain rfl := hdot hc (hrest c rfl)
    obtain ⟨places, more, rfl, hplaces, hmore⟩ := Numeral.exists_digits tail
    have hdigits' := Numeral.digits_append hplaces hmore
    simp only [Numeral.unsigned?, hdigits, Numeral.fraction, hdigits'] at hread
    split_ifs at hread with hnone
    cases more with
    | nil =>
      refine ⟨whole, some places, by simp [withPoint], hwhole, hplaces, ?_⟩
      by_cases hwhole : whole = []
      · exact .inr fun hplaces => hnone ⟨hwhole, hplaces⟩
      · exact .inl hwhole
    | cons d more =>
      obtain ⟨-, hd⟩ := List.forall_mem_append.mp htail
      obtain rfl := hdot (hd d List.mem_cons_self) (hmore d rfl)
      simp [Numeral.exponent?] at hread

/-! ### Reading a length -/

theorem all_isUnitChar_iff {cs : List Char} :
    cs.all isUnitChar = true ↔ ∀ c ∈ cs, c.isAlpha = true ∨ c = '%' := by
  simp only [List.all_eq_true, isUnitChar, Bool.or_eq_true, beq_iff_eq]

theorem sign_append_drop (text : List Char) : sign text ++ text.drop (sign text).length = text := by
  unfold sign
  split <;> rfl

/-- A unit begins where the number ends. -/
theorem isNumberChar_of_isAlpha_or_percent {c : Char} (h : c.isAlpha = true ∨ c = '%') :
    isNumberChar c = false := by
  rw [Bool.eq_false_iff]
  intro hnumber
  have hc := toNat_of_isNumberChar hnumber
  have hunit : 65 ≤ c.toNat ∨ c.toNat = 37 := by
    unfold Char.isAlpha Char.isUpper Char.isLower at h
    simp only [Bool.or_eq_true, Bool.and_eq_true, decide_eq_true_eq, UInt32.le_iff_toNat_le,
      ge_iff_le] at h
    rcases h with (h | h) | rfl
    · exact .inl h.1
    · exact .inl (Nat.le_trans (by decide) h.1)
    · exact .inr rfl
  omega

namespace Written

variable (w : Written)

theorem isNumberChar_number : ∀ c ∈ w.number, isNumberChar c = true :=
  isNumberChar_of_mem_withPoint w.isDigit_whole w.isDigit_places

theorem number_ne_nil : w.number ≠ [] := by
  intro h
  obtain ⟨hwhole, hplaces⟩ := List.append_eq_nil_iff.mp h
  rcases w.some_digit with hne | hne
  · exact hne hwhole
  · cases hpoint : w.places? with
    | none => simp [hpoint] at hne
    | some places => simp [hpoint] at hplaces

theorem sign_chars : Length.sign w.chars = w.sign := by
  have hsign := w.sign_mem
  simp only [List.mem_cons, List.not_mem_nil, or_false] at hsign
  unfold chars
  rcases hsign with hsign | hsign | hsign
  · obtain ⟨c, rest, hnumber⟩ := List.exists_cons_of_ne_nil w.number_ne_nil
    obtain ⟨hminus, hplus⟩ :=
      ne_sign_of_isNumberChar (w.isNumberChar_number c (hnumber ▸ List.mem_cons_self))
    simp [hsign, hnumber, Length.sign, hminus, hplus]
  · simp [hsign, Length.sign]
  · simp [hsign, Length.sign]

theorem read_number : Numeral.read (w.sign ++ w.number) = some w.value := by
  rw [read_append w.sign_mem w.isNumberChar_number]
  exact unsigned?_withPoint w.isDigit_whole w.isDigit_places w.some_digit _

end Written

/-- What is read as a length is written as one. -/
theorem exists_written {cs : List Char} {l : Length} (h : read? cs = some l) :
    ∃ w : Written, Text.trim cs = w.chars ∧ l = ⟨w.value, w.unit⟩ := by
  obtain ⟨x, hread, hx⟩ := Option.bind_eq_some_iff.mp h
  have hnumber : ∀ c ∈ ((Text.trim cs).drop (sign (Text.trim cs)).length).takeWhile isNumberChar,
      isNumberChar c = true :=
    List.all_eq_true.mp List.all_takeWhile
  rw [read_append (sign_mem _) hnumber] at hread
  obtain ⟨whole, places?, hpoint, hwhole, hplaces, hsome⟩ := exists_withPoint hnumber hread
  rw [hpoint, unsigned?_withPoint hwhole hplaces hsome] at hread
  split at hx
  next hunit =>
    refine ⟨⟨sign (Text.trim cs), whole, places?, _, sign_mem _, hwhole, hplaces, hsome,
      all_isUnitChar_iff.mp hunit⟩, ?_, ?_⟩
    · show Text.trim cs = sign (Text.trim cs) ++ (withPoint whole places? ++ _)
      rw [← hpoint, List.takeWhile_append_dropWhile, sign_append_drop]
    · rw [← Option.some.inj hx, ← Option.some.inj hread]
      rfl
  next => cases hx

/-- What is written as a length is read. -/
theorem Written.read?_eq (w : Written) {cs : List Char} (h : Text.trim cs = w.chars) :
    read? cs = some ⟨w.value, w.unit⟩ := by
  have hend : ∀ c ∈ w.unit.head?, isNumberChar c = false :=
    fun c hc => isNumberChar_of_isAlpha_or_percent
      (w.alpha_or_percent c (List.mem_of_mem_head? hc))
  have hbody : w.chars.drop w.sign.length = w.number ++ w.unit := List.drop_left
  have hunit : w.unit.all isUnitChar = true := all_isUnitChar_iff.mpr w.alpha_or_percent
  unfold read?
  simp only [h, w.sign_chars, hbody, Text.takeWhile_run w.isNumberChar_number hend,
    Text.dropWhile_run w.isNumberChar_number hend, w.read_number, Option.bind_some, hunit, if_true]

/-- A text is read as a length exactly if one is written between its blanks, and it is read for what
is meant. -/
theorem read?_eq_some_iff {cs : List Char} {l : Length} :
    read? cs = some l ↔ ∃ w : Written, Text.trim cs = w.chars ∧ w.Spells l := by
  simp only [Written.spells_iff]
  constructor
  · exact exists_written
  · rintro ⟨w, htext, rfl⟩
    exact w.read?_eq htext

end Length

/-- **How lengths are written**: a text is read as a length exactly if, but for blanks around it, it
is a sign or none, digits with a point or none among them and at least one digit, and a unit of
letters and percent signs, and then the length has the number nearest to the decimal number that is
written and the unit that is written. So a key for lengths takes a text that is none of its words
exactly if it is written so, with a unit that the key knows or that is not needed, and a number in
its range. -/
theorem lengths_as_written (s : String) :
    (∀ l, Length.read? s.toList = some l ↔
      ∃ w : Length.Written, Text.trim s.toList = w.chars ∧ w.Spells l) ∧
    ∀ (m : StyleSpec) (key : String), m.kind = .length → s ∉ m.values → s ∉ m.presets →
      (m.check key (.string s) = .ok () ↔
        ∃ (w : Length.Written) (l : Length),
          Text.trim s.toList = w.chars ∧ w.Spells l ∧ m.Takes l) := by
  refine ⟨fun l => Length.read?_eq_some_iff, fun m key hkind hvalues hpresets => ?_⟩
  have hoffered : s ∉ m.offered := fun h => (List.mem_append.mp h).elim hvalues hpresets
  rw [StyleSpec.check_eq_ok_iff, StyleSpec.validate_string_of_length hkind hoffered]
  constructor
  · rintro ⟨l, hread, htakes⟩
    obtain ⟨w, htext, hspells⟩ := Length.read?_eq_some_iff.mp hread
    exact ⟨w, l, htext, hspells, htakes⟩
  · rintro ⟨w, l, htext, hspells, htakes⟩
    exact ⟨l, Length.read?_eq_some_iff.mpr ⟨w, htext, hspells⟩, htakes⟩

/-- The length `+12.5px`. -/
def positiveWidth : Length.Written where
  sign := ['+']
  whole := ['1', '2']
  places? := some ['5']
  unit := ['p', 'x']
  sign_mem := by decide
  isDigit_whole := List.all_eq_true.mp (by decide)
  isDigit_places := List.all_eq_true.mp (by decide)
  some_digit := by decide
  alpha_or_percent := by simp

theorem twelve_and_a_half (k : ℕ) : (12.5 : ℚ) * 2 ^ (k + 1) = (25 * 2 ^ k : ℕ) := by
  push_cast
  ring

/-- Its number is 12.5, and the format has that number. -/
theorem positiveWidth_spells :
    positiveWidth.Spells ⟨.finite ⟨false, 25 * 2 ^ 1073⟩, ['p', 'x']⟩ := by
  have hmagnitude : positiveWidth.magnitude = 12.5 := by
    have hdigits : Nat.ofDigits 10 positiveWidth.digits.reverse = 125 := by decide
    have hplaces : (positiveWidth.places?.getD []).length = 1 := rfl
    unfold Length.Written.magnitude
    rw [hdigits, hplaces]
    norm_num
  have hheld : Held (25 * 2 ^ 1073) := ⟨25, 1073, by norm_num, rfl⟩
  refine ⟨.exact hheld ?_ (by decide +kernel), rfl⟩
  rw [hmagnitude]
  exact twelve_and_a_half 1073

/-- With blanks around it the length is a width, and its number is 12.5. -/
theorem lengths_as_written_positive :
    ∃ x : Finite64, (x.value : ℚ) = 12.5 * 2 ^ 1074 ∧
      Length.read? " +12.5px ".toList = some ⟨.finite x, ['p', 'x']⟩ ∧
      (Builtin.length (some (Builtin.whole 0)) ["auto"]).check "width" (.string " +12.5px ") =
        .ok () := by
  have hwritten : Text.trim " +12.5px ".toList = positiveWidth.chars := by decide +kernel
  have hknown : "px" ∈ (Builtin.length (some (Builtin.whole 0)) ["auto"]).units := by decide
  have hword : " +12.5px " ∉ ["auto"] := by decide
  have htakes : (Builtin.length (some (Builtin.whole 0)) ["auto"]).Takes
      ⟨.finite ⟨false, 25 * 2 ^ 1073⟩, ['p', 'x']⟩ := by
    refine ⟨fun _ _ => hknown, fun _ => .inl nofun, ?_, nofun⟩
    intro low hlow
    obtain rfl := Option.some.inj hlow
    decide +kernel
  obtain ⟨hread, hcheck⟩ := lengths_as_written " +12.5px "
  have haccept := (hcheck _ "width" rfl hword List.not_mem_nil).mpr
    ⟨positiveWidth, _, hwritten, positiveWidth_spells, htakes⟩
  have hvalue : (Finite64.value ⟨false, 25 * 2 ^ 1073⟩ : ℚ) = 12.5 * 2 ^ 1074 :=
    (Int.cast_natCast _).trans (twelve_and_a_half 1073).symm
  exact ⟨_, hvalue, (hread _).mpr ⟨positiveWidth, hwritten, positiveWidth_spells⟩, haccept⟩

end Policy
end PageBuilder
