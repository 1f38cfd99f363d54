import PageBuilder.Policy.Builtin

/-!
# The words that are offered

A style key offers words to the editor, its values and its presets. A key of any kind but one takes
every word that it offers; a key for numbers asks even of these that they spell a number in its
range (`offered_accepted_iff`). Of the builtin keys only `fontWeight` is for numbers and offers
words, and it takes none of them.
-/

namespace PageBuilder

namespace Policy
namespace StyleSpec

/-- The words that the editor offers for a style key. -/
def offered (m : StyleSpec) : List String := m.values ++ m.presets

/-- The number is in the range of a style key. Nothing is below or above `nan`, so that is in every
range. -/
structure InRange (m : StyleSpec) (x : Binary64) : Prop where
  not_below : ∀ low, m.min = some low → x.lt (.finite low) = false
  not_above : ∀ high, m.max = some high → (Binary64.finite high).lt x = false

/-- The text, but for blanks around it, spells a number in the range. -/
def SpellsNumber (m : StyleSpec) (s : String) : Prop :=
  ∃ x, Numeral.read (Text.trim s.toList) = some x ∧ m.InRange x

theorem isKeyword_iff {m : StyleSpec} {word : String} :
    m.isKeyword word = true ↔ word ∈ m.offered := by
  simp [isKeyword, offered]

/-! ### One style key -/

theorem checkRange_eq_ok_iff {m : StyleSpec} {x : Binary64} :
    m.checkRange x = .ok () ↔ m.InRange x := by
  unfold checkRange
  split
  next low hlow =>
    obtain ⟨hmin, hlt⟩ := Option.filter_eq_some_iff.mp hlow
    constructor
    · intro h
      cases h
    · intro h
      rw [h.not_below low hmin] at hlt
      cases hlt
  next hlow =>
    split
    next high hhigh =>
      obtain ⟨hmax, hlt⟩ := Option.filter_eq_some_iff.mp hhigh
      constructor
      · intro h
        cases h
      · intro h
        rw [h.not_above high hmax] at hlt
        cases hlt
    next hhigh =>
      rw [Option.filter_eq_none_iff] at hlow hhigh
      exact ⟨fun _ => ⟨by simpa using hlow, by simpa using hhigh⟩, fun _ => rfl⟩

/-- A key for numbers takes a value for the number that it stands for. -/
theorem validate_of_number {m : StyleSpec} (h : m.kind = .number) {v : Json} (hv : v ≠ .null) :
    m.validate v = .ok () ↔ ∃ x, numberOf? v = some x ∧ m.InRange x := by
  have hnull : v.isNull = false := by
    cases v with
    | null => exact absurd rfl hv
    | bool | number | string | array | object => rfl
  unfold validate
  simp only [hnull, h]
  cases hx : numberOf? v with
  | none => simp
  | some x => simp [checkRange_eq_ok_iff]

/-- A key for numbers takes a text for the number that it spells, whatever words it offers. -/
theorem validate_string_of_number {m : StyleSpec} (h : m.kind = .number) (s : String) :
    m.validate (.string s) = .ok () ↔ m.SpellsNumber s := validate_of_number h nofun

/-- A key of another kind takes every word that it offers. -/
theorem validate_string_of_offered {m : StyleSpec} (h : m.kind ≠ .number) {word : String}
    (hword : word ∈ m.offered) :
    m.validate (.string word) = .ok () := by
  have hkey := isKeyword_iff.mpr hword
  unfold validate
  cases hkind : m.kind with
  | number => exact absurd hkind h
  | any | string => rfl
  | enum | length | color => simp [Json.isNull, hkey]

theorem check_eq_ok_iff {m : StyleSpec} {key : String} {v : Json} :
    m.check key v = .ok () ↔ m.validate v = .ok () := by
  unfold check
  cases m.validate v with
  | error reason => exact iff_of_false nofun nofun
  | ok _ => exact iff_of_true rfl rfl

end StyleSpec

/-! ### The builtin keys -/

/-- Of the builtin keys that offer words, just one is for numbers, and its words spell none. -/
theorem Builtin.number_of_offered : ∀ e ∈ specs, ∀ word ∈ e.2.offered,
    (e.2.kind = .number ↔ e.1 = "fontWeight") ∧
      (e.2.kind = .number → Numeral.read (Text.trim word.toList) = none) := by
  decide +kernel

theorem Builtin.validate_offered_iff {key : String} {m : StyleSpec}
    (h : Registry.builtin.spec? key = some m) {word : String} (hword : word ∈ m.offered) :
    m.validate (.string word) = .ok () ↔ key ≠ "fontWeight" := by
  obtain ⟨hnumber, hnone⟩ := number_of_offered _ (Dict.mem_of_get?_eq_some h) word hword
  by_cases hkind : m.kind = .number
  · refine ⟨fun haccept => ?_, fun hkey => absurd (hnumber.mp hkind) hkey⟩
    obtain ⟨x, hx, -⟩ := (StyleSpec.validate_string_of_number hkind word).mp haccept
    rw [hnone hkind] at hx
    cases hx
  · exact ⟨fun _ hkey => hkind (hnumber.mpr hkey),
      fun _ => StyleSpec.validate_string_of_offered hkind hword⟩

/-- **Which offered words are accepted**: a word that a style key offers, as a value or as a preset,
is accepted exactly if the key is not for numbers, or the word spells a number in its range. So
every builtin key takes all the words that it offers but `fontWeight`, which takes none. -/
theorem offered_accepted_iff {m : StyleSpec} {word : String}
    (hword : word ∈ m.values ∨ word ∈ m.presets) (key : String) :
    (m.check key (.string word) = .ok () ↔ (m.kind = .number → m.SpellsNumber word)) ∧
      (Registry.builtin.spec? key = some m →
        (m.check key (.string word) = .ok () ↔ key ≠ "fontWeight")) := by
  rw [StyleSpec.check_eq_ok_iff]
  refine ⟨?_, fun hkey => Builtin.validate_offered_iff hkey (List.mem_append.mpr hword)⟩
  by_cases hkind : m.kind = .number
  · rw [StyleSpec.validate_string_of_number hkind]
    exact ⟨fun h _ => h, fun h => h hkind⟩
  · have haccept := StyleSpec.validate_string_of_offered hkind (List.mem_append.mpr hword)
    exact ⟨fun _ h => absurd h hkind, fun _ => haccept⟩

/-- A weight that is offered as a number. -/
def numericWeight : StyleSpec :=
  { kind := .number, max := some (Builtin.whole 900), presets := ["400", "bold"] }

theorem numericWeight_accepts_number :
    "400" ∈ numericWeight.presets ∧ numericWeight.check "fontWeight" (.string "400") = .ok () := by
  have hpreset : "400" ∈ numericWeight.presets := by decide
  have hread : Numeral.read (Text.trim "400".toList) = some (.finite (Builtin.whole 400)) := by
    decide +kernel
  have hrange : numericWeight.InRange (.finite (Builtin.whole 400)) := by
    refine ⟨nofun, fun high hhigh => ?_⟩
    obtain rfl := Option.some.inj hhigh
    decide +kernel
  exact ⟨hpreset, (offered_accepted_iff (.inr hpreset) _).1.mpr fun _ => ⟨_, hread, hrange⟩⟩

/-- Not every word that is offered is accepted, not even by the builtin keys: `fontWeight` refuses
`bold`. -/
theorem fontWeight_refuses_bold :
    (¬ ∀ (m : StyleSpec) (key word : String), word ∈ m.values ∨ word ∈ m.presets →
      m.check key (.string word) = .ok ()) ∧
    ¬ ∀ (key : String) (m : StyleSpec) (word : String), Registry.builtin.spec? key = some m →
      word ∈ m.values ∨ word ∈ m.presets → m.check key (.string word) = .ok () := by
  have hoffer : (Registry.builtin.spec? "fontWeight").any (fun m => m.presets.contains "bold") =
    true := by decide +kernel
  obtain ⟨m, hm, hbold⟩ := Option.any_eq_true _ _ |>.mp hoffer
  have hword : "bold" ∈ m.presets := List.contains_iff_mem.mp hbold
  have hrefused : m.check "fontWeight" (.string "bold") ≠ .ok () := by
    rw [ne_eq, StyleSpec.check_eq_ok_iff,
      Builtin.validate_offered_iff hm (List.mem_append_right _ hword)]
    exact fun h => h rfl
  exact ⟨fun h => hrefused (h m _ _ (.inr hword)), fun h => hrefused (h _ m _ hm (.inr hword))⟩

end Policy
end PageBuilder
