import PageBuilder.Proofs.Design.Upsert

/-!
# The winner of a cascade

Laid over each other, rules give a key the value of the last one that declares it (`get?_cascade`).
A sheet cascades the rules without a screen first and those for the screen second, so a rule for the
screen wins over every rule without one, wherever they stand, and rules of one kind win by their
place (`resolve_winner`).
-/

namespace PageBuilder

namespace StyleRule

/-- The value that the rule declares for a key. Only an object declares anything; of two entries
with one key the later one counts. -/
def value? (r : StyleRule) (key : String) : Option Json :=
  match r.declaration with
  | .object entries => (Dict.ofList entries).get? key
  | _ => none

theorem get?_declared (r : StyleRule) (key : String) :
    (Dict.ofList r.declared).get? key = r.value? key := by
  unfold declared Declaration.ofJson? value?
  cases r.declaration <;> rfl

/-- The rule is for the node, and its conditions on theme and state are not there or ask for
these. -/
structure Concerns (r : StyleRule) (n : Node) (theme state : Option String) : Prop where
  selects : r.selector.selects n = true
  theme : r.conditions.theme = none ∨ r.conditions.theme = theme
  state : r.conditions.state = none ∨ r.conditions.state = state

theorem holds_iff {condition requested : Option String} :
    holds condition requested = true ↔ condition = none ∨ condition = requested := by
  simp [holds]

theorem appliesTo_iff {r : StyleRule} {n : Node} {theme state : Option String} :
    r.appliesTo n theme state = true ↔ r.Concerns n theme state := by
  simp only [appliesTo, Bool.and_eq_true, holds_iff]
  constructor
  · rintro ⟨⟨hselects, htheme⟩, hstate⟩
    exact ⟨hselects, htheme, hstate⟩
  · intro h
    exact ⟨⟨h.selects, h.theme⟩, h.state⟩

end StyleRule

namespace StyleSheet

/-- Of the rules with a property, the last one that declares the key declares this value for it. -/
def LastDeclares (rules : List StyleRule) (p : StyleRule → Prop) (key : String) (v : Json) : Prop :=
  ∃ before r after, rules = before ++ r :: after ∧ p r ∧ r.value? key = some v ∧ ∀ x ∈ after, p x →
    x.value? key = none

/-- The value of the last rule that declares the key. -/
def lastValue? (rules : List StyleRule) (key : String) : Option Json :=
  rules.reverse.findSome? fun r => r.value? key

theorem lastValue?_append (rules rules' : List StyleRule) (key : String) :
    lastValue? (rules ++ rules') key = (lastValue? rules' key).or (lastValue? rules key) := by
  rw [lastValue?, List.reverse_append, List.findSome?_append, lastValue?, lastValue?]

theorem lastValue?_cons (r : StyleRule) (rules : List StyleRule) (key : String) :
    lastValue? (r :: rules) key = (lastValue? rules key).or (r.value? key) := by
  rw [← List.singleton_append, lastValue?_append]
  simp [lastValue?]

theorem lastValue?_eq_none_iff {rules : List StyleRule} {key : String} :
    lastValue? rules key = none ↔ ∀ r ∈ rules, r.value? key = none := by
  simp [lastValue?]

theorem lastValue?_filter_eq_none_iff {rules : List StyleRule} {p : StyleRule → Bool}
    {key : String} :
    lastValue? (rules.filter p) key = none ↔ ∀ r ∈ rules, p r = true → r.value? key = none := by
  simp [lastValue?_eq_none_iff]

theorem lastValue?_filter_eq_some_iff {rules : List StyleRule} {p : StyleRule → Bool} {key : String}
    {v : Json} :
    lastValue? (rules.filter p) key = some v ↔ LastDeclares rules (fun r => p r = true) key v := by
  constructor
  · intro h
    obtain ⟨later, r, earlier, hsplit, hr, hlater⟩ := List.findSome?_eq_some_iff.mp h
    -- the search starts at the end of the sheet
    have hkept : rules.filter p = earlier.reverse ++ r :: later.reverse := by
      rw [List.reverse_eq_append_iff] at hsplit
      simpa using hsplit
    obtain ⟨before, rest, rfl, -, hrest⟩ := List.filter_eq_append_iff.mp hkept
    obtain ⟨skipped, after, rfl, -, hp, hafter⟩ := List.filter_eq_cons_iff.mp hrest
    refine ⟨before ++ skipped, r, after, by simp, hp, hr, fun x hx hpx => hlater x ?_⟩
    have hmem : x ∈ after.filter p := List.mem_filter.mpr ⟨hx, hpx⟩
    simpa [hafter] using hmem
  · rintro ⟨before, r, after, rfl, hp, hr, hafter⟩
    have hnone : lastValue? (after.filter p) key = none := lastValue?_filter_eq_none_iff.mpr hafter
    rw [List.filter_append, List.filter_cons_of_pos hp, lastValue?_append,
      lastValue?_cons, hnone, hr]
    rfl

/-- Rules that are laid over a declaration give a key the value of the last one that declares it, or
else leave it. -/
theorem get?_cascade (base : Declaration) (rules : List StyleRule) (key : String) :
    (cascade base rules).get? key = (lastValue? rules key).or (base.get? key) := by
  induction rules generalizing base with
  | nil => rfl
  | cons r rules ih =>
    calc (cascade base (r :: rules)).get? key
        = (lastValue? rules key).or ((base.overlay r.declared).get? key) := ih _
      _ = (lastValue? rules key).or ((r.value? key).or (base.get? key)) := by
          rw [Dict.get?_overlay, StyleRule.get?_declared]
      _ = (lastValue? (r :: rules) key).or (base.get? key) := by
          rw [← Option.or_assoc, lastValue?_cons]

theorem ascending_cascade {base : Declaration} (h : base.Ascending) (rules : List StyleRule) :
    (cascade base rules).Ascending := by
  induction rules generalizing base with
  | nil => exact h
  | cons r rules ih => exact ih (Dict.ascending_overlay h r.declared)

section Resolve

variable (s : StyleSheet) (n : Node) (q : SheetQuery)

/-- The rules of one kind: those for the node, the theme and the state that have the condition on
the screen. -/
theorem applicable_filter_screen (theme state screen : Option String) :
    ((s.applicable n theme state).filter fun r => r.conditions.screen == screen) =
      s.rules.filter fun r => r.conditions.screen == screen && r.appliesTo n theme state := by
  rw [applicable, List.filter_filter]

theorem screen_and_appliesTo_iff {r : StyleRule} {n : Node} {theme state screen : Option String} :
    (r.conditions.screen == screen && r.appliesTo n theme state) = true ↔
      r.Concerns n theme state ∧ r.conditions.screen = screen := by
  rw [Bool.and_eq_true, beq_iff_eq, StyleRule.appliesTo_iff, and_comm]

theorem lastValue?_screen_eq_some_iff {theme state screen : Option String} {key : String}
    {v : Json} :
    lastValue? ((s.applicable n theme state).filter fun r => r.conditions.screen == screen) key =
      some v ↔
      LastDeclares s.rules
        (fun r => r.Concerns n theme state ∧ r.conditions.screen = screen) key v := by
  rw [applicable_filter_screen, lastValue?_filter_eq_some_iff]
  simp only [screen_and_appliesTo_iff]

theorem lastValue?_screen_eq_none_iff {theme state screen : Option String} {key : String} :
    lastValue? ((s.applicable n theme state).filter fun r => r.conditions.screen == screen) key =
      none ↔
      ∀ r ∈ s.rules, r.Concerns n theme state ∧ r.conditions.screen = screen →
        r.value? key = none := by
  rw [applicable_filter_screen, lastValue?_filter_eq_none_iff]
  simp only [screen_and_appliesTo_iff]

/-- What is found for a key: a value of a rule for the screen, or else of a rule without one. -/
theorem get?_resolve (key : String) :
    let rules := s.applicable n q.theme q.state
    (s.resolve n q).get? key =
      (lastValue? (rules.filter fun r => r.conditions.screen == some q.viewport) key).or
        (lastValue? (rules.filter fun r => r.conditions.screen == none) key) := by
  simp [resolve, get?_cascade]

/-- **The winner of the cascade**: each key that has a value is there once. It is the value of the
last rule for the screen that declares the key, among the rules for the node whose conditions on
theme and state hold; if none of these does, of the last such rule without a screen; and if none of
these does either, the key has no value. A rule of neither kind can be left out of the sheet. -/
theorem resolve_winner :
    (s.resolve n q).Ascending ∧
      let forScreen := fun r : StyleRule =>
        r.Concerns n q.theme q.state ∧ r.conditions.screen = some q.viewport
      let screenless := fun r : StyleRule =>
        r.Concerns n q.theme q.state ∧ r.conditions.screen = none
      (∀ key v, (s.resolve n q).get? key = some v ↔
        LastDeclares s.rules forScreen key v ∨
          (∀ r ∈ s.rules, forScreen r → r.value? key = none) ∧
            LastDeclares s.rules screenless key v) ∧
      (∀ key, (s.resolve n q).get? key = none ↔ ∀ r ∈ s.rules, forScreen r ∨ screenless r →
        r.value? key = none) ∧
      ∀ before r after, s.rules = before ++ r :: after → ¬ (forScreen r ∨ screenless r) →
        s.resolve n q = resolve ⟨before ++ after⟩ n q := by
  refine ⟨ascending_cascade (ascending_cascade Dict.ascending_nil _) _, fun key v => ?_,
    fun key => ?_, fun before r after hrules hr => resolve_eq_of_filter ?_⟩
  · rw [get?_resolve, Option.or_eq_some_iff, lastValue?_screen_eq_some_iff,
      lastValue?_screen_eq_some_iff, lastValue?_screen_eq_none_iff]
  · rw [get?_resolve, Option.or_eq_none_iff, lastValue?_screen_eq_none_iff,
      lastValue?_screen_eq_none_iff]
    constructor
    · rintro ⟨hscreen, hnone⟩ r hr h
      exact h.elim (hscreen r hr) (hnone r hr)
    · intro h
      exact ⟨fun r hr hscreen => h r hr (.inl hscreen), fun r hr hnone => h r hr (.inr hnone)⟩
  · have hout : r.appliesAt n q = false := by
      rw [← Bool.not_eq_true, StyleRule.appliesAt, Bool.and_eq_true, StyleRule.appliesTo_iff,
        StyleRule.holds_iff]
      rintro ⟨hconcerns, hscreen⟩
      exact hr (hscreen.elim (fun h => .inr ⟨hconcerns, h⟩) fun h => .inl ⟨hconcerns, h⟩)
    simp [hrules, hout]

end Resolve

end StyleSheet

end PageBuilder
