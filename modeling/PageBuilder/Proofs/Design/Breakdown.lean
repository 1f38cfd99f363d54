import PageBuilder.Proofs.Design.Cascade

/-!
# The breakdown of a sheet

One pass over a sheet groups its rules by screen and reports those without a screen under `*`. A
screen may be named `*` too, and then the rules for it are reported in the same place. The breakdown
tells what the sheet resolves at every viewport, and what holds everywhere, exactly if no rule that
is for the node asks for that screen (`breakdown_agrees_iff`).
-/

namespace PageBuilder

/-- The screen under which a rule is reported. -/
def StyleRule.reportedAt (r : StyleRule) : String := r.conditions.screen.getD StyleSheet.anyScreen

namespace StyleSheet

/-- What a breakdown reports under a screen, nothing if the screen is not there. -/
def entry (screens : Dict Declaration) (screen : String) : Declaration :=
  (screens.get? screen).getD []

/-- Report one rule. -/
def report (screens : Dict Declaration) (r : StyleRule) : Dict Declaration :=
  screens.insert r.reportedAt ((entry screens r.reportedAt).overlay r.declared)

theorem breakdown_eq_foldl (s : StyleSheet) (n : Node) (theme state : Option String) :
    s.breakdown n theme state = (s.applicable n theme state).foldl report [] := rfl

theorem entry_report (screens : Dict Declaration) (r : StyleRule) (screen : String) :
    entry (report screens r) screen =
      if r.reportedAt = screen then (entry screens screen).overlay r.declared
      else entry screens screen := by
  rw [entry, report, Dict.get?_insert]
  split
  next h => rw [h, Option.getD_some]
  next => rfl

/-- A pass lays the rules that it reports under a screen over what was there. -/
theorem entry_foldl_report (rules : List StyleRule) (screens : Dict Declaration) (screen : String) :
    entry (rules.foldl report screens) screen =
      cascade (entry screens screen) (rules.filter fun r => r.reportedAt == screen) := by
  induction rules generalizing screens with
  | nil => rfl
  | cons r rules ih =>
    rw [List.foldl_cons, ih, entry_report]
    by_cases h : r.reportedAt = screen <;> simp [h, cascade]

/-- Laying rules over a declaration is laying what they come to over it. -/
theorem cascade_eq_overlay {base : Declaration} (h : base.Ascending) (rules : List StyleRule) :
    cascade base rules = base.overlay (cascade [] rules) := by
  have hpatch : (cascade [] rules).Ascending := ascending_cascade Dict.ascending_nil rules
  refine Dict.eq_of_get?_eq (ascending_cascade h rules) (Dict.ascending_overlay h _) fun key => ?_
  rw [get?_cascade, Dict.get?_overlay, Dict.ofList_of_ascending hpatch, get?_cascade, Dict.get?_nil,
    Option.or_none]

section Breakdown

variable (s : StyleSheet) (n : Node) (theme state : Option String)

/-- What the rules that ask for a screen declare, or those that ask for none. -/
def declaredFor (screen : Option String) : Declaration :=
  cascade [] ((s.applicable n theme state).filter fun r => r.conditions.screen == screen)

theorem ascending_declaredFor (screen : Option String) :
    (s.declaredFor n theme state screen).Ascending :=
  ascending_cascade Dict.ascending_nil _

theorem resolve_eq_overlay (viewport : String) :
    s.resolve n ⟨viewport, theme, state⟩ =
      (s.declaredFor n theme state none).overlay (s.declaredFor n theme state (some viewport)) :=
  cascade_eq_overlay (s.ascending_declaredFor n theme state none) _

/-- What is reported under a screen comes from the rules that are reported there. -/
theorem entry_breakdown (screen : String) :
    entry (s.breakdown n theme state) screen =
      cascade [] ((s.applicable n theme state).filter fun r => r.reportedAt == screen) := by
  rw [breakdown_eq_foldl, entry_foldl_report]
  rfl

/-- Under a screen that is not `*` only the rules for that screen are reported. -/
theorem entry_breakdown_of_ne {screen : String} (h : screen ≠ anyScreen) :
    entry (s.breakdown n theme state) screen = s.declaredFor n theme state (some screen) := by
  rw [entry_breakdown, declaredFor]
  congr 1
  refine List.filter_congr fun r _ => ?_
  cases hscreen : r.conditions.screen with
  | none => simp [StyleRule.reportedAt, hscreen, Ne.symm h]
  | some own => simp [StyleRule.reportedAt, hscreen]

/-- No rule that is for the node asks for a screen named `*`. -/
def NoStar : Prop := ∀ r ∈ s.rules, r.Concerns n theme state → r.conditions.screen ≠ some anyScreen

variable {s n theme state}

theorem NoStar.entry_anyScreen (h : s.NoStar n theme state) :
    entry (s.breakdown n theme state) anyScreen = s.declaredFor n theme state none := by
  rw [entry_breakdown, declaredFor]
  congr 1
  refine List.filter_congr fun r hr => ?_
  obtain ⟨hmem, happlies⟩ := List.mem_filter.mp hr
  have hstar := h r hmem (StyleRule.appliesTo_iff.mp happlies)
  cases hscreen : r.conditions.screen with
  | none => simp [StyleRule.reportedAt, hscreen]
  | some own =>
    rw [hscreen, ne_eq, Option.some.injEq] at hstar
    simp [StyleRule.reportedAt, hscreen, hstar]

theorem NoStar.declaredFor_anyScreen (h : s.NoStar n theme state) :
    s.declaredFor n theme state (some anyScreen) = [] := by
  have hnone : ((s.applicable n theme state).filter fun r =>
      r.conditions.screen == some anyScreen) = [] := by
    refine List.filter_eq_nil_iff.mpr fun r hr hscreen => ?_
    obtain ⟨hmem, happlies⟩ := List.mem_filter.mp hr
    exact h r hmem (StyleRule.appliesTo_iff.mp happlies) (beq_iff_eq.mp hscreen)
  rw [declaredFor, hnone]
  rfl

variable (s n theme state)

/-- The breakdown agrees with what the sheet resolves. -/
structure BreakdownAgrees : Prop where
  /-- What is reported as holding everywhere comes from rules without a screen. -/
  screenless : ∀ r ∈ s.rules, r.Concerns n theme state → r.reportedAt = anyScreen →
    r.conditions.screen = none
  everywhere : entry (s.breakdown n theme state) anyScreen = s.declaredFor n theme state none
  /-- What holds at a viewport is what is reported for it over what is reported as holding
  everywhere. -/
  resolve : ∀ viewport, s.resolve n ⟨viewport, theme, state⟩ =
    (entry (s.breakdown n theme state) anyScreen).overlay
      (entry (s.breakdown n theme state) viewport)

/-- **Breakdown and resolution**: what is reported under a screen is what the rules reported there
declare, laid over each other. At a viewport not named `*` the sheet resolves what is reported for
it over what the rules without a screen declare. The breakdown itself tells what these declare, and
so what the sheet resolves at every viewport, exactly if no rule that is for the node under this
theme and in this state asks for a screen named `*`. -/
theorem breakdown_agrees_iff :
    (∀ screen, entry (s.breakdown n theme state) screen =
      cascade [] ((s.applicable n theme state).filter fun r => r.reportedAt == screen)) ∧
      (∀ viewport, viewport ≠ anyScreen → s.resolve n ⟨viewport, theme, state⟩ =
        (s.declaredFor n theme state none).overlay (entry (s.breakdown n theme state) viewport)) ∧
      (s.BreakdownAgrees n theme state ↔ s.NoStar n theme state) := by
  have hother : ∀ viewport, viewport ≠ anyScreen → s.resolve n ⟨viewport, theme, state⟩ =
      (s.declaredFor n theme state none).overlay (entry (s.breakdown n theme state) viewport) := by
    intro viewport hviewport
    rw [resolve_eq_overlay, entry_breakdown_of_ne s n theme state hviewport]
  refine ⟨s.entry_breakdown n theme state, hother, fun h r hr hconcerns hstar => ?_,
    fun h => ⟨?_, h.entry_anyScreen, ?_⟩⟩
  · have hnone :=
      h.screenless r hr hconcerns (by rw [StyleRule.reportedAt, hstar, Option.getD_some])
    rw [hstar] at hnone
    cases hnone
  · intro r hr hconcerns hreported
    cases hscreen : r.conditions.screen with
    | none => rfl
    | some own =>
      rw [StyleRule.reportedAt, hscreen, Option.getD_some] at hreported
      exact absurd (hscreen.trans (congrArg some hreported)) (h r hr hconcerns)
  · intro viewport
    rw [h.entry_anyScreen]
    by_cases hviewport : viewport = anyScreen
    · -- at `*` the entry for everywhere is laid over itself
      rw [hviewport, resolve_eq_overlay, h.declaredFor_anyScreen, h.entry_anyScreen,
        Dict.overlay_self (s.ascending_declaredFor n theme state none)]
      rfl
    · exact hother viewport hviewport

end Breakdown

/-! ### A screen named `*` -/

/-- A sheet with a rule for every screen and a later one for the screen `*`. -/
def starSheet : StyleSheet :=
  { rules := [
      { id := "r1", selector := .node "a", declaration := .object [("color", .string "red")] },
      { id := "r2", selector := .node "a", conditions := { screen := some "*" },
        declaration := .object [("color", .string "blue")] }] }

/-- Not every breakdown agrees with what the sheet resolves. -/
theorem breakdown_merges_star :
    ¬ ∀ (s : StyleSheet) (n : Node) (theme state : Option String),
      s.BreakdownAgrees n theme state := by
  intro h
  have hresolve := (h starSheet { id := "a", component := "Button" } none none).resolve "mobile"
  have hcolor : some (Json.string "red") = some (Json.string "blue") :=
    congrArg (Dict.get? · "color") hresolve
  exact absurd (Json.string.inj (Option.some.inj hcolor)) (by decide)

end StyleSheet

end PageBuilder
