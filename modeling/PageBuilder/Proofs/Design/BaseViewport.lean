import PageBuilder.Proofs.Design.Upsert

/-!
# Upserts at the base viewport

A project names its base viewport, but an upsert takes the viewport named `base` for it, whatever
the project says: there, and without a viewport, it makes a rule for every viewport, and at any
other a rule for that viewport only. This fits a project exactly if its base viewport has the usual
name (`upsert_at_base`).
-/

namespace PageBuilder

namespace StyleRule

/-- A rule made for a node at the base viewport applies at every viewport, one made for another
viewport only there. -/
theorem appliesAt_keyed_iff {id nodeId viewport : String} {patch : Declaration} {n : Node}
    {q : SheetQuery} :
    (keyed id nodeId viewport patch).appliesAt n q = true ↔
      n.id = nodeId ∧ (viewport = baseViewport ∨ q.viewport = viewport) := by
  unfold appliesAt appliesTo keyed Selector.selects
  by_cases hbase : viewport = baseViewport
  · simp [holds, hbase]
  · simp only [holds, hbase, if_false, Option.isNone_some, Option.isNone_none, Bool.false_or,
      Bool.true_or, Bool.and_true, Bool.and_eq_true, beq_iff_eq, Option.some.injEq, false_or]
    rw [eq_comm (a := viewport), eq_comm (a := n.id)]

/-- The condition on the screen tells all viewports apart. -/
theorem screen_keyed_inj {id nodeId viewport viewport' : String} {patch : Declaration}
    (h : (keyed id nodeId viewport patch).conditions.screen =
      (keyed id nodeId viewport' patch).conditions.screen) :
    viewport = viewport' := by
  simp only [keyed] at h
  split at h
  next hbase =>
    split at h
    next hbase' => rw [hbase, hbase']
    next => cases h
  next =>
    split at h
    next => cases h
    next => exact Option.some.inj h

end StyleRule

/-- On a sheet without keys an upsert always makes a rule. -/
theorem StyleSheet.upsert_of_no_key {s : StyleSheet} (h : ∀ r ∈ s.rules, r.key = none)
    (id nodeId : String) (viewport : Option String) (patch : Declaration) :
    s.upsert id nodeId viewport patch =
      ⟨s.rules ++ [.keyed id nodeId (viewport.getD baseViewport) patch]⟩ := by
  rcases s.upsert_cases id nodeId viewport patch with ⟨before, r, rest, hrules, -, hr, -⟩ |
    ⟨-, hupsert⟩
  · have hnone := h r (by simp [hrules])
    simp [hnone] at hr
  · exact hupsert

namespace Command

/-- The command does nothing but put the rule at the end of the sheet. -/
def Makes (c : Command) (ruleId : String) (s : Snapshot) (r : StyleRule) : Prop :=
  c.apply ruleId s = .ok (s.withSheet ⟨s.project.styleSheet.rules ++ [r]⟩)

variable {s : Snapshot} {ruleId : String}

/-- A command makes one rule at most. -/
theorem Makes.unique {c : Command} {r r' : StyleRule} (h : c.Makes ruleId s r)
    (h' : c.Makes ruleId s r') : r = r' := by
  have hrules := congrArg (fun s => s.project.styleSheet.rules) (Except.ok.inj (h.symm.trans h'))
  simpa [Snapshot.withSheet] using hrules

section NoKey

variable {nodeId : String} (hsheet : ∀ r ∈ s.project.styleSheet.rules, r.key = none)
  (hnode : s.project.nodes.contains nodeId = true) (ruleId : String) (patch : Declaration)

include hsheet hnode

/-- On a sheet without keys an upsert for a node that is there makes a rule. -/
theorem makes_upsertStyleRule (viewport : Option String) :
    (upsertStyleRule nodeId viewport patch).Makes ruleId s
      (.keyed ruleId nodeId (viewport.getD baseViewport) patch) := by
  unfold Makes
  rw [apply_upsertStyleRule_eq_ok_iff.mpr ⟨hnode, rfl⟩, StyleSheet.upsert_of_no_key hsheet]

/-- The viewport that may be left out is the one named `base`. -/
theorem apply_upsertStyleRule_eq_none_iff (viewport : String) :
    (upsertStyleRule nodeId (some viewport) patch).apply ruleId s =
      (upsertStyleRule nodeId none patch).apply ruleId s ↔
      viewport = baseViewport := by
  have hsome := makes_upsertStyleRule hsheet hnode ruleId patch (some viewport)
  have hnone := makes_upsertStyleRule hsheet hnode ruleId patch none
  refine ⟨fun h => ?_, fun h => ?_⟩
  · have hrule := Makes.unique (h.symm.trans hsome) hnone
    exact StyleRule.screen_keyed_inj (congrArg (fun r => r.conditions.screen) hrule)
  · rw [h] at hsome ⊢
    exact hsome.trans hnone.symm

/-- A rule that an upsert makes for a viewport is for that viewport only, unless the viewport is
named `base`. -/
theorem makes_local_iff (viewport : String) :
    (∃ r, (upsertStyleRule nodeId (some viewport) patch).Makes ruleId s r ∧
      ∀ m q, r.appliesAt m q = true ↔ m.id = nodeId ∧ q.viewport = viewport) ↔
        viewport ≠ baseViewport := by
  have hmakes := makes_upsertStyleRule hsheet hnode ruleId patch (some viewport)
  refine ⟨fun ⟨r, hr, hlocal⟩ hbase => ?_, fun hbase => ⟨_, hmakes, fun m q => ?_⟩⟩
  · -- the rule applies at a viewport with any other name too
    have hat : r.appliesAt { id := nodeId, component := "" } { viewport := viewport ++ "!" } =
        true := by
      rw [hr.unique hmakes]
      exact StyleRule.appliesAt_keyed_iff.mpr ⟨rfl, .inl hbase⟩
    have hsame : viewport ++ "!" = viewport := ((hlocal _ _).mp hat).2
    simpa using congrArg String.length hsame
  · simp [StyleRule.appliesAt_keyed_iff, hbase]

end NoKey

end Command

/-- **Upserts know one base viewport**: on a sheet without keys, an upsert for a node that is there
makes a rule for that node. Without a viewport the rule asks for no screen and applies at every
viewport; with one it applies there only, or at every viewport if the name is `base`. So, with the
same new identifier, an upsert at the base viewport of the project gives the same sheet as one
without a viewport exactly if that base viewport is named `base`, and only then do upserts at all
other viewports make rules for just those. -/
theorem upsert_at_base {s : Snapshot} {nodeId : String}
    (hsheet : ∀ r ∈ s.project.styleSheet.rules, r.key = none)
    (hnode : s.project.nodes.contains nodeId = true) (ruleId : String) (patch : Declaration) :
    let base := s.project.viewports.base
    let upsert := fun viewport => Command.upsertStyleRule nodeId viewport patch
    (∃ r, (upsert none).Makes ruleId s r ∧ r.conditions.screen = none ∧
      ∀ m q, r.appliesAt m q = true ↔ m.id = nodeId) ∧
      (∀ v, ∃ r, (upsert (some v)).Makes ruleId s r ∧
        ∀ m q, r.appliesAt m q = true ↔ m.id = nodeId ∧ (v = baseViewport ∨ q.viewport = v)) ∧
      ((upsert (some base)).apply ruleId s = (upsert none).apply ruleId s ↔ base = baseViewport) ∧
      ((∀ v, v ≠ base → ∃ r, (upsert (some v)).Makes ruleId s r ∧
        ∀ m q, r.appliesAt m q = true ↔ m.id = nodeId ∧ q.viewport = v) ↔ base = baseViewport) := by
  intro base upsert
  have hmakes := Command.makes_upsertStyleRule hsheet hnode ruleId patch
  have hlocal := Command.makes_local_iff hsheet hnode ruleId patch
  refine ⟨⟨_, hmakes none, by simp [StyleRule.keyed], fun m q => ?_⟩,
    fun v => ⟨_, hmakes (some v), fun m q => ?_⟩,
    Command.apply_upsertStyleRule_eq_none_iff hsheet hnode ruleId patch base, fun h => ?_,
    fun h v hv => ?_⟩
  · simp [StyleRule.appliesAt_keyed_iff]
  · exact StyleRule.appliesAt_keyed_iff
  · -- the viewport named `base` is the only one whose rule is not for it alone
    exact Decidable.byContradiction fun hbase =>
      (hlocal baseViewport).mp (h baseViewport (Ne.symm hbase)) rfl
  · exact (hlocal v).mpr (h ▸ hv)

/-! ### A base viewport with another name -/

/-- A project whose base viewport is named `desktop`. -/
def desktopProject : Project :=
  { nodes := [("a", { id := "a", component := "Button" })],
    viewports := { base := "desktop", entries := [{ name := "mobile" }] } }

/-- The project just opened. -/
def desktopSnapshot : Snapshot := .opened desktopProject .null

theorem desktopSnapshot_no_key : ∀ r ∈ desktopSnapshot.project.styleSheet.rules, r.key = none := by
  intro r hr
  cases hr

/-- The rule for the base viewport `desktop` does not reach the other viewports. -/
theorem upsert_at_base_desktop :
    ∃ r, (Command.upsertStyleRule "a" (some "desktop") [("color", .string "red")]).Makes "gen-0"
      desktopSnapshot r ∧
      ∀ m q, r.appliesAt m q = true ↔ m.id = "a" ∧ q.viewport = "desktop" := by
  have hnode : desktopSnapshot.project.nodes.contains "a" = true := by decide
  obtain ⟨-, hsome, -⟩ :=
    upsert_at_base desktopSnapshot_no_key hnode "gen-0" [("color", .string "red")]
  obtain ⟨r, hr, happlies⟩ := hsome "desktop"
  exact ⟨r, hr, fun m q => (happlies m q).trans (by simp [baseViewport])⟩

/-- Not in every project an upsert at the base viewport is one without a viewport. -/
theorem upsert_ignores_configured_base :
    ¬ ∀ (s : Snapshot) (nodeId ruleId : String) (patch : Declaration),
      (∀ r ∈ s.project.styleSheet.rules, r.key = none) →
      s.project.nodes.contains nodeId = true →
      (Command.upsertStyleRule nodeId (some s.project.viewports.base) patch).apply ruleId s =
        (Command.upsertStyleRule nodeId none patch).apply ruleId s ∧
        ∀ v, v ≠ s.project.viewports.base →
          ∃ r, (Command.upsertStyleRule nodeId (some v) patch).Makes ruleId s r ∧
          ∀ m q, r.appliesAt m q = true → q.viewport = v := by
  intro h
  have hnode : desktopSnapshot.project.nodes.contains "a" = true := by decide
  have hbase := (h desktopSnapshot "a" "gen-0" [] desktopSnapshot_no_key hnode).1
  exact absurd
    ((Command.apply_upsertStyleRule_eq_none_iff desktopSnapshot_no_key hnode "gen-0" [] _).mp hbase)
    (by decide)

end PageBuilder
