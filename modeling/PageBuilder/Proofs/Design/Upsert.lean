import PageBuilder.Session.Command

/-!
# Upserts of style rules

An upsert touches one rule: the first that has the key of the node and the viewport, or a new one at
the end (`upsert_cases`). What the sheet resolves for a node changes only if that rule takes part in
it (`resolve_upsert_of_not_appliesAt`).
-/

namespace PageBuilder

namespace StyleRule

/-- The rule takes part in what a sheet resolves for the node: it is for the node, and all its
conditions hold. -/
def appliesAt (r : StyleRule) (n : Node) (q : SheetQuery) : Bool :=
  r.appliesTo n q.theme q.state && holds r.conditions.screen (some q.viewport)

/-- A rule for a node is for that node only. -/
theorem id_of_appliesAt {r : StyleRule} {nodeId : String} (hr : r.selector = .node nodeId)
    {n : Node} {q : SheetQuery} (h : r.appliesAt n q = true) : n.id = nodeId := by
  simp only [appliesAt, appliesTo, hr, Selector.selects, Bool.and_eq_true, beq_iff_eq] at h
  exact h.1.1.1

/-- Nodes whose identifiers hold no colon share no key. -/
theorem keyFor_inj {nodeId nodeId' viewport viewport' : String} (hid : ':' ∉ nodeId.toList)
    (hid' : ':' ∉ nodeId'.toList) :
    keyFor nodeId viewport = keyFor nodeId' viewport' ↔
      nodeId = nodeId' ∧ viewport = viewport' := by
  refine ⟨fun h => ?_, fun ⟨h, h'⟩ => by rw [h, h']⟩
  have hlist : nodeId.toList ++ ':' :: viewport.toList =
      nodeId'.toList ++ ':' :: viewport'.toList := by
    simpa [keyFor] using congrArg String.toList h
  rw [← String.toList_inj, ← String.toList_inj]
  -- the longer of the two identifiers would hold the colon that ends the other
  rcases List.append_eq_append_iff.mp hlist with ⟨between, hlonger, hrest⟩ |
    ⟨between, hlonger, hrest⟩
  · cases between with
    | nil => simp_all
    | cons c between => simp_all
  · cases between with
    | nil => simp_all
    | cons c between => simp_all

end StyleRule

namespace StyleSheet

/-- The rule that is found under a key: the first that has it. -/
def keyedRule? (s : StyleSheet) (key : String) : Option StyleRule :=
  s.rules.find? fun r => r.key == some key

theorem keyedRule?_eq_none_iff {s : StyleSheet} {key : String} :
    s.keyedRule? key = none ↔ ∀ r ∈ s.rules, r.key ≠ some key := by
  simp [keyedRule?]

theorem keyedRule?_append {before : List StyleRule} {key : String}
    (h : ∀ x ∈ before, x.key ≠ some key) {r : StyleRule} (hr : r.key = some key)
    (rest : List StyleRule) : keyedRule? ⟨before ++ r :: rest⟩ key = some r :=
  List.find?_eq_some_iff_append.mpr ⟨by simpa using hr, before, rest, rfl, by simpa using h⟩

/-- A place is found exactly if a rule is. -/
theorem place?_eq_none_iff {s : StyleSheet} {key : String} :
    s.place? key = none ↔ s.keyedRule? key = none := by
  simp [place?, keyedRule?]

theorem patchFirst_append {key : String} {before : List StyleRule}
    (h : ∀ r ∈ before, r.key ≠ some key) {r : StyleRule} (hr : r.key = some key)
    (patch : Declaration) (rest : List StyleRule) :
    patchFirst key patch (before ++ r :: rest) = before ++ r.patched patch :: rest := by
  induction before with
  | nil => simp [patchFirst, hr]
  | cons x before ih =>
    obtain ⟨hx, hbefore⟩ := List.forall_mem_cons.mp h
    simp [patchFirst, hx, ih hbefore]

/-- What is resolved for a node depends on the rules that take part in it, and on nothing else of
the sheet. -/
theorem resolve_eq_of_filter {s s' : StyleSheet} {n : Node} {q : SheetQuery}
    (h : (s.rules.filter fun r => r.appliesAt n q) = s'.rules.filter fun r => r.appliesAt n q) :
    s.resolve n q = s'.resolve n q := by
  have hpass : ∀ (s : StyleSheet) (screen : Option String),
      StyleRule.holds screen (some q.viewport) = true →
      ((s.applicable n q.theme q.state).filter fun r => r.conditions.screen == screen) =
        (s.rules.filter fun r => r.appliesAt n q).filter fun r =>
          r.conditions.screen == screen := by
    intro s screen hscreen
    rw [applicable, List.filter_filter, List.filter_filter]
    refine List.filter_congr fun r _ => ?_
    by_cases hr : r.conditions.screen = screen
    · simp [StyleRule.appliesAt, hr, hscreen]
    · simp [beq_eq_false_iff_ne.mpr hr]
  dsimp only [resolve]
  rw [hpass s none rfl, hpass s' none rfl, hpass s (some q.viewport) (by simp [StyleRule.holds]),
    hpass s' (some q.viewport) (by simp [StyleRule.holds]), h]

section Upsert

variable (s : StyleSheet) (id nodeId : String) (viewport : Option String) (patch : Declaration)

variable {s id nodeId viewport patch} in
/-- The first rule with the key is patched. -/
theorem upsert_append {before : List StyleRule} {r : StyleRule}
    (hbefore : ∀ x ∈ before, x.key ≠ some (StyleRule.keyFor nodeId (viewport.getD baseViewport)))
    (hr : r.key = some (StyleRule.keyFor nodeId (viewport.getD baseViewport)))
    (rest : List StyleRule) :
    upsert ⟨before ++ r :: rest⟩ id nodeId viewport patch =
      ⟨before ++ r.patched patch :: rest⟩ := by
  have hplace : place? ⟨before ++ r :: rest⟩
      (StyleRule.keyFor nodeId (viewport.getD baseViewport)) ≠ none := by
    rw [ne_eq, place?_eq_none_iff, keyedRule?_append hbefore hr]
    exact Option.some_ne_none r
  obtain ⟨i, hi⟩ := Option.ne_none_iff_exists'.mp hplace
  simp only [upsert, hi, patchFirst_append hbefore hr]

/-- What an upsert can do: it patches the first rule with the key, or puts a rule at the end if none
has it. -/
theorem upsert_cases :
    let key := StyleRule.keyFor nodeId (viewport.getD baseViewport)
    (∃ before r rest, s.rules = before ++ r :: rest ∧ (∀ x ∈ before, x.key ≠ some key) ∧
      r.key = some key ∧
      s.upsert id nodeId viewport patch = ⟨before ++ r.patched patch :: rest⟩) ∨
    ((∀ x ∈ s.rules, x.key ≠ some key) ∧
      s.upsert id nodeId viewport patch =
        ⟨s.rules ++ [.keyed id nodeId (viewport.getD baseViewport) patch]⟩) := by
  intro key
  cases hfound : s.keyedRule? key with
  | none =>
    have hplace : s.place? (StyleRule.keyFor nodeId (viewport.getD baseViewport)) = none :=
      place?_eq_none_iff.mpr hfound
    refine .inr ⟨keyedRule?_eq_none_iff.mp hfound, ?_⟩
    simp only [upsert, hplace]
  | some r =>
    obtain ⟨hr, before, rest, hrules, hbefore⟩ := List.find?_eq_some_iff_append.mp hfound
    have hr : r.key = some key := by simpa using hr
    have hbefore : ∀ x ∈ before, x.key ≠ some key := by simpa using hbefore
    refine .inl ⟨before, r, rest, hrules, hbefore, hr, ?_⟩
    have hsheet : s = ⟨before ++ r :: rest⟩ := congrArg StyleSheet.mk hrules
    rw [hsheet]
    exact upsert_append hbefore hr rest

/-- The rule that an upsert touches, as it is afterwards. -/
theorem keyedRule?_upsert_self :
    let key := StyleRule.keyFor nodeId (viewport.getD baseViewport)
    (s.upsert id nodeId viewport patch).keyedRule? key =
      some (match s.keyedRule? key with
        | some r => r.patched patch
        | none => .keyed id nodeId (viewport.getD baseViewport) patch) := by
  intro key
  rcases s.upsert_cases id nodeId viewport patch
    with ⟨before, r, rest, hrules, hbefore, hr, hupsert⟩ | ⟨hnone, hupsert⟩
  · have hfound : s.keyedRule? key = some r := by
      rw [← keyedRule?_append hbefore hr rest, ← hrules]
    rw [hupsert, hfound, keyedRule?_append hbefore (by exact hr)]
  · rw [hupsert, keyedRule?_eq_none_iff.mpr hnone, keyedRule?_append hnone rfl]

theorem keyedRule?_upsert_of_ne {key : String}
    (h : key ≠ StyleRule.keyFor nodeId (viewport.getD baseViewport)) :
    (s.upsert id nodeId viewport patch).keyedRule? key = s.keyedRule? key := by
  rcases s.upsert_cases id nodeId viewport patch with ⟨before, r, rest, hrules, -, hr, hupsert⟩ |
    ⟨-, hupsert⟩
  · have hpatched : (r.patched patch).key = r.key := rfl
    simp [hupsert, keyedRule?, hrules, hpatched, hr, Ne.symm h]
  · simp [hupsert, keyedRule?, StyleRule.keyed, Ne.symm h]

/-- An upsert changes what is resolved only where the rule that it touches takes part. -/
theorem resolve_upsert_of_not_appliesAt {r : StyleRule}
    (hr : (s.upsert id nodeId viewport patch).keyedRule?
      (StyleRule.keyFor nodeId (viewport.getD baseViewport)) = some r)
    {n : Node} {q : SheetQuery} (h : r.appliesAt n q = false) :
    (s.upsert id nodeId viewport patch).resolve n q = s.resolve n q := by
  refine resolve_eq_of_filter ?_
  rcases s.upsert_cases id nodeId viewport patch
    with ⟨before, old, rest, hrules, hbefore, hold, hupsert⟩ | ⟨hnone, hupsert⟩
  · rw [hupsert, keyedRule?_append hbefore (by exact hold), Option.some.injEq] at hr
    subst hr
    have hkept : old.appliesAt n q = false := h
    simp [hupsert, hrules, h, hkept]
  · rw [hupsert, keyedRule?_append hnone rfl, Option.some.injEq] at hr
    subst hr
    simp [hupsert, h]

end Upsert

end StyleSheet

/-- The snapshot with another style sheet. -/
def Snapshot.withSheet (s : Snapshot) (sheet : StyleSheet) : Snapshot :=
  { s with project := { s.project with styleSheet := sheet } }

/-- The command of an upsert asks for a node that is there, and changes nothing but the sheet. -/
theorem Command.apply_upsertStyleRule_eq_ok_iff {ruleId nodeId : String} {viewport : Option String}
    {patch : Declaration} {s s' : Snapshot} :
    (upsertStyleRule nodeId viewport patch).apply ruleId s = .ok s' ↔
      s.project.nodes.contains nodeId = true ∧
        s' = s.withSheet (s.project.styleSheet.upsert ruleId nodeId viewport patch) := by
  simp only [apply]
  split
  next hnode => simp [hnode, Snapshot.withSheet, eq_comm]
  next hnode => simp [hnode]

end PageBuilder
