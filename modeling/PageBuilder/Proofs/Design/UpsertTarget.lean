import PageBuilder.Proofs.Design.Upsert

/-!
# The target of an upsert

The key of a rule joins a node and a viewport by a colon, so two nodes may meet on one key if an
identifier holds a colon itself. A rule stays with the node for which its key was first used, its
owner: a later upsert for another node under the same key patches the rule of the owner. An upsert
hits its own node exactly if that node owns the key (`upsert_hits_owner`), and where no identifier
holds a colon it always does (`owner_eq_self`).
-/

namespace PageBuilder

/-- An upsert of a style rule; a rule that is made gets the identifier `ruleId`. -/
structure Upsert where
  ruleId : String
  nodeId : String
  viewport : Option String
  patch : Declaration

namespace Upsert

/-- The key under which the rule is found. -/
def key (u : Upsert) : String := StyleRule.keyFor u.nodeId (u.viewport.getD baseViewport)

/-- The command of an upsert. -/
def command (u : Upsert) : Command := .upsertStyleRule u.nodeId u.viewport u.patch

/-- The sheet after an upsert. -/
def applyTo (s : StyleSheet) (u : Upsert) : StyleSheet :=
  s.upsert u.ruleId u.nodeId u.viewport u.patch

/-- The command applies if the node is there. -/
theorem apply_command {u : Upsert} {s : Snapshot} (h : s.project.nodes.contains u.nodeId = true) :
    u.command.apply u.ruleId s = .ok (s.withSheet (u.applyTo s.project.styleSheet)) :=
  Command.apply_upsertStyleRule_eq_ok_iff.mpr ⟨h, rfl⟩

/-- The node that owns the key of an upsert: that of the first upsert with the key, which may be the
upsert itself. -/
def owner (earlier : List Upsert) (u : Upsert) : String :=
  match earlier.find? fun w => w.key == u.key with
  | some first => first.nodeId
  | none => u.nodeId

/-- Where no identifier of a node holds a colon, every node owns its keys. -/
theorem owner_eq_self {earlier : List Upsert} {u : Upsert} (hu : ':' ∉ u.nodeId.toList)
    (hearlier : ∀ w ∈ earlier, ':' ∉ w.nodeId.toList) : u.owner earlier = u.nodeId := by
  unfold owner
  split
  next first hfirst =>
    have hkey : first.key = u.key := by simpa using List.find?_some hfirst
    exact ((StyleRule.keyFor_inj (hearlier first (List.mem_of_find?_eq_some hfirst)) hu).mp hkey).1
  next => rfl

end Upsert

namespace StyleSheet

/-- The sheet that upserts build from the empty one. -/
def ofUpserts (us : List Upsert) : StyleSheet := us.foldl Upsert.applyTo {}

/-- One upsert: a rule that is there keeps its selector, and a rule that is made selects the
node. -/
theorem selector_applyTo (s : StyleSheet) (u : Upsert) (key : String) :
    ((u.applyTo s).keyedRule? key).map StyleRule.selector =
      ((s.keyedRule? key).map StyleRule.selector).or
        (if u.key = key then some (.node u.nodeId) else none) := by
  unfold Upsert.applyTo
  split
  next hkey =>
    subst hkey
    rw [Upsert.key, keyedRule?_upsert_self]
    cases s.keyedRule? (StyleRule.keyFor u.nodeId (u.viewport.getD baseViewport)) <;> rfl
  next hkey =>
    rw [keyedRule?_upsert_of_ne _ _ _ _ _ (Ne.symm hkey), Option.or_none]

/-- The rule under a key selects the node of the first upsert with the key. -/
theorem selector_ofUpserts (us : List Upsert) (key : String) :
    ((ofUpserts us).keyedRule? key).map StyleRule.selector =
      (us.find? fun u => u.key == key).map fun u => .node u.nodeId := by
  have hfrom : ∀ s : StyleSheet,
      ((us.foldl Upsert.applyTo s).keyedRule? key).map StyleRule.selector =
        ((s.keyedRule? key).map StyleRule.selector).or
          ((us.find? fun u => u.key == key).map fun u => .node u.nodeId) := by
    induction us with
    | nil => simp
    | cons u us ih =>
      intro s
      rw [List.foldl_cons, ih, selector_applyTo, Option.or_assoc, List.find?_cons]
      by_cases hkey : u.key = key
      · simp [hkey]
      · simp [hkey, beq_eq_false_iff_ne.mpr hkey]
  exact hfrom {}

/-- After an upsert the rule under its key selects the owner of the key. -/
theorem selector_upsert (earlier : List Upsert) (u : Upsert) :
    ∃ r, (u.applyTo (ofUpserts earlier)).keyedRule? u.key = some r ∧
      r.selector = .node (u.owner earlier) := by
  have h := selector_applyTo (ofUpserts earlier) u u.key
  rw [selector_ofUpserts, if_pos rfl] at h
  rw [← Option.map_eq_some_iff (f := StyleRule.selector), h, Upsert.owner]
  cases earlier.find? fun w => w.key == u.key <;> rfl

end StyleSheet

/-- **An upsert hits the owner of its key**, on every sheet that upserts have built: the rule that
it makes or patches selects the owner, and for no other node does the sheet resolve anything new, at
no viewport, under no theme and in no state. So the upsert hits its own node and nothing else
exactly if the node owns the key. -/
theorem upsert_hits_owner {s s' : Snapshot} {earlier : List Upsert} {u : Upsert}
    (hsheet : s.project.styleSheet = .ofUpserts earlier) (h : u.command.apply u.ruleId s = .ok s') :
    let before := s.project.styleSheet
    let after := s'.project.styleSheet
    ∃ r, after.keyedRule? u.key = some r ∧ r.selector = .node (u.owner earlier) ∧
      (∀ m q, m.id ≠ u.owner earlier → after.resolve m q = before.resolve m q) ∧
      ((r.selector = .node u.nodeId ∧ ∀ m q, m.id ≠ u.nodeId →
        after.resolve m q = before.resolve m q) ↔
        u.owner earlier = u.nodeId) := by
  intro before after
  have hafter : after = u.applyTo before :=
    congrArg (fun s => s.project.styleSheet) (Command.apply_upsertStyleRule_eq_ok_iff.mp h).2
  obtain ⟨r, hr, hselector⟩ := StyleSheet.selector_upsert earlier u
  rw [← hsheet, ← hafter] at hr
  have hframe : ∀ m q, m.id ≠ u.owner earlier → after.resolve m q = before.resolve m q := by
    intro m q hm
    have hnot : r.appliesAt m q = false :=
      Bool.eq_false_iff.mpr fun hat => hm (StyleRule.id_of_appliesAt hselector hat)
    rw [hafter] at hr ⊢
    exact StyleSheet.resolve_upsert_of_not_appliesAt _ _ _ _ _ hr hnot
  refine ⟨r, hr, hselector, hframe, fun ⟨hown, _⟩ => ?_, fun hown => ?_⟩
  · exact Selector.node.inj (hselector.symm.trans hown)
  · rw [hown] at hselector hframe
    exact ⟨hselector, hframe⟩

/-! ### Two nodes on one key -/

/-- A project with a node whose identifier holds a colon. -/
def colonProject : Project :=
  { nodes := [("a", { id := "a", component := "Button" }),
    ("a:b", { id := "a:b", component := "Button" })] }

/-- The node `a` at the viewport `b:c`. -/
def colonFirst : Upsert := ⟨"gen-0", "a", some "b:c", [("color", .string "red")]⟩

/-- The node `a:b` at the viewport `c`; the key is the same. -/
def colonSecond : Upsert := ⟨"gen-1", "a:b", some "c", [("color", .string "blue")]⟩

/-- The project after the first of the two upserts. -/
def colonSnapshot : Snapshot :=
  .opened { colonProject with styleSheet := .ofUpserts [colonFirst] } .null

theorem upsert_hits_owner_at_colon :
    ∃ s', colonSecond.command.apply colonSecond.ruleId colonSnapshot = .ok s' ∧
      ∃ r, s'.project.styleSheet.keyedRule? colonSecond.key = some r ∧ r.selector = .node "a" ∧
        ∀ m q, m.id ≠ "a" →
          s'.project.styleSheet.resolve m q = colonSnapshot.project.styleSheet.resolve m q := by
  have howner : colonSecond.owner [colonFirst] = "a" := by decide
  have happly := Upsert.apply_command (u := colonSecond) (s := colonSnapshot) (by decide)
  obtain ⟨r, hr, hselector, hframe, -⟩ :=
    upsert_hits_owner (show _ = StyleSheet.ofUpserts [colonFirst] from rfl) happly
  rw [howner] at hselector hframe
  exact ⟨_, happly, r, hr, hselector, hframe⟩

/-- Not every upsert on a sheet that upserts have built hits its own node, even if nodes are stored
under their identifiers. -/
theorem upsert_misses_own_node :
    ¬ ∀ (s s' : Snapshot) (earlier : List Upsert) (u : Upsert),
      (∀ e ∈ s.project.nodes, e.2.id = e.1) →
      s.project.styleSheet = .ofUpserts earlier → u.command.apply u.ruleId s = .ok s' →
      (∃ r, s'.project.styleSheet.keyedRule? u.key = some r ∧ r.selector = .node u.nodeId) ∧
        ∀ e ∈ s.project.nodes, e.2.id ≠ u.nodeId →
          ∀ q, s'.project.styleSheet.resolve e.2 q = s.project.styleSheet.resolve e.2 q := by
  intro h
  have happly := Upsert.apply_command (u := colonSecond) (s := colonSnapshot) (by decide)
  obtain ⟨⟨r, hr, hselector⟩, -⟩ :=
    h colonSnapshot _ [colonFirst] colonSecond (by decide) rfl happly
  have howner := congrArg (Option.map StyleRule.selector) hr
  rw [Option.map_some, hselector] at howner
  revert howner
  decide

end PageBuilder
