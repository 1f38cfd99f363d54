import PageBuilder.Session.Command

/-!
# Patching the style of a node

A patch is written into the declaration that a node stores for one viewport, and what applies at a
viewport is read from two of these declarations: that of the base viewport, and over it that of the
viewport itself, if it overrides. A patched key has its new value at the viewport, a key that was
removed there shows the base declaration again, and nothing else changes but below the base viewport
(`setNodeStyle_cascades`).
-/

namespace PageBuilder

/-! ### Patched declarations -/

theorem Json.isNull_iff {v : Json} : v.isNull = true ↔ v = .null := by
  cases v <;> simp [isNull]

namespace Declaration

/-- After a patch a key has the value of its last entry in the patch, or none if that is `null`;
other keys keep their value. -/
theorem get?_patch (d patch : Declaration) (key : String) :
    (d.patch patch).get? key =
      ((Dict.ofList patch).get? key).elim (d.get? key) fun v =>
        if v.isNull then none else some v := by
  induction patch generalizing d with
  | nil => rfl
  | cons e patch ih =>
    have hstep : (d.patch (e :: patch)).get? key =
        ((Dict.ofList patch).get? key).elim ((d.patch [e]).get? key) fun v =>
          if v.isNull then none else some v := ih _
    rw [hstep, Dict.get?_ofList_cons]
    cases (Dict.ofList patch).get? key with
    | some v => rfl
    | none =>
      have hone : d.patch [e] = if e.2.isNull then d.erase e.1 else d.insert e.1 e.2 := rfl
      rw [hone, Option.none_or, Option.elim_none]
      by_cases hkey : e.1 = key <;> by_cases hnull : e.2.isNull <;>
        simp [hkey, hnull, Dict.get?_erase, Dict.get?_insert]

theorem ascending_patch {d : Declaration} (h : d.Ascending) (patch : Declaration) :
    (d.patch patch).Ascending := by
  induction patch generalizing d with
  | nil => exact h
  | cons e patch ih =>
    show (patch.foldl _ (if e.2.isNull then d.erase e.1 else d.insert e.1 e.2)).Ascending
    by_cases hnull : e.2.isNull
    · rw [if_pos hnull]
      exact ih (Dict.ascending_erase h e.1)
    · rw [if_neg hnull]
      exact ih (Dict.ascending_insert h e.1 e.2)

theorem patch_patch {d patch : Declaration} (hd : d.Ascending) (hpatch : patch.Ascending)
    (later : Declaration) :
    (d.patch patch).patch later = d.patch (patch.overlay later) := by
  refine Dict.eq_of_get?_eq (ascending_patch (ascending_patch hd _) _) (ascending_patch hd _)
    fun key => ?_
  have hmerged : (Dict.ofList (patch.overlay later)).get? key =
      ((Dict.ofList later).get? key).or ((Dict.ofList patch).get? key) := by
    rw [Dict.ofList_of_ascending (Dict.ascending_overlay hpatch later), Dict.get?_overlay,
      Dict.ofList_of_ascending hpatch]
  rw [get?_patch, get?_patch, get?_patch, hmerged]
  cases (Dict.ofList later).get? key <;> rfl

end Declaration

/-! ### What applies at a viewport -/

namespace Node

variable {n : Node} {vs : Viewports} {v w : String} {patch : Declaration}

theorem styleFor_patchStyle_self :
    (n.patchStyle v patch).styleFor v = (n.styleFor v).patch patch := by
  unfold styleFor patchStyle
  rw [Dict.get?_insert_self]
  rfl

theorem styleFor_patchStyle_of_ne (h : w ≠ v) :
    (n.patchStyle v patch).styleFor w = n.styleFor w := by
  unfold styleFor patchStyle
  rw [Dict.get?_insert, if_neg (Ne.symm h)]

theorem effectiveStyle_of_overrides (h : vs.overrides v = true) :
    n.effectiveStyle vs v = (n.styleFor vs.base).overlay (n.styleFor v) := by
  unfold effectiveStyle Viewports.effective
  rw [if_pos h]
  rfl

theorem effectiveStyle_of_not_overrides (h : vs.overrides v = false) :
    n.effectiveStyle vs v = n.styleFor vs.base := by
  unfold effectiveStyle Viewports.effective
  rw [if_neg (Bool.eq_false_iff.mp h)]
  rfl

theorem overrides_iff : vs.overrides v = true ↔ v ≠ vs.base ∧ vs.mode v = .independent := by
  simp [Viewports.overrides]

/-- At the base viewport and at one that overrides, a patch changes the keys that it names, and no
others. -/
theorem get?_effectiveStyle_patchStyle (hstored : (n.styleFor v).Ascending)
    (hpatch : patch.Ascending) (hv : v = vs.base ∨ vs.mode v = .independent) (key : String) :
    ((n.patchStyle v patch).effectiveStyle vs v).get? key =
      (patch.get? key).elim ((n.effectiveStyle vs v).get? key) fun value =>
        if value.isNull then (if v = vs.base then none else (n.styleFor vs.base).get? key)
        else some value := by
  have hown : ((n.styleFor v).patch patch).get? key =
      (patch.get? key).elim ((n.styleFor v).get? key) fun value =>
        if value.isNull then none else some value := by
    rw [Declaration.get?_patch, Dict.ofList_of_ascending hpatch]
  by_cases hbase : v = vs.base
  · have hnot : vs.overrides v = false := by simp [Viewports.overrides, hbase]
    rw [effectiveStyle_of_not_overrides hnot, effectiveStyle_of_not_overrides hnot, ← hbase,
      styleFor_patchStyle_self, hown]
    simp
  · have hover : vs.overrides v = true := overrides_iff.mpr ⟨hbase, hv.resolve_left hbase⟩
    rw [effectiveStyle_of_overrides hover, effectiveStyle_of_overrides hover,
      styleFor_patchStyle_self, styleFor_patchStyle_of_ne (Ne.symm hbase), Dict.get?_overlay,
      Dict.get?_overlay, Dict.ofList_of_ascending hstored,
      Dict.ofList_of_ascending (Declaration.ascending_patch hstored patch), hown, if_neg hbase]
    -- what the patch removes at the viewport is found in the base declaration
    cases patch.get? key with
    | none => rfl
    | some value => by_cases hnull : value.isNull <;> simp [hnull]

/-- A patch for another viewport than the base one shows nowhere else, and nowhere at all if the
viewport is unified. -/
theorem effectiveStyle_patchStyle_of_ne (hv : v ≠ vs.base) (hw : w ≠ v ∨ vs.mode v = .unified) :
    (n.patchStyle v patch).effectiveStyle vs w = n.effectiveStyle vs w := by
  have hbase : (n.patchStyle v patch).styleFor vs.base = n.styleFor vs.base :=
    styleFor_patchStyle_of_ne (Ne.symm hv)
  cases hover : vs.overrides w with
  | false =>
    rw [effectiveStyle_of_not_overrides hover, effectiveStyle_of_not_overrides hover, hbase]
  | true =>
    have hne : w ≠ v := by
      rintro rfl
      have hunified := hw.resolve_left (fun h => h rfl)
      have hindependent := (overrides_iff.mp hover).2
      rw [hunified] at hindependent
      cases hindependent
    rw [effectiveStyle_of_overrides hover, effectiveStyle_of_overrides hover, hbase,
      styleFor_patchStyle_of_ne hne]

theorem patchStyle_patchStyle (hstored : (n.styleFor v).Ascending) (hpatch : patch.Ascending)
    (later : Declaration) :
    (n.patchStyle v patch).patchStyle v later = n.patchStyle v (patch.overlay later) := by
  have hdeclared : ((n.patchStyle v patch).styleFor v).patch later =
      (n.styleFor v).patch (patch.overlay later) := by
    rw [styleFor_patchStyle_self, Declaration.patch_patch hstored hpatch]
  unfold patchStyle at hdeclared ⊢
  rw [hdeclared]
  simp only [Dict.insert_insert]

end Node

/-! ### The command -/

/-- The snapshot in which a patch is laid over the declaration of a node at a viewport. -/
def Snapshot.withStyle (s : Snapshot) (nodeId viewport : String) (patch : Declaration) : Snapshot :=
  { s with project := { s.project with
      nodes := s.project.nodes.modify nodeId fun n => n.patchStyle viewport patch } }

namespace Command

variable {s s' : Snapshot} {ruleId nodeId v : String} {patch : Declaration}

/-- The command asks for a viewport and a node that are there, and changes nothing but the style of
the node. -/
theorem apply_setNodeStyle_eq_ok_iff :
    (setNodeStyle nodeId v patch).apply ruleId s = .ok s' ↔
      s.project.viewports.contains v = true ∧ s.project.nodes.contains nodeId = true ∧
        s' = s.withStyle nodeId v patch := by
  simp only [apply, Snapshot.modifyNode]
  by_cases hviewport : s.project.viewports.contains v = true
  · by_cases hnode : s.project.nodes.contains nodeId = true
    · simp [hviewport, hnode, Snapshot.withStyle, eq_comm]
    · simp [hviewport, hnode]
  · simp [hviewport]

theorem node?_withStyle (id : String) :
    (s.withStyle nodeId v patch).project.node? id =
      if nodeId = id then (s.project.node? id).map fun n => n.patchStyle v patch
      else s.project.node? id :=
  Dict.get?_modify _ _ _ _

theorem withStyle_withStyle
    (hstored : ∀ n, s.project.node? nodeId = some n → (n.styleFor v).Ascending)
    (hpatch : patch.Ascending) (later : Declaration) :
    (s.withStyle nodeId v patch).withStyle nodeId v later =
      s.withStyle nodeId v (patch.overlay later) := by
  have hnodes : Dict.modify nodeId (fun n => n.patchStyle v later)
        (s.project.nodes.modify nodeId fun n => n.patchStyle v patch) =
      s.project.nodes.modify nodeId fun n => n.patchStyle v (patch.overlay later) := by
    rw [Dict.modify_modify]
    exact Dict.modify_congr fun n hn => Node.patchStyle_patchStyle (hstored n hn) hpatch later
  unfold Snapshot.withStyle
  dsimp only
  rw [hnodes]

end Command

/-- **The style of a node under the viewport cascade**: after a patch for a viewport that is the
base one or overrides it, each key that the patch names has the value that it names there; one that
it names with `null` has none at the base viewport, and at another what the base declaration gives
it; all other keys are as before. A patch for another viewport than the base one changes nothing
elsewhere, and not even there if the viewport is unified. All other nodes, and the viewports, stay
as they are. Two patches for one node at one viewport are one patch with the second laid over the
first. The patch and the declaration that is stored are dictionaries with ascending keys. -/
theorem setNodeStyle_cascades {s s' : Snapshot} {ruleId nodeId v : String} {patch : Declaration}
    (hpatch : patch.Ascending)
    (hstored : ∀ n, s.project.node? nodeId = some n → (n.styleFor v).Ascending)
    (h : (Command.setNodeStyle nodeId v patch).apply ruleId s = .ok s') :
    let vs := s.project.viewports
    (∃ n n', s.project.node? nodeId = some n ∧ s'.project.node? nodeId = some n' ∧
      (v = vs.base ∨ vs.mode v = .independent →
        (∀ key value, patch.get? key = some value → value ≠ .null →
          (n'.effectiveStyle vs v).get? key = some value) ∧
        (∀ key, patch.get? key = some .null →
          (n'.effectiveStyle vs v).get? key =
            if v = vs.base then none else (n.styleFor vs.base).get? key) ∧
        ∀ key, patch.get? key = none →
          (n'.effectiveStyle vs v).get? key = (n.effectiveStyle vs v).get? key) ∧
      (v ≠ vs.base → ∀ w, w ≠ v ∨ vs.mode v = .unified →
        n'.effectiveStyle vs w = n.effectiveStyle vs w)) ∧
    s'.project.viewports = vs ∧
    (∀ id, id ≠ nodeId → s'.project.node? id = s.project.node? id) ∧
    ∀ later ruleId', ∃ s'', (Command.setNodeStyle nodeId v later).apply ruleId' s' = .ok s'' ∧
      (Command.setNodeStyle nodeId v (patch.overlay later)).apply ruleId' s = .ok s'' := by
  intro vs
  obtain ⟨hviewport, hnode, rfl⟩ := Command.apply_setNodeStyle_eq_ok_iff.mp h
  obtain ⟨n, hn⟩ : ∃ n, s.project.node? nodeId = some n := Option.isSome_iff_exists.mp hnode
  have hn' : (s.withStyle nodeId v patch).project.node? nodeId = some (n.patchStyle v patch) := by
    rw [Command.node?_withStyle, if_pos rfl, hn, Option.map_some]
  refine ⟨⟨n, n.patchStyle v patch, hn, hn', fun hv => ?_,
    fun hv w hw => Node.effectiveStyle_patchStyle_of_ne hv hw⟩, rfl,
    fun id hid => ?_, fun later ruleId' => ?_⟩
  · have hvalue := Node.get?_effectiveStyle_patchStyle (hstored n hn) hpatch hv
    refine ⟨fun key value hkey hne => ?_, fun key hkey => ?_, fun key hkey => ?_⟩
    · have hnull : value.isNull = false :=
        Bool.eq_false_iff.mpr fun hnull => hne (Json.isNull_iff.mp hnull)
      rw [hvalue, hkey, Option.elim_some, hnull]
      rfl
    · rw [hvalue, hkey]
      rfl
    · rw [hvalue, hkey]
      rfl
  · rw [Command.node?_withStyle, if_neg (Ne.symm hid)]
  · refine ⟨s.withStyle nodeId v (patch.overlay later), ?_,
      Command.apply_setNodeStyle_eq_ok_iff.mpr ⟨hviewport, hnode, rfl⟩⟩
    have hstays : (s.withStyle nodeId v patch).project.nodes.contains nodeId = true :=
      Option.isSome_iff_exists.mpr ⟨_, hn'⟩
    exact Command.apply_setNodeStyle_eq_ok_iff.mpr
      ⟨hviewport, hstays, (Command.withStyle_withStyle hstored hpatch later).symm⟩

/-- A node with styles for the base viewport, here named `desktop`, and for one that overrides
it. -/
def twoScreenNode : Node :=
  { id := "a"
    component := "Button"
    styles := [("desktop", .object [("color", .string "red"), ("margin", .string "0")]),
      ("mobile", .object [("color", .string "blue")])] }

/-- A session on a project with this node. Of the two viewports named `mobile` the first one
counts. -/
def twoScreenSnapshot : Snapshot :=
  .opened
    { nodes := [("a", twoScreenNode)]
      viewports := {
        base := "desktop"
        entries := [{ name := "mobile", mode := .independent }, { name := "mobile" }] } } .null

/-- A patch that removes one key and writes another. -/
def twoScreenPatch : Declaration := [("color", .null), ("width", .string "50%")]

/-- A key that is removed where it overrides shows the base declaration again. -/
theorem setNodeStyle_cascades_mobile :
    ∃ s' n', (Command.setNodeStyle "a" "mobile" twoScreenPatch).apply "" twoScreenSnapshot =
      .ok s' ∧
      s'.project.node? "a" = some n' ∧
      let style := n'.effectiveStyle twoScreenSnapshot.project.viewports "mobile"
      style.get? "color" = some (.string "red") ∧ style.get? "width" = some (.string "50%") ∧
        style.get? "margin" = some (.string "0") := by
  have happly : (Command.setNodeStyle "a" "mobile" twoScreenPatch).apply "" twoScreenSnapshot =
      .ok (twoScreenSnapshot.withStyle "a" "mobile" twoScreenPatch) :=
    Command.apply_setNodeStyle_eq_ok_iff.mpr ⟨by decide, by decide, rfl⟩
  have hstored : ∀ n, twoScreenSnapshot.project.node? "a" = some n →
      (n.styleFor "mobile").Ascending := by
    intro n hn
    obtain rfl : twoScreenNode = n := Option.some.inj hn
    decide
  obtain ⟨⟨n, n', hn, hn', hat, -⟩, -⟩ := setNodeStyle_cascades (by decide) hstored happly
  obtain rfl : twoScreenNode = n := Option.some.inj hn
  obtain ⟨hvalue, hnull, hother⟩ := hat (.inr rfl)
  exact ⟨_, n', happly, hn', (hnull "color" rfl).trans rfl, hvalue "width" _ rfl (by simp),
    (hother "margin" rfl).trans rfl⟩

end PageBuilder
