import PageBuilder.Proofs.Inspector.Visibility

/-!
# What overlays hide

An entry of an overlay is for a whole group (`IsGroup`) or for one control (`IsControl`), and
applying it is one change of one group (`applyEntry_eq`). These changes commute and have no effect
the second time, so a tree depends only on which entries its overlays have
(`applyOverlay_eq_of_mem_iff`): what is hidden is what some entry hides, and what is there is what
the tag or some entry names (`overlays_hide_exactly`).
-/

namespace PageBuilder
namespace Inspector

open Policy

/-! ### Changes of one group -/

/-- Enter a control, or none, and hide it, or else the whole group, unless `visible`. -/
def Group.mark (control : Option String) (visible : Bool) (g : Group) : Group :=
  match control with
  | none => { g with visible := g.visible && visible }
  | some c =>
    { g with controls := Dict.insert c ((g.controls.get? c).getD true && visible) g.controls }

theorem Group.mark_comm (k l : Option String) (v w : Bool) (g : Group) :
    Group.mark l w (Group.mark k v g) = Group.mark k v (Group.mark l w g) := by
  cases k with
  | none =>
    cases l with
    | none => simp [Group.mark, Bool.and_right_comm]
    | some d => rfl
  | some c =>
    cases l with
    | none => rfl
    | some d =>
      by_cases hcd : c = d
      · subst hcd
        simp [Group.mark, Dict.insert_insert, Bool.and_right_comm]
      · simp [Group.mark, Dict.get?_insert, hcd, Ne.symm hcd, Dict.insert_comm hcd]

theorem Group.mark_mark_self (k : Option String) (v : Bool) (g : Group) :
    Group.mark k v (Group.mark k v g) = Group.mark k v g := by
  cases k with
  | none => simp [Group.mark]
  | some c => simp [Group.mark, Dict.insert_insert]

namespace VisibilityTree

/-- Change a group, whether or not it is in the tree. -/
def modifyGroup (t : VisibilityTree) (name : String) (f : Group → Group) : VisibilityTree :=
  Dict.insert name (f (t.group name)) t

theorem group_modifyGroup (t : VisibilityTree) (name : String) (f : Group → Group)
    (other : String) :
    (t.modifyGroup name f).group other = if name = other then f (t.group name) else t.group other :=
  group_insert t name _ other

/-- Changes that commute may be made in either order, also if they are for different groups. -/
theorem modifyGroup_comm {f g : Group → Group} (h : ∀ x, f (g x) = g (f x)) (t : VisibilityTree)
    (name other : String) :
    (t.modifyGroup name f).modifyGroup other g = (t.modifyGroup other g).modifyGroup name f := by
  by_cases hname : name = other
  · subst hname
    have hfg : g (f (t.group name)) = f (g (t.group name)) := (h _).symm
    rw [modifyGroup, group_modifyGroup, if_pos rfl, modifyGroup, modifyGroup, group_modifyGroup,
      if_pos rfl, modifyGroup, Dict.insert_insert, Dict.insert_insert, hfg]
  · rw [modifyGroup, group_modifyGroup, if_neg hname, modifyGroup, modifyGroup, group_modifyGroup,
      if_neg (Ne.symm hname), modifyGroup, Dict.insert_comm hname]

theorem modifyGroup_modifyGroup_self {f : Group → Group} (h : ∀ x, f (f x) = f x)
    (t : VisibilityTree) (name : String) :
    (t.modifyGroup name f).modifyGroup name f = t.modifyGroup name f := by
  rw [modifyGroup, group_modifyGroup, if_pos rfl, h, modifyGroup, Dict.insert_insert]

/-! ### What an entry is for -/

/-- A path without a dot is for a group. -/
def IsGroup (path group : String) : Prop := '.' ∉ path.toList ∧ path = group

/-- A path with a dot is for a control: the text before its first dot names the group, and all the
text after it the control. -/
def IsControl (path group control : String) : Prop :=
  '.' ∉ group.toList ∧ path = group ++ "." ++ control

/-- The group that a path is for, and the control if it is for one. -/
def target (path : String) : String × Option String :=
  match Text.cut? '.' path.toList with
  | some (group, control) => (String.ofList group, some (String.ofList control))
  | none => (path, none)

theorem target_eq_group_iff {path group : String} :
    target path = (group, none) ↔ IsGroup path group := by
  unfold target IsGroup
  cases hcut : Text.cut? '.' path.toList with
  | none => simp [Text.cut?_eq_none_iff.mp hcut]
  | some p =>
    have hdot : '.' ∈ path.toList := by
      rw [(Text.cut?_eq_some_iff.mp hcut).2]
      simp
    simp [hdot]

theorem target_eq_control_iff {path group control : String} :
    target path = (group, some control) ↔ IsControl path group control := by
  have hcut : target path = (group, some control) ↔
      Text.cut? '.' path.toList = some (group.toList, control.toList) := by
    unfold target
    cases Text.cut? '.' path.toList with
    | none => simp
    | some p => simp [Prod.ext_iff, ← String.toList_inj]
  rw [hcut, Text.cut?_eq_some_iff, IsControl, ← String.toList_inj]
  simp

theorem target_fst_eq_iff {path group : String} :
    (target path).1 = group ↔ IsGroup path group ∨ ∃ control, IsControl path group control := by
  rw [← target_eq_group_iff]
  simp only [← target_eq_control_iff]
  obtain ⟨name, control⟩ := target path
  cases control <;> simp

/-- Applying an entry is one change of the group that it is for. -/
theorem applyEntry_eq (t : VisibilityTree) (path : String) (entry : OverlayEntry) :
    t.applyEntry path entry =
      t.modifyGroup (target path).1 (Group.mark (target path).2 (entry.visible.getD true)) := by
  unfold applyEntry target
  cases Text.cut? '.' path.toList <;> rfl

/-! ### The order of entries -/

section Steps

variable {α β : Type} {f : β → α → β} (hcomm : ∀ b x y, f (f b x) y = f (f b y) x)
    (hself : ∀ b x, f (f b x) x = f b x)

include hcomm hself

/-- A step that is made anyway may be made once more before all others. -/
theorem foldl_step_of_mem {x : α} {xs : List α} (hx : x ∈ xs) (b : β) :
    xs.foldl f (f b x) = xs.foldl f b := by
  induction xs generalizing b with
  | nil => cases hx
  | cons y ys ih =>
    rw [List.foldl_cons, List.foldl_cons]
    rcases List.mem_cons.mp hx with rfl | hx
    · rw [hself]
    · rw [hcomm, ih hx]

theorem foldl_foldl_of_subset {xs ys : List α} (h : ys ⊆ xs) (b : β) :
    xs.foldl f (ys.foldl f b) = xs.foldl f b := by
  induction ys generalizing b with
  | nil => rfl
  | cons y ys ih =>
    obtain ⟨hy, hys⟩ := List.cons_subset.mp h
    rw [List.foldl_cons, ih hys, foldl_step_of_mem hcomm hself hy]

/-- Steps that commute, and of which no second one in a row has an effect, lead to the same end
whenever they are the same steps. -/
theorem foldl_eq_of_mem_iff {xs ys : List α} (h : ∀ x, x ∈ xs ↔ x ∈ ys) (b : β) :
    xs.foldl f b = ys.foldl f b := by
  have hswap : (ys ++ xs).foldl f b = (xs ++ ys).foldl f b :=
    List.perm_append_comm.foldl_eq' (fun x _ y _ b => hcomm b x y) b
  calc xs.foldl f b = xs.foldl f (ys.foldl f b) :=
        (foldl_foldl_of_subset hcomm hself (fun x => (h x).mpr) b).symm
    _ = ys.foldl f (xs.foldl f b) := by rw [← List.foldl_append, hswap, List.foldl_append]
    _ = ys.foldl f b := foldl_foldl_of_subset hcomm hself (fun x => (h x).mp) b

end Steps

/-- Overlays with the same entries do the same to a tree, in whatever order the entries stand and
however often. -/
theorem applyOverlay_eq_of_mem_iff {o o' : Overlay} (h : ∀ e, e ∈ o ↔ e ∈ o') (t : VisibilityTree) :
    t.applyOverlay o = t.applyOverlay o' := by
  refine foldl_eq_of_mem_iff (fun t e e' => ?_) (fun t e => ?_) h t
  · simp only [applyEntry_eq]
    exact modifyGroup_comm (Group.mark_comm _ _ _ _) t _ _
  · simp only [applyEntry_eq]
    exact modifyGroup_modifyGroup_self (Group.mark_mark_self _ _) t _

/-- Apply overlays, one after the other. -/
def applyOverlays (t : VisibilityTree) (os : List Overlay) : VisibilityTree :=
  os.foldl applyOverlay t

/-- Overlays are applied as one overlay with all their entries is. -/
theorem applyOverlays_eq (t : VisibilityTree) (os : List Overlay) :
    t.applyOverlays os = t.applyOverlay os.flatten :=
  List.foldl_flatten.symm

/-! ### What entries hide -/

/-- The entry hides the control, or its group. -/
def Denies (e : String × OverlayEntry) (group control : String) : Prop :=
  e.2.visible = some false ∧ (IsGroup e.1 group ∨ IsControl e.1 group control)

theorem isVisible_applyEntry (t : VisibilityTree) (e : String × OverlayEntry)
    (group control : String) :
    (t.applyEntry e.1 e.2).isVisible group control = true ↔ t.isVisible group control = true ∧
      ¬ Denies e group control := by
  have hvisible : e.2.visible.getD true = false ↔ e.2.visible = some false := by
    cases e.2.visible <;> simp
  rw [Denies, ← target_eq_group_iff, ← target_eq_control_iff, ← hvisible, applyEntry_eq]
  obtain ⟨name, k⟩ := target e.1
  cases k with
  | none =>
    show (t.markGroup name _).isVisible group control = true ↔ _
    rw [isVisible_markGroup]
    cases e.2.visible.getD true <;> simp
  | some c =>
    show (t.markControl name c _).isVisible group control = true ↔ _
    rw [isVisible_markControl]
    cases e.2.visible.getD true <;> simp [Decidable.imp_iff_not_or]

theorem isVisible_applyOverlay (t : VisibilityTree) (o : Overlay) (group control : String) :
    (t.applyOverlay o).isVisible group control = true ↔
      t.isVisible group control = true ∧ ∀ e ∈ o, ¬ Denies e group control := by
  unfold applyOverlay
  induction o generalizing t with
  | nil => simp
  | cons e o ih => rw [List.foldl_cons, ih, isVisible_applyEntry, List.forall_mem_cons, and_assoc]

/-! ### What is in a tree -/

/-- The control is in the group. -/
def hasControl (t : VisibilityTree) (name control : String) : Bool :=
  (t.group name).controls.contains control

theorem contains_modifyGroup (t : VisibilityTree) (name : String) (f : Group → Group)
    (other : String) :
    (t.modifyGroup name f).contains other = true ↔ t.contains other = true ∨ name = other := by
  rw [Dict.contains_iff_mem, Dict.contains_iff_mem, modifyGroup, Dict.mem_map_fst_insert,
    or_comm, eq_comm]

theorem hasControl_modifyGroup_mark (t : VisibilityTree) (name : String) (k : Option String)
    (visible : Bool) (other control : String) :
    (t.modifyGroup name (Group.mark k visible)).hasControl other control = true ↔
      t.hasControl other control = true ∨ name = other ∧ k = some control := by
  unfold hasControl
  rw [group_modifyGroup]
  by_cases hname : name = other
  · subst hname
    cases k with
    | none => simp [Group.mark]
    | some c =>
      rw [if_pos rfl, Dict.contains_iff_mem, Dict.contains_iff_mem, Group.mark,
        Dict.mem_map_fst_insert, or_comm]
      simp [eq_comm]
  · simp [hname]

theorem contains_applyOverlay (t : VisibilityTree) (o : Overlay) (group : String) :
    (t.applyOverlay o).contains group = true ↔
      t.contains group = true ∨ ∃ e ∈ o, IsGroup e.1 group ∨
        ∃ control, IsControl e.1 group control := by
  unfold applyOverlay
  induction o generalizing t with
  | nil => simp
  | cons e o ih =>
    rw [List.foldl_cons, ih, applyEntry_eq, contains_modifyGroup, target_fst_eq_iff]
    simp only [List.mem_cons, exists_eq_or_imp, or_assoc]

theorem hasControl_applyOverlay (t : VisibilityTree) (o : Overlay) (group control : String) :
    (t.applyOverlay o).hasControl group control = true ↔
      t.hasControl group control = true ∨ ∃ e ∈ o, IsControl e.1 group control := by
  unfold applyOverlay
  induction o generalizing t with
  | nil => simp
  | cons e o ih =>
    rw [List.foldl_cons, ih, applyEntry_eq, hasControl_modifyGroup_mark, ← Prod.mk.injEq, Prod.eta,
      target_eq_control_iff]
    simp only [List.mem_cons, exists_eq_or_imp, or_assoc]

theorem contains_addControls (t : VisibilityTree) (name : String) (controls : List String)
    (group : String) (h : t.contains name = true ∨ controls ≠ []) :
    (t.addControls name controls).contains group = true ↔
      t.contains group = true ∨ name = group := by
  unfold addControls
  induction controls generalizing t with
  | nil =>
    have hname : t.contains name = true := h.resolve_right (by simp)
    rw [List.foldl_nil, or_iff_left_of_imp]
    rintro rfl
    exact hname
  | cons c controls ih =>
    have hname : (t.markControl name c true).contains name = true :=
      (contains_modifyGroup t name (Group.mark (some c) true) name).mpr (.inr rfl)
    have hgroup := contains_modifyGroup t name (Group.mark (some c) true) group
    rw [List.foldl_cons, ih _ (.inl hname)]
    change (t.modifyGroup name (Group.mark (some c) true)).contains group = true ∨ name = group ↔ _
    rw [hgroup, or_assoc, or_self]

theorem hasControl_addControls (t : VisibilityTree) (name : String) (controls : List String)
    (group control : String) :
    (t.addControls name controls).hasControl group control = true ↔
      t.hasControl group control = true ∨ name = group ∧ control ∈ controls := by
  unfold addControls
  induction controls generalizing t with
  | nil => simp
  | cons c controls ih =>
    have hmark := hasControl_modifyGroup_mark t name (some c) true group control
    rw [List.foldl_cons, ih]
    change (t.modifyGroup name (Group.mark (some c) true)).hasControl group control = true ∨ _ ↔ _
    rw [hmark, Option.some.injEq, or_assoc, ← and_or_left, List.mem_cons, eq_comm (a := c)]

theorem contains_addGroups (t : VisibilityTree) (groups : Dict (List String)) (group : String) :
    (groups.foldl (fun t e => (t.markGroup e.1 true).addControls e.1 e.2) t).contains group = true ↔
      t.contains group = true ∨ group ∈ groups.map Prod.fst := by
  induction groups generalizing t with
  | nil => simp
  | cons e groups ih =>
    have hmark (other : String) : (t.markGroup e.1 true).contains other = true ↔
        t.contains other = true ∨ e.1 = other :=
      contains_modifyGroup t e.1 (Group.mark none true) other
    have hadd := contains_addControls _ e.1 e.2 group (.inl ((hmark e.1).mpr (.inr rfl)))
    rw [List.foldl_cons, ih, hadd, hmark, or_assoc (c := e.1 = group), or_self, List.map_cons,
      List.mem_cons, or_assoc, eq_comm (a := e.1)]

theorem hasControl_addGroups (t : VisibilityTree) (groups : Dict (List String))
    (group control : String) :
    (groups.foldl (fun t e => (t.markGroup e.1 true).addControls e.1 e.2) t).hasControl group
      control = true ↔
      t.hasControl group control = true ∨ ∃ e ∈ groups, e.1 = group ∧ control ∈ e.2 := by
  induction groups generalizing t with
  | nil => simp
  | cons e groups ih =>
    have hmark : (t.markGroup e.1 true).hasControl group control = true ↔
        t.hasControl group control = true :=
      (hasControl_modifyGroup_mark t e.1 none true group control).trans (by simp)
    rw [List.foldl_cons, ih, hasControl_addControls, hmark]
    simp only [List.mem_cons, exists_eq_or_imp, or_assoc]

/-- Before any overlay the groups are the core group and those of the tag. -/
theorem contains_seed (tag : Option TagPolicy) (group : String) :
    (seed tag).contains group = true ↔ group = coreGroup ∨
      ∃ p ∈ tag, group ∈ p.styleGroups.map Prod.fst := by
  have hcore : (addControls [] coreGroup coreControls).contains group = true ↔
      group = coreGroup := by
    rw [contains_addControls _ _ _ _ (.inr (by decide)), eq_comm (a := group)]
    simp [Dict.contains]
  unfold seed
  cases tag with
  | none => simp [hcore]
  | some p => simp [contains_addGroups, hcore]

/-- Before any overlay the controls are the core ones and those of the tag. -/
theorem hasControl_seed (tag : Option TagPolicy) (group control : String) :
    (seed tag).hasControl group control = true ↔
      (group = coreGroup ∧ control ∈ coreControls) ∨ ∃ p ∈ tag, ∃ e ∈ p.styleGroups, e.1 = group ∧
        control ∈ e.2 := by
  have hcore : (addControls [] coreGroup coreControls).hasControl group control = true ↔
      group = coreGroup ∧ control ∈ coreControls := by
    rw [hasControl_addControls, eq_comm (a := group)]
    simp [hasControl, VisibilityTree.group, Dict.contains]
  unfold seed
  cases tag with
  | none => simp [hcore]
  | some p => simp [hasControl_addGroups, hcore]

/-! ### Overlays on the tree of a tag -/

/-- **Overlays hide exactly what they deny**: on the tree of a tag, or of none, a control is hidden
exactly if some entry of some overlay says `visible = false` for its group or for the control
itself. The groups and controls that are there are the core ones, those of the tag and those that
entries are for. So neither the order of the overlays counts nor how often each is applied, and no
overlay shows again what is hidden. -/
theorem overlays_hide_exactly (tag : Option TagPolicy) (os : List Overlay) :
    (∀ group control, ((seed tag).applyOverlays os).isVisible group control = false ↔
      ∃ o ∈ os, ∃ e ∈ o, e.2.visible = some false ∧
        (IsGroup e.1 group ∨ IsControl e.1 group control)) ∧
    (∀ group, ((seed tag).applyOverlays os).contains group = true ↔
      group = coreGroup ∨ (∃ p ∈ tag, group ∈ p.styleGroups.map Prod.fst) ∨
        ∃ o ∈ os, ∃ e ∈ o, IsGroup e.1 group ∨ ∃ control, IsControl e.1 group control) ∧
    (∀ group control, ((seed tag).applyOverlays os).hasControl group control = true ↔
      (group = coreGroup ∧ control ∈ coreControls) ∨
        (∃ p ∈ tag, ∃ e ∈ p.styleGroups, e.1 = group ∧ control ∈ e.2) ∨
        ∃ o ∈ os, ∃ e ∈ o, IsControl e.1 group control) ∧
    (∀ os' : List Overlay, os'.Perm os →
      (seed tag).applyOverlays os' = (seed tag).applyOverlays os) ∧
    (∀ o ∈ os, ((seed tag).applyOverlays os).applyOverlay o = (seed tag).applyOverlays os) ∧
    ∀ (o : Overlay) (group control),
      (((seed tag).applyOverlays os).applyOverlay o).isVisible group control = true →
      ((seed tag).applyOverlays os).isVisible group control = true := by
  have hentries (P : String × OverlayEntry → Prop) : (∃ e ∈ os.flatten, P e) ↔
      ∃ o ∈ os, ∃ e ∈ o, P e := by
    simp only [List.mem_flatten]
    exact ⟨fun ⟨e, ⟨o, ho, he⟩, h⟩ => ⟨o, ho, e, he, h⟩,
      fun ⟨o, ho, e, he, h⟩ => ⟨e, ⟨o, ho, he⟩, h⟩⟩
  refine ⟨fun group control => ?_, fun group => ?_, fun group control => ?_, fun os' hperm => ?_,
    fun o ho => ?_, fun o group control hvisible => ?_⟩
  · rw [applyOverlays_eq, ← Bool.not_eq_true, isVisible_applyOverlay, ← hentries]
    show _ ↔ ∃ e ∈ os.flatten, Denies e group control
    simp only [isVisible_seed, true_and, Classical.not_forall, Classical.not_not, exists_prop]
  · rw [applyOverlays_eq, contains_applyOverlay, contains_seed, hentries, or_assoc]
  · rw [applyOverlays_eq, hasControl_applyOverlay, hasControl_seed, hentries, or_assoc]
  · rw [applyOverlays_eq, applyOverlays_eq]
    exact applyOverlay_eq_of_mem_iff (fun e => hperm.flatten.mem_iff) _
  · have hagain : ((seed tag).applyOverlays os).applyOverlay o =
        (seed tag).applyOverlays (os ++ [o]) := by
      simp [applyOverlays]
    rw [hagain, applyOverlays_eq, applyOverlays_eq]
    refine applyOverlay_eq_of_mem_iff (fun e => ?_) _
    have hmem : e ∈ o → ∃ o' ∈ os, e ∈ o' := fun he => ⟨o, ho, he⟩
    simpa using hmem
  · exact ((isVisible_applyOverlay _ o group control).mp hvisible).1

/-- A control with a dot in its name is hidden, and a later overlay that shows the whole group does
not bring it back. -/
theorem overlays_hide_dotted :
    let hide : Overlay := [("box.font.size", { visible := some false }), ("grid", {})]
    let reveal : Overlay :=
      [("box", { visible := some true }), ("box.font.size", { visible := some true })]
    let t := (seed none).applyOverlays [hide, reveal]
    t.isVisible "box" "font.size" = false ∧ t.isVisible "box" "color" = true ∧
      t.contains "grid" = true ∧
      [reveal, hide].Perm [hide, reveal] ∧ (seed none).applyOverlays [reveal, hide] = t ∧
      hide ∈ [hide, reveal] ∧
      t.applyOverlay hide = t ∧ (t.applyOverlay reveal).isVisible "box" "color" = true := by
  intro hide reveal t
  obtain ⟨hvisible, hgroups, -, hperm, hself, hmono⟩ := overlays_hide_exactly none [hide, reveal]
  have hswap : [reveal, hide].Perm [hide, reveal] := .swap hide reveal []
  have hmem : hide ∈ [hide, reveal] := List.mem_cons_self
  have hcolor : (t.applyOverlay reveal).isVisible "box" "color" = true := by decide +kernel
  refine ⟨(hvisible "box" "font.size").mpr ?_, hmono reveal "box" "color" hcolor,
    (hgroups "grid").mpr ?_, hswap, hperm _ hswap, hmem, hself hide hmem, hcolor⟩
  · exact ⟨hide, hmem, _, List.mem_cons_self, rfl, .inr ⟨by decide, by decide⟩⟩
  · exact .inr (.inr ⟨hide, hmem, ("grid", {}), by simp [hide], .inl ⟨by decide, rfl⟩⟩)

end VisibilityTree
end Inspector
end PageBuilder
