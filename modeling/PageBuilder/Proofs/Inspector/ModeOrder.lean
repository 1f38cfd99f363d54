import PageBuilder.Inspector.Capabilities
import PageBuilder.Proofs.Inspector.AllowedStyles
import PageBuilder.Proofs.Inspector.Visibility

/-!
# The modes of the inspector are ordered

From standard to template to expert mode, layers are left out and none are added. A layer can only
take away, so a freer mode offers at least as much and reports at most as much. What the general
lists and those of the tag say is the same in all modes.
-/

namespace PageBuilder
namespace Inspector

open Policy

/-! ### The order -/

namespace Mode

/-- How free a mode is. -/
def rank : Mode → Nat
  | standard => 0
  | template => 1
  | expert => 2

instance : LE Mode := ⟨fun m m' => m.rank ≤ m'.rank⟩

instance (m m' : Mode) : Decidable (m ≤ m') := inferInstanceAs (Decidable (m.rank ≤ m'.rank))

theorem usesComponent_of_le {m m' : Mode} (h : m ≤ m') (huses : m'.usesComponent = true) :
    m.usesComponent = true := by
  revert h huses
  cases m <;> cases m' <;> decide

theorem usesTemplate_of_le {m m' : Mode} (h : m ≤ m') (huses : m'.usesTemplate = true) :
    m.usesTemplate = true := by
  revert h huses
  cases m <;> cases m' <;> decide

end Mode

namespace Capabilities

variable {r : Registry} {n : Node} {m m' : Mode}

/-! ### The layers -/

theorem same_or_left_out {α : Type} {uses uses' : Bool} (h : uses' = true → uses = true)
    (layer : Option α) :
    (if uses' then layer else none) = (if uses then layer else none) ∨
      (if uses' then layer else none) = none := by
  cases huses : uses' with
  | false => exact .inr rfl
  | true =>
    left
    rw [h huses]

/-- In a freer mode the component policy is the same, or left out. -/
theorem componentPolicy?_of_le (r : Registry) (n : Node) (h : m ≤ m') :
    componentPolicy? r n m' = componentPolicy? r n m ∨ componentPolicy? r n m' = none :=
  same_or_left_out (Mode.usesComponent_of_le h) _

/-- In a freer mode the template filter is the same, or left out. -/
theorem filter?_of_le (r : Registry) (n : Node) (h : m ≤ m') :
    filter? r n m' = filter? r n m ∨ filter? r n m' = none :=
  same_or_left_out (Mode.usesTemplate_of_le h) _

theorem layers_subset (r : Registry) (n : Node) (h : m ≤ m') : layers r n m' ⊆ layers r n m := by
  unfold layers
  refine List.append_subset.mpr ⟨?_, ?_⟩
  · rcases componentPolicy?_of_le r n h with hsame | hnone
    · rw [hsame]
      exact List.subset_append_left _ _
    · rw [hnone]
      exact List.nil_subset _
  · rcases filter?_of_le r n h with hsame | hnone
    · rw [hsame]
      exact List.subset_append_right _ _
    · rw [hnone]
      exact List.nil_subset _

/-! ### What is offered -/

theorem isAllowed_mono (h : m ≤ m') {key : String} (hkey : (ofNode r n m).isAllowed key = true) :
    (ofNode r n m').isAllowed key = true := by
  have hmem : key ∈ allowedStyles r (resolveTag r n) (layers r n m) := of_decide_eq_true hkey
  exact decide_eq_true (allowedStyles_anti (layers_subset r n h) hmem)

theorem isVisible_mono (h : m ≤ m') {group control : String}
    (hvisible : (ofNode r n m).isVisible group control = true) :
    (ofNode r n m').isVisible group control = true := by
  unfold isVisible ofNode at hvisible ⊢
  rcases componentPolicy?_of_le r n h with hsame | hnone
  · rw [hsame]
    exact hvisible
  · rw [hnone]
    exact VisibilityTree.isVisible_seed _ group control

/-- What a template filter lets through is let through in a freer mode. -/
theorem filter_all_mono (h : m ≤ m') (test : Filter → Bool)
    (hall : (ofNode r n m).filter.all test = true) :
    (ofNode r n m').filter.all test = true := by
  unfold ofNode at hall ⊢
  rcases filter?_of_le r n h with hsame | hnone
  · rw [hsame]
    exact hall
  · rw [hnone]
    rfl

/-! ### What is reported -/

theorem checkStyle_eq_none_iff {c : Capabilities} {key : String} {v : Json} :
    c.checkStyle key v = none ↔
      c.isAllowed key = true ∧ ∀ spec, c.specs.get? key = some spec →
        spec.check key v = .ok () := by
  unfold checkStyle
  split
  next hallowed =>
    cases hspec : c.specs.get? key with
    | none => simp [hallowed]
    | some spec =>
      cases hcheck : spec.check key v with
      | ok u => simp [hallowed, hcheck]
      | error e => simp [hallowed, hcheck]
  next hallowed => simp [hallowed]

theorem checkStyle_anti (h : m ≤ m') {key : String} {v : Json}
    (hnone : (ofNode r n m).checkStyle key v = none) :
    (ofNode r n m').checkStyle key v = none := by
  rw [checkStyle_eq_none_iff] at hnone ⊢
  exact ⟨isAllowed_mono h hnone.1, hnone.2⟩

theorem mem_reported {c : Capabilities} {patch : Dict Json} {key : String} :
    key ∈ (c.checkPatch patch).map Prod.fst ↔ ∃ v, (key, v) ∈ patch ∧
      c.checkStyle key v ≠ none := by
  unfold checkPatch
  rw [List.mem_map]
  constructor
  · rintro ⟨⟨k, violation⟩, hmem, rfl⟩
    obtain ⟨⟨k', v⟩, hentry, hcheck⟩ := List.mem_filterMap.mp hmem
    obtain ⟨violation', hsome, hpair⟩ := Option.map_eq_some_iff.mp hcheck
    obtain ⟨rfl, rfl⟩ := Prod.mk.inj hpair
    exact ⟨v, hentry, by simp [hsome]⟩
  · rintro ⟨v, hentry, hcheck⟩
    obtain ⟨violation, hsome⟩ := Option.ne_none_iff_exists'.mp hcheck
    exact ⟨(key, violation), List.mem_filterMap.mpr ⟨(key, v), hentry, by simp [hsome]⟩, rfl⟩

theorem reported_anti (h : m ≤ m') {patch : Dict Json} {key : String}
    (hkey : key ∈ ((ofNode r n m').checkPatch patch).map Prod.fst) :
    key ∈ ((ofNode r n m).checkPatch patch).map Prod.fst := by
  rw [mem_reported] at hkey ⊢
  obtain ⟨v, hentry, hcheck⟩ := hkey
  exact ⟨v, hentry, fun hnone => hcheck (checkStyle_anti h hnone)⟩

end Capabilities

open Capabilities in
/-- **The modes are ordered**: whatever is allowed, visible or permitted in a mode is so in every
freer mode, and what a freer mode reports of a patch is reported. But no mode allows a style that
the general lists or those of the node's tag deny, and on a tag without a policy every mode allows
no style, section, attribute or event. -/
theorem modes_ordered (r : Registry) (n : Node) (patch : Dict Json) :
    Mode.standard ≤ .template ∧ Mode.standard ≤ .expert ∧ Mode.template ≤ .expert ∧
    (∀ m m' : Mode, m ≤ m' →
      (∀ key, (ofNode r n m).isAllowed key = true → (ofNode r n m').isAllowed key = true) ∧
      (∀ group control, (ofNode r n m).isVisible group control = true →
        (ofNode r n m').isVisible group control = true) ∧
      (∀ key, (ofNode r n m).allowsProp key = true → (ofNode r n m').allowsProp key = true) ∧
      (∀ kind, (ofNode r n m).allowsActionKind kind = true →
        (ofNode r n m').allowsActionKind kind = true) ∧
      (∀ kind, (ofNode r n m).allowsFlowKind kind = true →
        (ofNode r n m').allowsFlowKind kind = true) ∧
      ∀ key ∈ ((ofNode r n m').checkPatch patch).map Prod.fst,
        key ∈ ((ofNode r n m).checkPatch patch).map Prod.fst) ∧
    (∀ m key, IsDenied r (resolveTag r n) key → (ofNode r n m).isAllowed key = false) ∧
    (r.tag? (resolveTag r n) = none → ∀ m name,
      (ofNode r n m).isAllowed name = false ∧ (ofNode r n m).isSectionAllowed name = false ∧
        (ofNode r n m).allowsAttribute name = false ∧ (ofNode r n m).allowsEvent name = false) := by
  refine ⟨by decide, by decide, by decide, fun m m' h => ⟨?_, ?_, ?_, ?_, ?_, ?_⟩, ?_, ?_⟩
  · intro key hkey
    exact isAllowed_mono h hkey
  · intro group control hvisible
    exact isVisible_mono h hvisible
  · intro key hkey
    exact filter_all_mono h _ hkey
  · intro kind hkind
    exact filter_all_mono h _ hkind
  · intro kind hkind
    exact filter_all_mono h _ hkind
  · intro key hkey
    exact reported_anti h hkey
  · intro m key hdenied
    exact decide_eq_false (not_mem_allowedStyles_of_isDenied hdenied)
  · intro hunknown m name
    have hstyle : name ∉ allowedStyles r (resolveTag r n) (layers r n m) := by
      rw [allowedStyles_of_unknown hunknown]
      exact NameSet.not_mem_empty name
    have hpolicy : ∀ test, (ofNode r n m).tagPolicy.any test = false := by
      intro test
      have hnone : (ofNode r n m).tagPolicy = none := hunknown
      rw [hnone]
      rfl
    exact ⟨decide_eq_false hstyle, hpolicy _, hpolicy _, hpolicy _⟩

open Capabilities in
/-- The component policy hides a control, the template takes a style away, and the general list
denies one in every mode. -/
theorem modes_of_card :
    let r : Registry := {
      styles := { deny := ["zIndex"] }
      tags := [("div", { styleGroups := [("box", ["color", "width", "zIndex"])] })]
      componentPolicies := [("card", { inspector := [("box.width", { visible := some false })] })]
      templates := [("hero", { inspector := { styles := { deny := .ofList ["color"] } } })] }
    let n : Node := { id := "n", component := "card", template := some "hero" }
    (ofNode r n .standard).isVisible "box" "width" = false ∧
      (ofNode r n .template).isVisible "box" "width" = true ∧
      (ofNode r n .expert).isVisible "box" "width" = true ∧
      (ofNode r n .standard).isAllowed "width" = true ∧
      (ofNode r n .expert).isAllowed "width" = true ∧
      "color" ∈ ((ofNode r n .standard).checkPatch [("color", .null)]).map Prod.fst ∧
      ∀ m, (ofNode r n m).isAllowed "zIndex" = false := by
  intro r n
  obtain ⟨hfirst, -, hsecond, hmono, hdenied, -⟩ := modes_ordered r n [("color", .null)]
  obtain ⟨hallowed, -, -, -, -, hreported⟩ := hmono _ _ hfirst
  obtain ⟨hallowed', hvisible, -⟩ := hmono _ _ hsecond
  have hwidth : (ofNode r n .standard).isAllowed "width" = true := by decide +kernel
  have htemplate : (ofNode r n .template).isVisible "box" "width" = true := by decide +kernel
  refine ⟨by decide +kernel, htemplate, hvisible _ _ htemplate, hwidth,
    hallowed' _ (hallowed _ hwidth), hreported _ (by decide +kernel), fun m =>
      hdenied m _ (.inl (by simp [r]))⟩

end Inspector
end PageBuilder
