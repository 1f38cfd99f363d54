import PageBuilder.Inspector.VisibilityTree

/-!
# What marking does to visibility

Marking a group or a control can only hide, and hides nothing but what is marked. So all is visible
in the tree of a tag.
-/

namespace PageBuilder
namespace Inspector
namespace VisibilityTree

open Policy

theorem group_insert (t : VisibilityTree) (name : String) (g : Group) (other : String) :
    VisibilityTree.group (Dict.insert name g t) other =
      if name = other then g else t.group other := by
  unfold group
  rw [Dict.get?_insert]
  split <;> rfl

theorem isVisible_markGroup (t : VisibilityTree) (name : String) (visible : Bool)
    (other control : String) :
    (t.markGroup name visible).isVisible other control =
      (t.isVisible other control && (visible || name != other)) := by
  unfold isVisible markGroup
  rw [group_insert]
  by_cases hname : name = other
  · subst hname
    cases visible <;> simp
  · simp [hname]

theorem isVisible_markControl (t : VisibilityTree) (name control : String) (visible : Bool)
    (other key : String) :
    (t.markControl name control visible).isVisible other key =
      (t.isVisible other key && (visible || name != other || control != key)) := by
  unfold isVisible markControl
  rw [group_insert]
  by_cases hname : name = other
  · subst hname
    by_cases hcontrol : control = key
    · subst hcontrol
      cases visible <;> simp
    · simp [Dict.get?_insert, hcontrol]
  · simp [hname]

theorem isVisible_addControls (t : VisibilityTree) (name : String) (controls : List String)
    (other key : String) :
    (t.addControls name controls).isVisible other key = t.isVisible other key := by
  unfold addControls
  induction controls generalizing t with
  | nil => rfl
  | cons c controls ih =>
    rw [List.foldl_cons, ih, isVisible_markControl, Bool.true_or, Bool.true_or, Bool.and_true]

theorem isVisible_addGroups (t : VisibilityTree) (groups : Dict (List String))
    (other key : String) :
    (groups.foldl (fun t e => (t.markGroup e.1 true).addControls e.1 e.2) t).isVisible other key =
      t.isVisible other key := by
  induction groups generalizing t with
  | nil => rfl
  | cons e groups ih =>
    rw [List.foldl_cons, ih, isVisible_addControls, isVisible_markGroup, Bool.true_or,
      Bool.and_true]

/-- All is visible before any overlay. -/
theorem isVisible_seed (tag : Option TagPolicy) (name control : String) :
    (seed tag).isVisible name control = true := by
  have hcore : (addControls [] coreGroup coreControls).isVisible name control = true := by
    rw [isVisible_addControls]
    rfl
  unfold seed
  cases tag with
  | none => exact hcore
  | some p => exact (isVisible_addGroups _ p.styleGroups name control).trans hcore

end VisibilityTree
end Inspector
end PageBuilder
