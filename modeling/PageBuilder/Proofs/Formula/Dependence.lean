import PageBuilder.Formula.Eval

/-!
# What a formula depends on

A formula sees of a scope only what is found on the paths that it names, and of these only the ones
that start from the data, the node or the project (`eval_eq_of_paths`).
-/

namespace PageBuilder

/-- A property of all formulas is shown for each kind of formula, given that all its operands have
it. -/
@[elab_as_elim]
theorem Formula.induction {motive : Formula → Prop} (literal : ∀ v, motive (.literal v))
    (path : ∀ root keys, motive (.path root keys))
    (compare : ∀ op left right, motive left → motive right → motive (.compare op left right))
    (all : ∀ operands, (∀ x ∈ operands, motive x) → motive (.all operands))
    (any : ∀ operands, (∀ x ∈ operands, motive x) → motive (.any operands))
    (not : ∀ x, motive x → motive (.not x)) (x : Formula) : motive x :=
  Formula.rec (motive_2 := fun xs => ∀ x ∈ xs, motive x) literal path compare all any not nofun
    (fun _ _ hx hxs => List.forall_mem_cons.mpr ⟨hx, hxs⟩) x

namespace Formula

/-- The root is one of the three values in scope. -/
def Root.isBound : Root → Bool
  | .other _ => false
  | _ => true

mutual

/-- The paths in a formula, in their order. -/
def paths : Formula → List (Root × List String)
  | .literal _ => []
  | .path root keys => [(root, keys)]
  | .compare _ left right => paths left ++ paths right
  | .all operands => pathsOf operands
  | .any operands => pathsOf operands
  | .not x => paths x

/-- The paths in the operands of a chain. -/
def pathsOf : List Formula → List (Root × List String)
  | [] => []
  | x :: xs => paths x ++ pathsOf xs

end

theorem paths_subset_pathsOf {x : Formula} {xs : List Formula} (h : x ∈ xs) :
    x.paths ⊆ pathsOf xs := by
  induction xs with
  | nil => cases h
  | cons y ys ih =>
    rw [pathsOf]
    rcases List.mem_cons.mp h with rfl | h
    · exact List.subset_append_left _ _
    · exact List.Subset.trans (ih h) (List.subset_append_right _ _)

end Formula

/-- Two scopes have the same values on the paths that start from the data, the node or the project,
and lack the same ones. -/
def Scope.AgreeOn (s t : Scope) (paths : List (Formula.Root × List String)) : Prop :=
  ∀ p ∈ paths, p.1.isBound = true → s.lookup p.1 p.2 = t.lookup p.1 p.2

namespace Formula

variable {s t : Scope}

theorem decideAt_congr {xs : List Formula} (h : ∀ x ∈ xs, eval s x = eval t x) (stop : Bool)
    (last : Option Json) :
    decideAt s stop last xs = decideAt t stop last xs := by
  induction xs generalizing last with
  | nil => rfl
  | cons x xs ih =>
    obtain ⟨hx, hxs⟩ := List.forall_mem_cons.mp h
    simp only [decideAt, hx, ih hxs]

/-- Operands with the same values in two scopes make chains with the same values, wherever the
chains stop. -/
theorem eval_congr {x : Formula} (h : s.AgreeOn t x.paths) : eval s x = eval t x := by
  induction x using Formula.induction with
  | literal v => rfl
  | path root keys =>
    have hpath : root.isBound = true → s.lookup root keys = t.lookup root keys :=
      h (root, keys) List.mem_cons_self
    cases root with
    | other name => rfl
    | data | node | project => exact hpath rfl
  | compare op left right ihl ihr =>
    have hl : eval s left = eval t left := ihl fun p hp => h p (List.mem_append_left _ hp)
    have hr : eval s right = eval t right := ihr fun p hp => h p (List.mem_append_right _ hp)
    rw [eval, eval, hl, hr]
  | all xs ih | any xs ih =>
    have hxs : ∀ x ∈ xs, eval s x = eval t x := fun x hx => ih x hx fun p hp =>
      h p (paths_subset_pathsOf hx hp)
    rw [eval, eval, decideAt_congr hxs]
  | not x ih =>
    have hx : eval s x = eval t x := ih h
    rw [eval, eval, hx]

theorem gateOpen_congr {text : String} (h : ∀ x, parse text = .ok x → eval s x = eval t x) :
    gateOpen (some text) s = gateOpen (some text) t := by
  cases hparse : parse text with
  | ok x => simp only [gateOpen, holds, hparse, h x hparse]
  | error e => simp only [gateOpen, holds, hparse]

/-- **A formula depends on its paths only**: in two scopes that agree on the paths of a formula
which start from the data, the node or the project, it has the same value, and a gate with its text
is open in both or in none. Paths from any other root have no value, whatever is in scope. -/
theorem eval_eq_of_paths {x : Formula} (h : s.AgreeOn t x.paths) :
    eval s x = eval t x ∧
      (∀ text, parse text = .ok x → gateOpen (some text) s = gateOpen (some text) t) ∧
      ∀ (u : Scope) (name : String) (keys : List String),
        eval u (.path (.other name) keys) = none := by
  have heval : eval s x = eval t x := eval_congr h
  refine ⟨heval, fun text hparse => gateOpen_congr fun y hy => ?_, fun u name keys => rfl⟩
  obtain rfl := Except.ok.inj (hparse.symm.trans hy)
  exact heval

/-- Data that differ where a gate does not look, which also names a path from nowhere. -/
theorem eval_eq_of_paths_elsewhere :
    let s : Scope := { data := .object [("a", .bool true), ("b", .null)] }
    let t : Scope := { data := .object [("a", .bool true)], project := .string "p" }
    let x : Formula :=
      .any [.path (.other "b") ["a"], .not (.path .data ["c", "d"]), .path .data ["a"]]
    s.AgreeOn t x.paths ∧ eval s x = eval t x := by
  intro s t x
  have h : s.AgreeOn t x.paths := by
    intro p hp hbound
    simp only [x, paths, pathsOf, List.cons_append, List.nil_append, List.mem_cons,
      List.not_mem_nil, or_false] at hp
    rcases hp with rfl | rfl | rfl
    · cases hbound
    · rfl
    · rfl
  exact ⟨h, (eval_eq_of_paths h).1⟩

end Formula
end PageBuilder
