import PageBuilder.Inspector.Capabilities
import PageBuilder.Program.Files

/-!
# References between policies

A registry is accepted if the tags that its components name have policies and the components that
its policies are for are declared (`checkReferences_eq_ok_iff`); otherwise the first tag without a
policy is reported, and without one the first undeclared component
(`checkReferences_eq_unknownTag_iff`, `checkReferences_eq_unknownComponent_iff`). So the default tag
of a component always has a policy in a registry that has been loaded.
-/

namespace PageBuilder

section

variable {α β : Type} {look : α → Option β} {xs : List α} {x : α}

/-- The first member of a list for which nothing is found. -/
def FirstWithout (look : α → Option β) (xs : List α) (x : α) : Prop :=
  ∃ before after, xs = before ++ x :: after ∧ (∀ y ∈ before, (look y).isSome = true) ∧ look x = none

theorem find?_without_eq_none_iff :
    (xs.find? fun x => !(look x).isSome) = none ↔ ∀ x ∈ xs, (look x).isSome = true := by
  simp only [List.find?_eq_none, Bool.not_eq_true, Bool.not_eq_false']

theorem find?_without_eq_some_iff :
    (xs.find? fun x => !(look x).isSome) = some x ↔ FirstWithout look xs x := by
  rw [List.find?_eq_some_iff_append]
  simp only [Bool.not_not, Bool.not_eq_true', Option.isSome_eq_false_iff, Option.isNone_iff_eq_none]
  constructor
  · rintro ⟨hnone, before, after, hsplit, hbefore⟩
    exact ⟨before, after, hsplit, hbefore, hnone⟩
  · rintro ⟨before, after, hsplit, hbefore, hnone⟩
    exact ⟨hnone, before, after, hsplit, hbefore⟩

end

namespace Policy
namespace Registry

variable {r : Registry}

/-- Every tag that a component names, in its list or as the default, has a policy. -/
def Covers (r : Registry) (c : Component) : Prop :=
  ∀ tag ∈ c.tags ++ c.defaultTag.toList, (r.tag? tag).isSome = true

/-- The first tag that a component names without a policy; the default tag comes last. -/
def FirstMissing (r : Registry) (c : Component) (tag : String) : Prop :=
  FirstWithout r.tag? (c.tags ++ c.defaultTag.toList) tag

theorem missingTag?_eq_none_iff {c : Component} : r.missingTag? c = none ↔ r.Covers c :=
  find?_without_eq_none_iff

theorem missingTag?_eq_some_iff {c : Component} {tag : String} :
    r.missingTag? c = some tag ↔ r.FirstMissing c tag :=
  find?_without_eq_some_iff

/-! ### The two searches -/

/-- The component with the first tag without a policy, and that tag. -/
def firstMissing? (r : Registry) : Option (String × String) :=
  r.components.findSome? fun e => (r.missingTag? e.2).map fun tag => (e.1, tag)

/-- The first component policy for a component that is not declared. -/
def firstUndeclared? (r : Registry) : Option (String × ComponentPolicy) :=
  r.componentPolicies.find? fun e => !r.components.contains e.1

theorem firstMissing?_eq_none_iff : r.firstMissing? = none ↔ ∀ e ∈ r.components, r.Covers e.2 := by
  simp only [firstMissing?, List.findSome?_eq_none_iff, Option.map_eq_none_iff,
    missingTag?_eq_none_iff]

theorem firstMissing?_eq_some_iff {id tag : String} :
    r.firstMissing? = some (id, tag) ↔
      ∃ before c after, r.components = before ++ (id, c) :: after ∧ (∀ e ∈ before, r.Covers e.2) ∧
        r.FirstMissing c tag := by
  rw [firstMissing?, List.findSome?_eq_some_iff]
  constructor
  · rintro ⟨before, e, after, hsplit, hfound, hbefore⟩
    obtain ⟨found, htag, hpair⟩ := Option.map_eq_some_iff.mp hfound
    obtain ⟨rfl, rfl⟩ := Prod.mk.inj hpair
    exact ⟨before, e.2, after, hsplit,
      fun e' he' => missingTag?_eq_none_iff.mp (Option.map_eq_none_iff.mp (hbefore e' he')),
      missingTag?_eq_some_iff.mp htag⟩
  · rintro ⟨before, c, after, hsplit, hbefore, htag⟩
    refine ⟨before, (id, c), after, hsplit, ?_, fun e' he' => ?_⟩
    · rw [missingTag?_eq_some_iff.mpr htag]
      rfl
    · rw [missingTag?_eq_none_iff.mpr (hbefore e' he')]
      rfl

theorem firstUndeclared?_eq_none_iff :
    r.firstUndeclared? = none ↔ ∀ e ∈ r.componentPolicies, (r.component? e.1).isSome = true :=
  find?_without_eq_none_iff

theorem firstUndeclared?_eq_some_iff {e : String × ComponentPolicy} :
    r.firstUndeclared? = some e ↔ FirstWithout (fun e => r.component? e.1) r.componentPolicies e :=
  find?_without_eq_some_iff

theorem checkReferences_eq (r : Registry) :
    r.checkReferences =
      match r.firstMissing?, r.firstUndeclared? with
      | some (component, tag), _ => .error (.unknownTag component tag)
      | none, some (component, _) => .error (.unknownComponent component)
      | none, none => .ok () := by
  unfold checkReferences firstMissing? firstUndeclared?
  split
  case h_1 component tag hmissing => rw [hmissing]
  case h_2 hmissing =>
    rw [hmissing]
    split
    case h_1 component policy hundeclared => rw [hundeclared]
    case h_2 hundeclared => rw [hundeclared]

/-! ### What is reported -/

theorem checkReferences_eq_ok_iff :
    r.checkReferences = .ok () ↔
      (∀ e ∈ r.components, r.Covers e.2) ∧ ∀ e ∈ r.componentPolicies,
        (r.component? e.1).isSome = true := by
  rw [← firstMissing?_eq_none_iff, ← firstUndeclared?_eq_none_iff, checkReferences_eq]
  cases r.firstMissing? <;> cases r.firstUndeclared? <;> simp

theorem checkReferences_eq_unknownTag_iff {id tag : String} :
    r.checkReferences = .error (.unknownTag id tag) ↔
      ∃ before c after, r.components = before ++ (id, c) :: after ∧ (∀ e ∈ before, r.Covers e.2) ∧
        r.FirstMissing c tag := by
  rw [← firstMissing?_eq_some_iff, checkReferences_eq]
  cases r.firstMissing? <;> cases r.firstUndeclared? <;> simp [Prod.ext_iff]

theorem checkReferences_eq_unknownComponent_iff {id : String} :
    r.checkReferences = .error (.unknownComponent id) ↔
      (∀ e ∈ r.components, r.Covers e.2) ∧
        ∃ policy, FirstWithout (fun e => r.component? e.1) r.componentPolicies (id, policy) := by
  simp only [← firstMissing?_eq_none_iff, ← firstUndeclared?_eq_some_iff, checkReferences_eq]
  cases r.firstMissing? <;> cases r.firstUndeclared? <;> simp [Prod.ext_iff]

/-- Nothing else is reported. -/
theorem checkReferences_error_cases {e : Error} (h : r.checkReferences = .error e) :
    (∃ id tag, e = .unknownTag id tag) ∨ ∃ id, e = .unknownComponent id := by
  rw [checkReferences_eq] at h
  split at h
  · exact .inl ⟨_, _, (Except.error.inj h).symm⟩
  · exact .inr ⟨_, (Except.error.inj h).symm⟩
  · cases h

/-! ### What is loaded -/

/-- A text is accepted if it holds a registry and all references are good. -/
theorem ofText_eq_ok_iff {f : Format} {text : String} :
    ofText f text = .ok r ↔ f.read text = .ok r ∧ r.checkReferences = .ok () := by
  cases hread : (f.read text : Except Failure Registry) with
  | error e => simp [ofText, hread, bind, Except.bind]
  | ok r' =>
    have hchecked : ofText f text =
        (do (r'.checkReferences).mapError Failure.policy; return r') := by
      rw [ofText, hread]
      rfl
    rw [hchecked, Except.ok.injEq]
    cases hcheck : r'.checkReferences with
    | error e =>
      constructor
      · intro h
        cases h
      · rintro ⟨rfl, hok⟩
        cases hcheck.symm.trans hok
    | ok u =>
      constructor
      · intro h
        cases h
        exact ⟨rfl, hcheck⟩
      · rintro ⟨rfl, -⟩
        rfl

theorem checkReferences_builtin : checkReferences builtin = .ok () := rfl

theorem checkReferences_of_load {files : Files} {path : Option String}
    (h : load files path = .ok r) :
    r.checkReferences = .ok () := by
  cases path with
  | none =>
    obtain rfl : builtin = r := Except.ok.inj h
    exact checkReferences_builtin
  | some path =>
    cases hread : files.read path with
    | error e =>
      rw [load, hread] at h
      cases h
    | ok text =>
      rw [load, hread] at h
      exact (ofText_eq_ok_iff.mp h).2

/-- With good references, a node that names no tag itself gets the default tag of its component,
which has a policy. -/
theorem tag?_resolveTag (h : r.checkReferences = .ok ()) {n : Node} {c : Component} {tag : String}
    (hown : n.tagOverride? = none) (hcomponent : r.component? n.component = some c)
    (hdefault : c.defaultTag = some tag) :
    Inspector.resolveTag r n = tag ∧ ∃ policy, r.tag? tag = some policy := by
  have hmem : (n.component, c) ∈ r.components := Dict.mem_of_get?_eq_some hcomponent
  have hnamed : tag ∈ c.tags ++ c.defaultTag.toList :=
    List.mem_append_right _ (by rw [hdefault]; exact List.mem_singleton_self _)
  refine ⟨?_, Option.isSome_iff_exists.mp ((checkReferences_eq_ok_iff.mp h).1 _ hmem tag hnamed)⟩
  rw [Inspector.resolveTag, hown, hcomponent, Option.bind_some, hdefault, Option.getD_some]

/-- **References are declared**: a registry passes the check if every tag that a component names has
a policy and every component policy is for a declared component. Otherwise the first component, in
the order of the keys, with a tag that has no policy is reported with the first such tag, the
default tag coming last; and if there is none, the first component policy for an undeclared
component. So in a registry that has been loaded, a node that names no tag itself, and whose
component has a default tag, gets that tag in every mode, and the tag has a policy. -/
theorem references_declared :
    (∀ r : Registry,
      (r.checkReferences = .ok () ↔
        (∀ e ∈ r.components, r.Covers e.2) ∧ ∀ e ∈ r.componentPolicies,
          (r.component? e.1).isSome = true) ∧
      (∀ id tag, r.checkReferences = .error (.unknownTag id tag) ↔ ∃ before c after,
        r.components = before ++ (id, c) :: after ∧ (∀ e ∈ before, r.Covers e.2) ∧
          r.FirstMissing c tag) ∧
      (∀ id, r.checkReferences = .error (.unknownComponent id) ↔
        (∀ e ∈ r.components, r.Covers e.2) ∧
        ∃ policy, FirstWithout (fun e => r.component? e.1) r.componentPolicies (id, policy)) ∧
      (∀ e, r.checkReferences = .error e → (∃ id tag, e = .unknownTag id tag) ∨
        ∃ id, e = .unknownComponent id) ∧
      (Dict.Ascending r.components → ∀ id tag, r.checkReferences = .error (.unknownTag id tag) →
        ∀ e ∈ r.components, e.1 < id → r.Covers e.2) ∧
      (Dict.Ascending r.componentPolicies →
        ∀ id, r.checkReferences = .error (.unknownComponent id) →
        ∀ e ∈ r.componentPolicies, e.1 < id → (r.component? e.1).isSome = true)) ∧
    ∀ r, (∃ f text, ofText f text = .ok r) ∨ (∃ files path, load files path = .ok r) →
      ∀ (n : Node) (c : Component) (tag : String), n.tagOverride? = none →
        r.component? n.component = some c →
        c.defaultTag = some tag → Inspector.resolveTag r n = tag ∧ ∃ policy,
          r.tag? tag = some policy ∧
          ∀ mode, (Inspector.Capabilities.ofNode r n mode).tag = tag ∧
            (Inspector.Capabilities.ofNode r n mode).tagPolicy = some policy := by
  refine ⟨fun r => ⟨checkReferences_eq_ok_iff, fun _ _ => checkReferences_eq_unknownTag_iff,
    fun _ => checkReferences_eq_unknownComponent_iff, fun _ => checkReferences_error_cases, ?_, ?_⟩,
      ?_⟩
  · intro hascending id tag herror e he hlt
    obtain ⟨before, c, after, hsplit, hbefore, -⟩ := checkReferences_eq_unknownTag_iff.mp herror
    rw [hsplit] at hascending he
    exact hbefore e (Dict.mem_left_of_lt hascending he hlt)
  · intro hascending id herror e he hlt
    obtain ⟨-, policy, before, after, hsplit, hbefore, -⟩ :=
      checkReferences_eq_unknownComponent_iff.mp herror
    rw [hsplit] at hascending he
    exact hbefore e (Dict.mem_left_of_lt hascending he hlt)
  · intro r hloaded n c tag hown hcomponent hdefault
    have hcheck : r.checkReferences = .ok () := by
      rcases hloaded with ⟨f, text, htext⟩ | ⟨files, path, hload⟩
      · exact (ofText_eq_ok_iff.mp htext).2
      · exact checkReferences_of_load hload
    obtain ⟨hresolve, policy, hpolicy⟩ := tag?_resolveTag hcheck hown hcomponent hdefault
    refine ⟨hresolve, policy, hpolicy, fun mode => ?_⟩
    simp only [Inspector.Capabilities.ofNode, hresolve, hpolicy, and_self]

/-- A registry in which a default tag has no policy, and one that is loaded from a text, with a
button whose own tag is empty. -/
theorem references_declared_button :
    let box : Component := { tags := ["div"] }
    let r : Registry :=
      { tags := [("div", {})],
        components := [("Box", box), ("Card", { tags := ["div"], defaultTag := some "lost" })] }
    let text := "\x7b\"tags\": \x7b\"button\": \x7b\x7d\x7d, " ++
      "\"components\": \x7b\"Button\": \x7b\"defaultTag\": \"button\"\x7d\x7d\x7d"
    let n : Node := { id := "n", component := "Button", props := [("tag", .string "")] }
    Dict.Ascending r.components ∧ r.checkReferences = .error (.unknownTag "Card" "lost") ∧
      r.Covers box ∧ n.tagOverride? = none ∧
      ∃ r' c policy, ofText .json text = .ok r' ∧ r'.component? n.component = some c ∧
        c.defaultTag = some "button" ∧ Inspector.resolveTag r' n = "button" ∧
        (Inspector.Capabilities.ofNode r' n .expert).tagPolicy = some policy := by
  intro box r text n
  obtain ⟨hchecks, hloaded⟩ := references_declared
  obtain ⟨-, -, -, -, hfirst, -⟩ := hchecks r
  have hascending : Dict.Ascending r.components := by decide
  have herror : r.checkReferences = .error (.unknownTag "Card" "lost") := rfl
  have hbox : r.Covers box :=
    hfirst hascending "Card" "lost" herror ("Box", box) List.mem_cons_self (by decide)
  have hown : n.tagOverride? = none := by decide
  have hbutton : ((ofText .json text).toOption.bind fun r =>
      (r.component? n.component).bind Component.defaultTag) =
      some "button" := by decide +kernel
  obtain ⟨r', htext, hdefault⟩ := Option.bind_eq_some_iff.mp hbutton
  obtain ⟨c, hc, hdefault⟩ := Option.bind_eq_some_iff.mp hdefault
  have htext : ofText .json text = .ok r' := by
    cases hread : ofText .json text with
    | error e =>
      rw [hread] at htext
      cases htext
    | ok read =>
      rw [hread] at htext
      rw [Option.some.inj htext]
  obtain ⟨hresolve, policy, -, hmodes⟩ :=
    hloaded r' (.inl ⟨_, _, htext⟩) n c "button" hown hc hdefault
  exact ⟨hascending, herror, hbox, hown, r', c, policy, htext, hc, hdefault, hresolve,
    (hmodes .expert).2⟩

end Registry
end Policy
end PageBuilder
