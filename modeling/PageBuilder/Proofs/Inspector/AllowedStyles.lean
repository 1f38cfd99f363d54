import PageBuilder.Inspector.AllowedStyles

/-!
# Which styles a tag may use

The key `size` is added before the layers narrow the set and dropped after it, so the set is not the
result of one filter. It is described here key by key: a key must be granted by some list, denied by
none, and let through by every layer; `size` need not be granted, but must have a dimension beside
it in the result.
-/

namespace PageBuilder
namespace Inspector

open Policy

/-- A group of the tag names the key, or the general list, the list for the tag or the tag's own
list allows it. -/
def IsGranted (r : Registry) (tag : String) (t : TagPolicy) (key : String) : Prop :=
  (∃ group ∈ t.styleGroups, key ∈ group.2) ∨ key ∈ r.styles.allow ∨
    (∃ lists ∈ r.styles.perTag.get? tag, key ∈ lists.allow) ∨ ∃ lists ∈ t.styles, key ∈ lists.allow

/-- The general list, the list for the tag or the tag's own list denies the key. -/
def IsDenied (r : Registry) (tag key : String) : Prop :=
  key ∈ r.styles.deny ∨ (∃ lists ∈ r.styles.perTag.get? tag, key ∈ lists.deny) ∨
    ∃ t ∈ r.tag? tag, ∃ lists ∈ t.styles, key ∈ lists.deny

variable {r : Registry} {tag key : String} {t : TagPolicy} {layers layers' : List Narrowing}
    {keys : NameSet}

/-! ### The lists -/

theorem mem_elim_iff {lists : Option StyleLists} {side : StyleLists → List String} :
    key ∈ lists.elim [] side ↔ ∃ l ∈ lists, key ∈ side l := by
  cases lists <;> simp

theorem mem_granted : key ∈ granted r.styles tag t ↔ IsGranted r tag t key := by
  unfold granted IsGranted TagPolicy.groupKeys
  rw [List.mem_append, List.mem_append, List.mem_append, List.mem_flatMap, mem_elim_iff,
    mem_elim_iff, or_assoc, or_assoc]

theorem mem_denied (ht : r.tag? tag = some t) :
    key ∈ denied r.styles tag t layers ↔ IsDenied r tag key ∨ ∃ n ∈ layers, key ∈ n.deny := by
  unfold denied IsDenied
  rw [List.mem_append, List.mem_append, List.mem_append, List.mem_flatMap, mem_elim_iff,
    mem_elim_iff, ht]
  simp [NameSet.mem_iff, or_assoc]

/-- A layer does not let through what it denies, so the denials of the layers need not be asked for
twice. -/
theorem not_mem_denied_and_permits (ht : r.tag? tag = some t) :
    (key ∉ denied r.styles tag t layers ∧ ∀ n ∈ layers, n.permits key) ↔
      ¬ IsDenied r tag key ∧ ∀ n ∈ layers, n.permits key := by
  rw [mem_denied ht]
  constructor
  · rintro ⟨hout, hlayers⟩
    exact ⟨fun hdenied => hout (.inl hdenied), hlayers⟩
  · rintro ⟨hout, hlayers⟩
    refine ⟨fun hdenied => ?_, hlayers⟩
    rcases hdenied with hdenied | ⟨n, hn, hdenied⟩
    · exact hout hdenied
    · have hpermits := hlayers n hn
      simp [Narrowing.permits, hdenied] at hpermits

/-! ### The passes -/

theorem hasDimension_iff : hasDimension keys = true ↔ "width" ∈ keys ∨ "height" ∈ keys := by
  simp [hasDimension]

theorem mem_withSize {out : List String} :
    key ∈ withSize out keys ↔ key ∈ keys ∨
      (key = sizeKey ∧ hasDimension keys = true ∧ sizeKey ∉ out) := by
  unfold withSize
  split
  next h =>
    obtain ⟨hdimension, hout⟩ : hasDimension keys = true ∧ sizeKey ∉ out := by simpa using h
    rw [NameSet.mem_insert, or_comm]
    simp [hdimension, hout]
  next h =>
    have hout : ¬ (hasDimension keys = true ∧ sizeKey ∉ out) := by simpa using h
    simp only [hout, and_false, or_false]

theorem mem_narrow : key ∈ narrow layers keys ↔ key ∈ keys ∧ ∀ n ∈ layers, n.permits key := by
  unfold narrow
  induction layers generalizing keys with
  | nil => simp
  | cons n layers ih =>
    rw [List.foldl_cons, ih, NameSet.mem_filter, List.forall_mem_cons, and_assoc]

theorem mem_withoutLoneSize :
    key ∈ withoutLoneSize keys ↔ key ∈ keys ∧ (key = sizeKey → hasDimension keys = true) := by
  unfold withoutLoneSize
  split
  next h => simp [h]
  next h =>
    rw [NameSet.mem_filter]
    simp [h]

/-! ### The set -/

/-- The keys that some list grants and nothing denies. -/
def offered (r : Registry) (tag : String) (t : TagPolicy) (layers : List Narrowing) : NameSet :=
  (NameSet.ofList (granted r.styles tag t)).filter fun k =>
    !(denied r.styles tag t layers).contains k

/-- What every layer lets through, before a lone `size` is dropped. -/
def narrowed (r : Registry) (tag : String) (t : TagPolicy) (layers : List Narrowing) : NameSet :=
  narrow layers (withSize (denied r.styles tag t layers) (offered r tag t layers))

theorem allowedStyles_of_unknown (h : r.tag? tag = none) : allowedStyles r tag layers = .empty := by
  unfold allowedStyles
  rw [h]

theorem allowedStyles_of_known (ht : r.tag? tag = some t) :
    allowedStyles r tag layers = withoutLoneSize (narrowed r tag t layers) := by
  unfold allowedStyles narrowed offered
  rw [ht]

theorem mem_offered :
    key ∈ offered r tag t layers ↔ IsGranted r tag t key ∧ key ∉ denied r.styles tag t layers := by
  unfold offered
  rw [NameSet.mem_filter, NameSet.mem_ofList, mem_granted]
  simp

/-- Every key but `size` goes through the passes on its own. -/
theorem mem_narrowed_of_ne (ht : r.tag? tag = some t) (hkey : key ≠ sizeKey) :
    key ∈ narrowed r tag t layers ↔ IsGranted r tag t key ∧ ¬ IsDenied r tag key ∧ ∀ n ∈ layers,
      n.permits key := by
  unfold narrowed
  rw [mem_narrow, mem_withSize, mem_offered]
  simp only [hkey, false_and, or_false]
  rw [and_assoc, not_mem_denied_and_permits ht]

theorem mem_allowedStyles_of_ne (ht : r.tag? tag = some t) (hkey : key ≠ sizeKey) :
    key ∈ allowedStyles r tag layers ↔ IsGranted r tag t key ∧ ¬ IsDenied r tag key ∧ ∀ n ∈ layers,
      n.permits key := by
  rw [allowedStyles_of_known ht, mem_withoutLoneSize, mem_narrowed_of_ne ht hkey]
  simp [hkey]

/-- A dimension in the result was there before the layers, so `size` had been put beside it. -/
theorem hasDimension_offered (h : hasDimension (narrowed r tag t layers) = true) :
    hasDimension (offered r tag t layers) = true := by
  have hkept : ∀ key ≠ sizeKey, key ∈ narrowed r tag t layers → key ∈ offered r tag t layers := by
    intro key hkey hmem
    unfold narrowed at hmem
    rw [mem_narrow, mem_withSize] at hmem
    simpa [hkey] using hmem.1
  rw [hasDimension_iff] at h ⊢
  exact h.imp (hkept _ (by decide)) (hkept _ (by decide))

theorem sizeKey_mem_allowedStyles (ht : r.tag? tag = some t) :
    sizeKey ∈ allowedStyles r tag layers ↔ ¬ IsDenied r tag sizeKey ∧
      (∀ n ∈ layers, n.permits sizeKey) ∧
      ("width" ∈ allowedStyles r tag layers ∨ "height" ∈ allowedStyles r tag layers) := by
  have hdimension : hasDimension (narrowed r tag t layers) = true ↔
      "width" ∈ allowedStyles r tag layers ∨ "height" ∈ allowedStyles r tag layers := by
    rw [hasDimension_iff, mem_narrowed_of_ne ht (by decide), mem_narrowed_of_ne ht (by decide),
      mem_allowedStyles_of_ne ht (by decide), mem_allowedStyles_of_ne ht (by decide)]
  rw [← hdimension, ← and_assoc, ← not_mem_denied_and_permits ht, allowedStyles_of_known ht,
    mem_withoutLoneSize]
  constructor
  · rintro ⟨hsize, hdim⟩
    unfold narrowed at hsize
    rw [mem_narrow, mem_withSize, mem_offered] at hsize
    obtain ⟨⟨-, hout⟩ | ⟨-, -, hout⟩, hlayers⟩ := hsize
    · exact ⟨⟨hout, hlayers⟩, hdim rfl⟩
    · exact ⟨⟨hout, hlayers⟩, hdim rfl⟩
  · rintro ⟨⟨hout, hlayers⟩, hdim⟩
    refine ⟨?_, fun _ => hdim⟩
    unfold narrowed
    rw [mem_narrow, mem_withSize]
    exact ⟨.inr ⟨rfl, hasDimension_offered hdim, hout⟩, hlayers⟩

/-- More layers allow no more keys. -/
theorem allowedStyles_anti (h : layers ⊆ layers') (hkey : key ∈ allowedStyles r tag layers') :
    key ∈ allowedStyles r tag layers := by
  cases ht : r.tag? tag with
  | none =>
    rw [allowedStyles_of_unknown ht] at hkey
    exact absurd hkey (NameSet.not_mem_empty key)
  | some t =>
    have hother : ∀ k ≠ sizeKey, k ∈ allowedStyles r tag layers' →
        k ∈ allowedStyles r tag layers := by
      intro k hk hmem
      rw [mem_allowedStyles_of_ne ht hk] at hmem ⊢
      obtain ⟨hgranted, hdenied, hlayers⟩ := hmem
      exact ⟨hgranted, hdenied, fun n hn => hlayers n (h hn)⟩
    by_cases hsize : key = sizeKey
    · subst hsize
      rw [sizeKey_mem_allowedStyles ht] at hkey ⊢
      obtain ⟨hdenied, hlayers, hdimension⟩ := hkey
      refine ⟨hdenied, fun n hn => hlayers n (h hn), ?_⟩
      exact hdimension.imp (hother _ (by decide)) (hother _ (by decide))
    · exact hother key hsize hkey

/-- A denial is final. -/
theorem not_mem_allowedStyles_of_isDenied (h : IsDenied r tag key) :
    key ∉ allowedStyles r tag layers := by
  intro hkey
  cases ht : r.tag? tag with
  | none =>
    rw [allowedStyles_of_unknown ht] at hkey
    exact NameSet.not_mem_empty key hkey
  | some t =>
    by_cases hsize : key = sizeKey
    · subst hsize
      exact ((sizeKey_mem_allowedStyles ht).mp hkey).1 h
    · exact ((mem_allowedStyles_of_ne ht hsize).mp hkey).2.1 h

/-- **The allowed set, key by key**: a tag without a policy may use nothing. With one, a key is
allowed exactly if some list grants it, none denies it and every layer lets it through; `size` needs
no grant but a dimension in the set. So the order and repetition of the layers do not count, and
more layers allow no more. -/
theorem allowedStyles_exact (r : Registry) (tag : String) (layers : List Narrowing) :
    (r.tag? tag = none → allowedStyles r tag layers = .empty) ∧
    (∀ t, r.tag? tag = some t →
      (∀ key, key ≠ "size" → (key ∈ allowedStyles r tag layers ↔
        IsGranted r tag t key ∧ ¬ IsDenied r tag key ∧ ∀ n ∈ layers, n.permits key)) ∧
      ("size" ∈ allowedStyles r tag layers ↔
        ¬ IsDenied r tag "size" ∧ (∀ n ∈ layers, n.permits "size") ∧
          ("width" ∈ allowedStyles r tag layers ∨ "height" ∈ allowedStyles r tag layers))) ∧
    (∀ layers', (∀ n, n ∈ layers' ↔ n ∈ layers) →
      allowedStyles r tag layers' = allowedStyles r tag layers) ∧
    (∀ layers' key, layers ⊆ layers' → key ∈ allowedStyles r tag layers' →
      key ∈ allowedStyles r tag layers) := by
  refine ⟨allowedStyles_of_unknown, fun t ht => ⟨?_, sizeKey_mem_allowedStyles ht⟩, ?_, ?_⟩
  · intro key hkey
    exact mem_allowedStyles_of_ne ht hkey
  · intro layers' hsame
    apply NameSet.ext
    intro key
    exact ⟨allowedStyles_anti fun n hn => (hsame n).mpr hn,
      allowedStyles_anti fun n hn => (hsame n).mp hn⟩
  · intro layers' key hsub hkey
    exact allowedStyles_anti hsub hkey

/-- A width brings `size` with it, a denied color is not allowed, and the order of the layers does
not count. -/
theorem allowedStyles_box :
    let t : TagPolicy :=
      { styleGroups := [("box", ["color", "width"])], styles := some { deny := ["color"] } }
    let r : Registry := { tags := [("div", t)] }
    let component : Narrowing := { deny := .ofList ["height"] }
    let template : Narrowing := { allow := some (.ofList ["color", "size", "width"]) }
    "size" ∈ allowedStyles r "div" [component, template] ∧
      "color" ∉ allowedStyles r "div" [component, template] ∧
      allowedStyles r "div" [template, component, template] =
        allowedStyles r "div" [component, template] := by
  intro t r component template
  obtain ⟨-, hknown, hsame, -⟩ := allowedStyles_exact r "div" [component, template]
  obtain ⟨hkeys, hsize⟩ := hknown t rfl
  have hdenied : ∀ key, IsDenied r "div" key ↔ key = "color" := by
    intro key
    simp [IsDenied, Registry.tag?, r, t]
  have hwidth : "width" ∈ allowedStyles r "div" [component, template] := by
    refine (hkeys "width" (by decide)).mpr
      ⟨.inl ⟨("box", ["color", "width"]), by simp [t], by simp⟩, ?_, by decide⟩
    rw [hdenied]
    decide
  refine ⟨hsize.mpr ⟨?_, by decide, .inl hwidth⟩, fun hcolor => ?_, hsame _ fun n => ?_⟩
  · rw [hdenied]
    decide
  · exact ((hkeys "color" (by decide)).mp hcolor).2.1 ((hdenied "color").mpr rfl)
  · grind

end Inspector
end PageBuilder
