/-!
# Dictionaries

A dictionary is a list of entries kept in the order of its keys. `get?` finds the first entry of a
key and `insert` puts an entry at its place, so the laws of looking up after writing (`get?_insert`,
`get?_erase`) hold of every list of entries, sorted or not. `overlay` writes the entries of one
dictionary over another. What is built by these operations is `Ascending`, and two ascending
dictionaries in which the same values are found are equal (`eq_of_get?_eq`).
-/

namespace PageBuilder

/-- Entries in the order of their keys. -/
abbrev Dict (α : Type) := List (String × α)

/-- The order of texts is total. -/
theorem lt_of_not_lt_of_ne {x y : String} (h : ¬ x < y) (hne : x ≠ y) : y < x := by
  rcases String.le_total x y with hle | hle
  · exact absurd (String.le_antisymm hle (String.not_lt.1 h)) hne
  · exact String.not_le.1 fun hxy => hne (String.le_antisymm hxy hle)

namespace Dict

variable {α β : Type}

/-- The value stored for a key. -/
def get? : Dict α → String → Option α
  | [], _ => none
  | (k, v) :: d, key => if k = key then some v else get? d key

/-- Whether a key has a value. -/
def contains (d : Dict α) (key : String) : Bool := (get? d key).isSome

/-- Store a value for a key, in place of the one stored before. -/
def insert (key : String) (value : α) : Dict α → Dict α
  | [] => [(key, value)]
  | (k, v) :: d =>
    if k = key then (key, value) :: d
    else if key < k then (key, value) :: (k, v) :: d
    else (k, v) :: insert key value d

/-- Forget a key. -/
def erase (key : String) (d : Dict α) : Dict α := d.filter fun e => e.1 ≠ key

/-- Write every entry of `patch` over `target`; the other keys of `target` stay. -/
def overlay (target patch : Dict α) : Dict α := patch.foldl (fun d e => insert e.1 e.2 d) target

/-- The dictionary of a list of entries; of two entries with one key the later one counts. -/
def ofList (entries : List (String × α)) : Dict α := overlay [] entries

/-- Replace the value of a key that is present. -/
def modify (key : String) (f : α → α) : Dict α → Dict α
  | [] => []
  | (k, v) :: d => if k = key then (k, f v) :: d else (k, v) :: modify key f d

/-! ### Looking up -/

@[simp] theorem get?_nil (key : String) : get? ([] : Dict α) key = none := rfl

@[simp] theorem get?_cons (k : String) (v : α) (d : Dict α) (key : String) :
    get? ((k, v) :: d) key = if k = key then some v else get? d key := rfl

theorem get?_append (d e : Dict α) (key : String) :
    get? (d ++ e) key = (get? d key).or (get? e key) := by
  induction d with
  | nil => simp
  | cons p d ih => by_cases h : p.1 = key <;> simp [get?, h, ih]

theorem get?_insert (d : Dict α) (k : String) (v : α) (key : String) :
    get? (insert k v d) key = if k = key then some v else get? d key := by
  induction d with
  | nil => rfl
  | cons p d ih =>
    obtain ⟨j, w⟩ := p
    unfold insert
    by_cases hjk : j = k
    · subst hjk; by_cases h : j = key <;> simp [h]
    · by_cases hlt : k < j
      · simp [hjk, hlt]
      · simp only [hjk, hlt, if_false, get?_cons, ih]
        by_cases hj : j = key
        · subst hj; simp [Ne.symm hjk]
        · simp [hj]

@[simp] theorem get?_insert_self (d : Dict α) (k : String) (v : α) :
    get? (insert k v d) k = some v := by
  simp [get?_insert]

/-- Of two values written for one key the later one stays. -/
theorem insert_insert (d : Dict α) (k : String) (v w : α) :
    insert k w (insert k v d) = insert k w d := by
  induction d with
  | nil => simp [insert]
  | cons e d ih =>
    obtain ⟨j, u⟩ := e
    by_cases hjk : j = k
    · simp [insert, hjk]
    · by_cases hlt : k < j
      · simp [insert, hjk, hlt]
      · simp [insert, hjk, hlt, ih]

theorem insert_comm_of_lt {k l : String} (h : k < l) (d : Dict α) (v w : α) :
    insert k v (insert l w d) = insert l w (insert k v d) := by
  have hkl : k ≠ l := fun he => String.lt_irrefl l (he ▸ h)
  have hnot : ¬ l < k := fun hlt => String.lt_irrefl k (String.lt_trans h hlt)
  induction d with
  | nil => simp [insert, hkl, Ne.symm hkl, h, hnot]
  | cons e d ih =>
    obtain ⟨j, u⟩ := e
    by_cases hjk : j = k
    · subst hjk
      simp [insert, hkl, hnot]
    · by_cases hlt : k < j
      · -- the smaller key comes first, whatever the larger one does behind it
        by_cases hjl : j = l
        · subst hjl
          simp [insert, hkl, Ne.symm hkl, hlt, hnot]
        · by_cases hlt' : l < j <;> simp [insert, hjk, hjl, hlt, hlt', hkl, Ne.symm hkl, h, hnot]
      · have hjl : j ≠ l := fun he => hlt (he ▸ h)
        have hlj : ¬ l < j := fun hlj => hlt (String.lt_trans h hlj)
        simp [insert, hjk, hlt, hjl, hlj, ih]

/-- Values written for two keys may be written in either order. -/
theorem insert_comm {k l : String} (h : k ≠ l) (d : Dict α) (v w : α) :
    insert k v (insert l w d) = insert l w (insert k v d) := by
  by_cases hlt : k < l
  · exact insert_comm_of_lt hlt d v w
  · exact (insert_comm_of_lt (lt_of_not_lt_of_ne hlt h) d w v).symm

theorem get?_erase (d : Dict α) (k key : String) :
    get? (erase k d) key = if k = key then none else get? d key := by
  induction d with
  | nil => simp [erase]
  | cons p d ih =>
    obtain ⟨j, w⟩ := p
    unfold erase at ih ⊢
    by_cases hjk : j = k
    · subst hjk; by_cases h : j = key <;> simp_all
    · by_cases hj : j = key
      · subst hj; simp [hjk, Ne.symm hjk]
      · simpa [hjk, hj] using ih

theorem get?_modify (d : Dict α) (k : String) (f : α → α) (key : String) :
    get? (modify k f d) key = if k = key then (get? d key).map f else get? d key := by
  induction d with
  | nil => simp [modify]
  | cons p d ih =>
    obtain ⟨j, w⟩ := p
    unfold modify
    by_cases hjk : j = k
    · subst hjk; by_cases h : j = key <;> simp [h]
    · by_cases hj : j = key
      · subst hj; simp [hjk, Ne.symm hjk]
      · simp [hjk, hj, ih]

theorem modify_modify (d : Dict α) (k : String) (f g : α → α) :
    modify k g (modify k f d) = modify k (fun v => g (f v)) d := by
  induction d with
  | nil => rfl
  | cons p d ih => by_cases h : p.1 = k <;> simp [modify, h, ih]

/-- Only the value that is found is replaced. -/
theorem modify_congr {d : Dict α} {k : String} {f g : α → α}
    (h : ∀ v, get? d k = some v → f v = g v) :
    modify k f d = modify k g d := by
  induction d with
  | nil => rfl
  | cons p d ih =>
    obtain ⟨j, w⟩ := p
    by_cases hj : j = k
    · have hvalue : f w = g w := h w (by simp [hj])
      simp [modify, hj, hvalue]
    · have hrest : modify k f d = modify k g d := ih fun v hv => h v (by simpa [hj] using hv)
      simp [modify, hj, hrest]

/-- What is written over a dictionary is found first. -/
theorem get?_overlay (target patch : Dict α) (key : String) :
    get? (overlay target patch) key = (get? (ofList patch) key).or (get? target key) := by
  induction patch generalizing target with
  | nil => rfl
  | cons e patch ih =>
    -- both sides write the rest of the patch, over the target and over nothing
    have hpatch : get? (ofList (e :: patch)) key =
        (get? (ofList patch) key).or (get? (insert e.1 e.2 []) key) :=
      ih (insert e.1 e.2 [])
    have htarget : get? (overlay target (e :: patch)) key =
        (get? (ofList patch) key).or (get? (insert e.1 e.2 target) key) :=
          ih (insert e.1 e.2 target)
    rw [htarget, hpatch, get?_insert, get?_insert, Option.or_assoc]
    by_cases h : e.1 = key <;> simp [h]

/-- Of the entries of a list the later ones count. -/
theorem get?_ofList_cons (e : String × α) (d : List (String × α)) (key : String) :
    get? (ofList (e :: d)) key =
      (get? (ofList d) key).or (if e.1 = key then some e.2 else none) := by
  have hfirst : get? (ofList (e :: d)) key =
      (get? (ofList d) key).or (get? (insert e.1 e.2 []) key) :=
    get?_overlay (insert e.1 e.2 []) d key
  rw [hfirst, get?_insert, get?_nil]

theorem mem_of_get?_eq_some {d : Dict α} {key : String} {v : α} (h : get? d key = some v) :
    (key, v) ∈ d := by
  induction d with
  | nil => cases h
  | cons e d ih =>
    rw [get?_cons] at h
    split at h
    next hkey =>
      obtain rfl := Option.some.inj h
      exact List.mem_cons.mpr (.inl (by rw [← hkey]))
    next => exact List.mem_cons_of_mem e (ih h)

/-- The keys of a dictionary are those of its entries. -/
theorem contains_iff_mem (d : Dict α) (key : String) :
    contains d key = true ↔ key ∈ d.map Prod.fst := by
  induction d with
  | nil => simp [contains]
  | cons p d ih =>
    by_cases h : p.1 = key
    · simp [contains, get?, h]
    · simp [contains, get?, h] at ih ⊢
      simpa [Ne.symm h] using ih

theorem map_fst_modify (d : Dict α) (k : String) (f : α → α) :
    (modify k f d).map Prod.fst = d.map Prod.fst := by
  induction d with
  | nil => rfl
  | cons p d ih => by_cases h : p.1 = k <;> simp [modify, h, ih]

theorem get?_eq_none_iff (d : Dict α) (key : String) :
    get? d key = none ↔ key ∉ d.map Prod.fst := by
  rw [← contains_iff_mem, contains]
  cases get? d key <;> simp

/-! ### Order -/

/-- The keys ascend, so that each of them is there once. -/
def Ascending (d : Dict α) : Prop := (d.map Prod.fst).Pairwise (· < ·)

instance (d : Dict α) : Decidable (Ascending d) :=
  inferInstanceAs (Decidable ((d.map Prod.fst).Pairwise (· < ·)))

theorem ascending_nil : Ascending ([] : Dict α) := .nil

theorem ascending_cons {e : String × α} {d : Dict α} :
    Ascending (e :: d) ↔ (∀ k ∈ d.map Prod.fst, e.1 < k) ∧ Ascending d := List.pairwise_cons

/-- An entry with a smaller key stands on the left. -/
theorem mem_left_of_lt {left right : Dict α} {p e : String × α} (h : Ascending (left ++ p :: right))
    (he : e ∈ left ++ p :: right) (hlt : e.1 < p.1) : e ∈ left := by
  rcases List.mem_append.1 he with hleft | hrest
  · exact hleft
  · rw [Ascending, List.map_append, List.pairwise_append] at h
    rcases List.mem_cons.1 hrest with rfl | hright
    · exact absurd hlt (String.lt_irrefl _)
    · have hgt : p.1 < e.1 := (List.pairwise_cons.1 h.2.1).1 e.1 (List.mem_map_of_mem hright)
      exact absurd (String.lt_trans hlt hgt) (String.lt_irrefl _)

theorem mem_map_fst_insert {d : Dict α} {k key : String} {v : α} :
    key ∈ (insert k v d).map Prod.fst ↔ key = k ∨ key ∈ d.map Prod.fst := by
  rw [← contains_iff_mem, ← contains_iff_mem, contains, contains, get?_insert]
  by_cases h : k = key
  · simp [h]
  · simp [h, Ne.symm h]

theorem ascending_insert {d : Dict α} (h : Ascending d) (k : String) (v : α) :
    Ascending (insert k v d) := by
  induction d with
  | nil => exact ascending_cons.2 ⟨nofun, ascending_nil⟩
  | cons e d ih =>
    obtain ⟨j, w⟩ := e
    obtain ⟨hj, hd⟩ := ascending_cons.1 h
    unfold insert
    by_cases hjk : j = k
    · subst hjk
      rw [if_pos rfl]
      exact ascending_cons.2 ⟨hj, hd⟩
    · rw [if_neg hjk]
      by_cases hlt : k < j
      · rw [if_pos hlt]
        refine ascending_cons.2 ⟨fun x hx => ?_, h⟩
        rcases List.mem_cons.1 hx with rfl | hx
        · exact hlt
        · exact String.lt_trans hlt (hj x hx)
      · rw [if_neg hlt]
        refine ascending_cons.2 ⟨fun x hx => ?_, ih hd⟩
        rcases mem_map_fst_insert.1 hx with rfl | hx
        · exact lt_of_not_lt_of_ne hlt (Ne.symm hjk)
        · exact hj x hx

theorem ascending_erase {d : Dict α} (h : Ascending d) (k : String) : Ascending (erase k d) :=
  h.sublist (List.filter_sublist.map Prod.fst)

theorem ascending_overlay {d : Dict α} (h : Ascending d) (patch : Dict α) :
    Ascending (overlay d patch) := by
  induction patch generalizing d with
  | nil => exact h
  | cons e patch ih => exact ih (ascending_insert h e.1 e.2)

theorem ascending_ofList (entries : List (String × α)) : Ascending (ofList entries) :=
  ascending_overlay ascending_nil entries

/-- Ascending dictionaries are told apart by looking up. -/
theorem eq_of_get?_eq {d e : Dict α} (hd : Ascending d) (he : Ascending e)
    (h : ∀ key, get? d key = get? e key) :
    d = e := by
  induction d generalizing e with
  | nil =>
    cases e with
    | nil => rfl
    | cons q e => exact absurd (h q.1) (by simp [get?])
  | cons p d ih =>
    cases e with
    | nil => exact absurd (h p.1) (by simp [get?])
    | cons q e =>
      obtain ⟨hp, hd⟩ := ascending_cons.1 hd
      obtain ⟨hq, he⟩ := ascending_cons.1 he
      have hmem (key : String) : key ∈ (p :: d).map Prod.fst ↔ key ∈ (q :: e).map Prod.fst := by
        rw [← contains_iff_mem, ← contains_iff_mem, contains, contains, h]
      have hkey : p.1 = q.1 := by
        rcases List.mem_cons.1 ((hmem p.1).1 (by simp)) with hpq | hpe
        · exact hpq
        rcases List.mem_cons.1 ((hmem q.1).2 (by simp)) with hqp | hqd
        · exact hqp.symm
        · exact absurd (String.lt_trans (hq _ hpe) (hp _ hqd)) (String.lt_irrefl _)
      have hvalue : p.2 = q.2 := by
        have := h p.1
        simpa [get?, hkey] using this
      have hrest (key : String) : get? d key = get? e key := by
        by_cases hk : p.1 = key
        · subst hk
          rw [(get?_eq_none_iff d _).2 fun hx => String.lt_irrefl _ (hp _ hx),
            (get?_eq_none_iff e _).2 fun hx => String.lt_irrefl _ (hkey ▸ hq _ hx)]
        · have := h key
          simpa [get?, hk, hkey ▸ hk] using this
      rw [ih hd he hrest, Prod.ext hkey hvalue]

/-- The dictionary of ascending entries is these entries. -/
theorem ofList_of_ascending {d : Dict α} (h : Ascending d) : ofList d = d := by
  refine eq_of_get?_eq (ascending_ofList d) h fun key => ?_
  induction d with
  | nil => rfl
  | cons e d ih =>
    obtain ⟨hhead, hd⟩ := ascending_cons.1 h
    rw [get?_ofList_cons, ih hd, get?_cons]
    by_cases hkey : e.1 = key
    · have hnone : get? d key = none := (get?_eq_none_iff d key).2 fun hmem =>
        String.lt_irrefl key (hkey ▸ hhead key hmem)
      simp [hkey, hnone]
    · simp [hkey]

theorem overlay_self {d : Dict α} (h : Ascending d) : overlay d d = d := by
  refine eq_of_get?_eq (ascending_overlay h d) h fun key => ?_
  rw [get?_overlay, ofList_of_ascending h, Option.or_self]

/-! ### Patches one after the other -/

/-- A value for a key that is not among those written may be written before or after them. -/
theorem overlay_insert_of_not_mem {patch : Dict α} {k : String} (h : k ∉ patch.map Prod.fst)
    (d : Dict α) (v : α) :
    overlay (insert k v d) patch = insert k v (overlay d patch) := by
  induction patch generalizing d with
  | nil => rfl
  | cons e patch ih =>
    obtain ⟨hne, hrest⟩ : k ≠ e.1 ∧ k ∉ patch.map Prod.fst := by simpa using h
    show overlay (insert e.1 e.2 (insert k v d)) patch =
      insert k v (overlay (insert e.1 e.2 d) patch)
    rw [← ih hrest, insert_comm (Ne.symm hne)]

/-- To write a patch with one more value is to write the patch, and then the value. -/
theorem overlay_insert {patch : Dict α} (h : Ascending patch) (d : Dict α) (k : String) (v : α) :
    overlay d (insert k v patch) = insert k v (overlay d patch) := by
  induction patch generalizing d with
  | nil => rfl
  | cons e patch ih =>
    obtain ⟨j, u⟩ := e
    obtain ⟨hj, hpatch⟩ := ascending_cons.1 h
    by_cases hjk : j = k
    · subst hjk
      have hnot : j ∉ patch.map Prod.fst := fun hmem => String.lt_irrefl j (hj j hmem)
      have hinsert : insert j v ((j, u) :: patch) = (j, v) :: patch := by simp [insert]
      rw [hinsert]
      show overlay (insert j v d) patch = insert j v (overlay (insert j u d) patch)
      rw [← overlay_insert_of_not_mem hnot, insert_insert]
    · by_cases hlt : k < j
      · have hnot : k ∉ ((j, u) :: patch).map Prod.fst := by
          intro hmem
          rcases List.mem_cons.1 hmem with rfl | hmem
          · exact hjk rfl
          · exact String.lt_irrefl k (String.lt_trans hlt (hj k hmem))
        have hinsert : insert k v ((j, u) :: patch) = (k, v) :: (j, u) :: patch := by
          simp [insert, hjk, hlt]
        rw [hinsert]
        exact overlay_insert_of_not_mem hnot d v
      · have hinsert : insert k v ((j, u) :: patch) = (j, u) :: insert k v patch := by
          simp [insert, hjk, hlt]
        rw [hinsert]
        exact ih hpatch (insert j u d)

/-- Two patches may be laid over each other before they are written. -/
theorem overlay_overlay {patch : Dict α} (h : Ascending patch) (d later : Dict α) :
    overlay (overlay d patch) later = overlay d (overlay patch later) := by
  induction later generalizing patch with
  | nil => rfl
  | cons e later ih =>
    show overlay (insert e.1 e.2 (overlay d patch)) later =
      overlay d (overlay (insert e.1 e.2 patch) later)
    rw [← overlay_insert h, ih (ascending_insert h e.1 e.2)]

end Dict

end PageBuilder
