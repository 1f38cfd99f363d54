import Mathlib.Data.List.Induction
import Mathlib.Data.List.Nodup
import PageBuilder.Proofs.Design.UpsertTarget

/-!
# What upserts leave on a sheet

A sheet keeps of the upserts that built it one rule for each key, in the order in which the keys
were first used: the first upsert with the key made the rule, and the patches of all of them are
laid over each other in it (`upserts_compressed`). The keys of the rules tell where they stand
(`map_key_ofUpserts`), and the rule found under a key is the one that the upserts with the key leave
(`keyedRule?_ofUpserts`).
-/

namespace PageBuilder

namespace StyleRule

theorem declared_patched (r : StyleRule) (patch : Declaration) :
    (r.patched patch).declared = r.declared.overlay patch := rfl

theorem patched_patched (r : StyleRule) {patch : Declaration} (h : patch.Ascending)
    (later : Declaration) :
    (r.patched patch).patched later = r.patched (patch.overlay later) := by
  show { r with declaration := .object ((r.patched patch).declared.overlay later) } =
    r.patched (patch.overlay later)
  rw [declared_patched, Dict.overlay_overlay h]
  rfl

end StyleRule

/-! ### The record of some upserts -/

namespace Upsert

/-- The upserts with a key, in their order. -/
def withKey (us : List Upsert) (key : String) : List Upsert := us.filter fun u => u.key == key

/-- The keys of upserts, each once, in the order of their first use. -/
def keys (us : List Upsert) : List String := (us.map key).eraseDups

/-- The patches of upserts laid over each other, the first at the bottom. -/
def merged (us : List Upsert) : Declaration := us.foldl (fun d u => d.overlay u.patch) []

/-- The screen to which an upsert is confined: none at the base viewport. -/
def screen? (u : Upsert) : Option String :=
  let viewport := u.viewport.getD baseViewport
  if viewport = baseViewport then none else some viewport

/-- The rule that upserts with one key leave: the first of them makes it, and all of them patch
it. -/
def rule? (us : List Upsert) : Option StyleRule :=
  us.head?.map fun first =>
    { id := first.ruleId
      key := some first.key
      selector := .node first.nodeId
      conditions := { screen := first.screen? }
      declaration := .object (merged us) }

theorem withKey_concat (us : List Upsert) (u : Upsert) (key : String) :
    withKey (us ++ [u]) key = if u.key = key then withKey us key ++ [u] else withKey us key := by
  by_cases h : u.key = key <;> simp [withKey, h]

theorem keys_concat (us : List Upsert) (u : Upsert) :
    keys (us ++ [u]) = if u.key ∈ keys us then keys us else keys us ++ [u.key] := by
  have hmem : u.key ∈ keys us ↔ u.key ∈ us.map key := List.mem_eraseDups
  rw [keys, List.map_append, List.eraseDups_append, List.map_singleton]
  by_cases h : u.key ∈ us.map key
  · have hnone : [u.key].removeAll (us.map key) = [] := by
      rw [List.removeAll, List.filter_cons_of_neg (by simp [h]), List.filter_nil]
    rw [if_pos (hmem.mpr h), hnone, List.eraseDups_nil, List.append_nil]
    rfl
  · have hnew : [u.key].removeAll (us.map key) = [u.key] := by
      rw [List.removeAll, List.filter_cons_of_pos (by simpa using h), List.filter_nil]
    rw [if_neg (mt hmem.mp h), hnew]
    rfl

theorem nodup_keys (us : List Upsert) : (keys us).Nodup := by
  induction us using List.reverseRecOn with
  | nil => exact List.nodup_nil
  | append_singleton us u ih =>
    rw [keys_concat]
    split
    next => exact ih
    next hnew =>
      rw [← List.concat_eq_append]
      exact ih.concat hnew

theorem merged_concat (us : List Upsert) (u : Upsert) :
    merged (us ++ [u]) = (merged us).overlay u.patch := by
  simp [merged, List.foldl_append]

/-- One more upsert patches the rule, or makes it. -/
theorem rule?_concat {us : List Upsert} {u : Upsert} (h : u.patch.Ascending) :
    rule? (us ++ [u]) = some (match rule? us with
      | some r => r.patched u.patch
      | none => .keyed u.ruleId u.nodeId (u.viewport.getD baseViewport) u.patch) := by
  unfold rule?
  rw [merged_concat]
  cases us with
  | nil =>
    have hmerged : (merged []).overlay u.patch = u.patch := Dict.ofList_of_ascending h
    rw [hmerged]
    rfl
  | cons first us => rfl

end Upsert

namespace StyleSheet

/-! ### The rules and their keys -/

/-- An upsert leaves the keys as they are, or puts its own at the end if it is new. -/
theorem map_key_applyTo (s : StyleSheet) (u : Upsert) :
    (u.applyTo s).rules.map StyleRule.key =
      if some u.key ∈ s.rules.map StyleRule.key then s.rules.map StyleRule.key
      else s.rules.map StyleRule.key ++ [some u.key] := by
  rcases s.upsert_cases u.ruleId u.nodeId u.viewport u.patch
    with ⟨before, r, rest, hrules, -, hr, hupsert⟩ | ⟨hnone, hupsert⟩
  · have hmem : some u.key ∈ s.rules.map StyleRule.key := List.mem_map.mpr ⟨r, by simp [hrules], hr⟩
    rw [if_pos hmem, Upsert.applyTo, hupsert, hrules]
    simp [StyleRule.patched]
  · have hnew : some u.key ∉ s.rules.map StyleRule.key := by
      intro hmem
      obtain ⟨r, hmem, hr⟩ := List.mem_map.mp hmem
      exact hnone r hmem hr
    rw [if_neg hnew, Upsert.applyTo, hupsert, List.map_append]
    rfl

theorem ofUpserts_concat (us : List Upsert) (u : Upsert) :
    ofUpserts (us ++ [u]) = u.applyTo (ofUpserts us) := by
  simp [ofUpserts, List.foldl_append]

/-- The rules stand in the order in which their keys were first used. -/
theorem map_key_ofUpserts (us : List Upsert) :
    (ofUpserts us).rules.map StyleRule.key = (Upsert.keys us).map some := by
  induction us using List.reverseRecOn with
  | nil => rfl
  | append_singleton us u ih =>
    rw [ofUpserts_concat, map_key_applyTo, ih, Upsert.keys_concat]
    by_cases h : u.key ∈ Upsert.keys us <;> simp [h]

/-- Under a key stands the rule that the upserts with the key leave. -/
theorem keyedRule?_ofUpserts {us : List Upsert} (h : ∀ u ∈ us, u.patch.Ascending) (key : String) :
    (ofUpserts us).keyedRule? key = Upsert.rule? (Upsert.withKey us key) := by
  induction us using List.reverseRecOn with
  | nil => rfl
  | append_singleton us u ih =>
    obtain ⟨hus, hu⟩ := List.forall_mem_append.mp h
    rw [ofUpserts_concat, Upsert.withKey_concat]
    by_cases hkey : u.key = key
    · subst hkey
      rw [if_pos rfl, Upsert.rule?_concat (hu u (List.mem_singleton_self u)), ← ih hus]
      exact keyedRule?_upsert_self _ _ _ _ _
    · rw [if_neg hkey, ← ih hus]
      exact keyedRule?_upsert_of_ne _ _ _ _ _ (Ne.symm hkey)

/-- A sheet on which every rule has a key of its own is what is found under these keys. -/
theorem rules_eq_filterMap {rules : List StyleRule} {keys : List String}
    (hkeys : rules.map StyleRule.key = keys.map some) (hnodup : keys.Nodup) :
    rules = keys.filterMap (keyedRule? ⟨rules⟩) := by
  induction rules generalizing keys with
  | nil =>
    obtain rfl : keys = [] := List.map_eq_nil_iff.mp hkeys.symm
    rfl
  | cons r rules ih =>
    cases keys with
    | nil => cases hkeys
    | cons k keys =>
      obtain ⟨hr, hrest⟩ := List.cons_eq_cons.mp hkeys
      obtain ⟨hk, hnodup⟩ := List.nodup_cons.mp hnodup
      have hhead : keyedRule? ⟨r :: rules⟩ k = some r := by simp [keyedRule?, hr]
      have hbehind : ∀ key ∈ keys, keyedRule? ⟨r :: rules⟩ key = keyedRule? ⟨rules⟩ key := by
        intro key hkey
        have hne : k ≠ key := fun he => hk (he ▸ hkey)
        simp [keyedRule?, hr, hne]
      rw [List.filterMap_cons_some hhead, List.filterMap_congr hbehind, ← ih hrest hnodup]

/-! ### One upsert on any sheet -/

theorem upsert_upsert (s : StyleSheet) (id id' nodeId : String) (viewport : Option String)
    {patch : Declaration} (h : patch.Ascending) (later : Declaration) :
    (s.upsert id nodeId viewport patch).upsert id' nodeId viewport later =
      s.upsert id nodeId viewport (patch.overlay later) := by
  rcases s.upsert_cases id nodeId viewport patch
    with ⟨before, r, rest, hrules, hbefore, hr, hupsert⟩ | ⟨hnone, hupsert⟩
  · have hsheet : s = ⟨before ++ r :: rest⟩ := congrArg StyleSheet.mk hrules
    have hkey : (r.patched patch).key =
      some (StyleRule.keyFor nodeId (viewport.getD baseViewport)) := hr
    rw [hupsert, upsert_append hbefore hkey, StyleRule.patched_patched r h, hsheet,
      upsert_append hbefore hr]
  · have hmade : s.upsert id nodeId viewport (patch.overlay later) =
        ⟨s.rules ++ [.keyed id nodeId (viewport.getD baseViewport) (patch.overlay later)]⟩ := by
      rcases s.upsert_cases id nodeId viewport (patch.overlay later)
        with ⟨before, r, rest, hrules, -, hr, -⟩ | ⟨-, hmade⟩
      · exact absurd hr (hnone r (by simp [hrules]))
      · exact hmade
    rw [hupsert, upsert_append hnone rfl, hmade]
    rfl

/-- An upsert keeps every rule at its place and under its identifier, and changes none but one with
its own key. -/
theorem getElem?_upsert (s : StyleSheet) (id nodeId : String) (viewport : Option String)
    (patch : Declaration) {i : Nat} {r : StyleRule} (h : s.rules[i]? = some r) :
    ∃ r', (s.upsert id nodeId viewport patch).rules[i]? = some r' ∧ r'.id = r.id ∧
      (r.key ≠ some (StyleRule.keyFor nodeId (viewport.getD baseViewport)) → r' = r) := by
  rcases s.upsert_cases id nodeId viewport patch with ⟨before, x, rest, hrules, -, hx, hupsert⟩ |
    ⟨-, hupsert⟩
  · rw [hrules] at h
    rw [hupsert]
    by_cases hi : i = before.length
    · subst hi
      obtain rfl : x = r := by simpa using h
      exact ⟨x.patched patch, by simp, rfl, fun hne => absurd hx hne⟩
    · refine ⟨r, ?_, rfl, fun _ => rfl⟩
      rcases Nat.lt_or_gt_of_ne hi with hlt | hgt
      · rwa [List.getElem?_append_left hlt] at h ⊢
      · obtain ⟨k, hk⟩ : ∃ k, i - before.length = k + 1 := ⟨i - before.length - 1, by omega⟩
        rwa [List.getElem?_append_right (by omega), hk, List.getElem?_cons_succ] at h ⊢
  · refine ⟨r, ?_, rfl, fun _ => rfl⟩
    have hlt : i < s.rules.length := (List.getElem?_eq_some_iff.mp h).1
    rw [hupsert, List.getElem?_append_left hlt, h]

/-- Where an upsert makes a rule, removing the rule by its identifier takes the upsert back. -/
theorem remove_upsert {s : StyleSheet} {id nodeId : String} {viewport : Option String}
    (hnew : s.needsRule nodeId viewport = true) (hid : s.hasRule id = false) (patch : Declaration) :
    (s.upsert id nodeId viewport patch).remove id = s := by
  have hupsert : s.upsert id nodeId viewport patch =
      ⟨s.rules ++ [.keyed id nodeId (viewport.getD baseViewport) patch]⟩ := by
    rw [needsRule, Option.isNone_iff_eq_none] at hnew
    simp only [upsert, hnew]
  have hkept : (s.rules.filter fun r => r.id != id) = s.rules := by
    refine List.filter_eq_self.mpr fun r hr => ?_
    rw [hasRule, List.any_eq_false] at hid
    simpa using hid r hr
  rw [hupsert, remove, List.filter_append, hkept]
  simp [StyleRule.keyed]

end StyleSheet

/-- **Upserts are compressed losslessly**: of the upserts that built a sheet it holds one rule for
each key, in the order of first use. The first upsert with the key gives the rule its identifier,
its selector and its screen, and the rule declares the patches of all upserts with the key, laid
over each other in their order. On any sheet a second upsert for the same node and viewport comes to
one upsert with the first patch overlaid by the second. An upsert leaves every rule at its place and
under its identifier, and those with another key as they are; one that makes a rule is taken back by
removing the rule under its identifier, if that was not in use. Patches are dictionaries with
ascending keys. -/
theorem upserts_compressed (us : List Upsert) (hus : ∀ u ∈ us, u.patch.Ascending) (s : StyleSheet)
    (u : Upsert) (hu : u.patch.Ascending) :
    (StyleSheet.ofUpserts us).rules =
      (Upsert.keys us).filterMap (fun key => Upsert.rule? (Upsert.withKey us key)) ∧
      (StyleSheet.ofUpserts us).rules.map StyleRule.key = (Upsert.keys us).map some ∧
      (∀ ruleId later, Upsert.applyTo (u.applyTo s) { u with ruleId := ruleId, patch := later } =
        Upsert.applyTo s { u with patch := u.patch.overlay later }) ∧
      (∀ (i : Nat) (r : StyleRule), s.rules[i]? = some r → ∃ r', (u.applyTo s).rules[i]? = some r' ∧
        r'.id = r.id ∧
        (r.key ≠ some u.key → r' = r)) ∧
      (s.needsRule u.nodeId u.viewport = true → s.hasRule u.ruleId = false →
        (u.applyTo s).remove u.ruleId = s) := by
  have hkeys := StyleSheet.map_key_ofUpserts us
  refine ⟨?_, hkeys, fun ruleId later => s.upsert_upsert _ _ _ _ hu later,
    fun i r hr => s.getElem?_upsert _ _ _ _ hr, fun hnew hid =>
      StyleSheet.remove_upsert hnew hid u.patch⟩
  rw [StyleSheet.rules_eq_filterMap hkeys (Upsert.nodup_keys us)]
  exact List.filterMap_congr fun key _ => StyleSheet.keyedRule?_ofUpserts hus key

/-- Upserts for two nodes; the viewport of the last is the one that the first leaves out. -/
def interleavedUpserts : List Upsert :=
  [⟨"gen-1", "a", none, [("color", .string "red"), ("padding", .string "4px")]⟩,
    ⟨"gen-2", "b", some "mobile", [("margin", .string "0")]⟩,
    ⟨"gen-3", "a", some "base", [("color", .string "blue"), ("width", .string "50%")]⟩]

/-- A sheet with a rule that declares nothing, as its declaration is no object. -/
def malformedSheet : StyleSheet :=
  ⟨[{ id := "r", key := some "c:base", selector := .class "card",
      declaration := .string "color: red" }]⟩

/-- The two patches for one key end in one rule, before the rule for the key that was used between
them. What only the first of them sets stays. -/
theorem upserts_compressed_interleaved :
    (StyleSheet.ofUpserts interleavedUpserts).rules =
        [{ id := "gen-1", key := some "a:base", selector := .node "a",
            declaration := .object [("color", .string "blue"), ("padding", .string "4px"),
              ("width", .string "50%")] },
          { id := "gen-2", key := some "b:mobile", selector := .node "b",
            conditions := { screen := some "mobile" },
            declaration := .object [("margin", .string "0")] }] ∧
      (Upsert.applyTo malformedSheet ⟨"gen-4", "a", none, [("color", .string "red")]⟩).remove
        "gen-4" = malformedSheet := by
  have hus : ∀ u ∈ interleavedUpserts, u.patch.Ascending := by decide
  obtain ⟨hrules, -, -, -, hremove⟩ := upserts_compressed interleavedUpserts hus malformedSheet
    ⟨"gen-4", "a", none, [("color", .string "red")]⟩ (by decide)
  exact ⟨hrules.trans rfl, hremove (by decide) (by decide)⟩

end PageBuilder
