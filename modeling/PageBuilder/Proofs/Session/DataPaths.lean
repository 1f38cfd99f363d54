import PageBuilder.Proofs.Session.Run

/-!
# Laws of writing at paths

Paths are apart (`Apart`) if they share some keys and then part, so that neither of them leads on
from the other. What is written at a path is not seen on a path apart from it (`at?_put_of_apart`)
and is lost when the path is written again (`put_put`), and of two writes on paths apart either may
come first (`put_comm`). The dotted paths of a store obey these laws, and a path with an empty key
is refused (`putText?_laws`).
-/

namespace PageBuilder
namespace Json

/-- Paths that share some keys and then part. -/
inductive Apart : List String → List String → Prop where
  | head {k l : String} (hkl : k ≠ l) (p q : List String) : Apart (k :: p) (l :: q)
  | tail (k : String) {p q : List String} (h : Apart p q) : Apart (k :: p) (k :: q)

/-- Paths are apart if neither begins with the other. -/
theorem apart_iff {p q : List String} : Apart p q ↔ ¬ p <+: q ∧ ¬ q <+: p := by
  constructor
  · intro h
    induction h with
    | head hkl p q =>
      exact ⟨fun h => hkl (List.cons_prefix_cons.mp h).1,
        fun h => hkl (List.cons_prefix_cons.mp h).1.symm⟩
    | tail k h ih =>
      exact ⟨fun h => ih.1 (List.cons_prefix_cons.mp h).2,
        fun h => ih.2 (List.cons_prefix_cons.mp h).2⟩
  · rintro ⟨hpq, hqp⟩
    induction p generalizing q with
    | nil => exact absurd List.nil_prefix hpq
    | cons k p ih =>
      cases q with
      | nil => exact absurd List.nil_prefix hqp
      | cons l q =>
        by_cases hkl : k = l
        · subst hkl
          simp only [List.cons_prefix_cons, true_and] at hpq hqp
          exact .tail k (ih hpq hqp)
        · exact .head hkl p q

/-! ### Writing at the keys of a path -/

section Writing

variable {p q : List String} (h : Apart p q)

include h

theorem at?_empty_of_apart : empty.at? q = none := by cases h <;> rfl

/-- A path apart from the one that is written leads where it led before. -/
theorem at?_put_of_apart (value root : Json) : (put value p root).at? q = root.at? q := by
  induction h generalizing root with
  | head hkl p q => rw [at?_cons, at?_cons, get?_put_cons, if_neg hkl]
  | tail k h ih =>
    rw [at?_cons, at?_cons, get?_put_cons, if_pos rfl, Option.bind_some, ih]
    -- an entry that is not there is made empty, and nothing is found in it before or after
    cases root.get? k with
    | some w => rfl
    | none => exact at?_empty_of_apart h

/-- Of two writes on paths apart either may come first. -/
theorem put_comm (v w root : Json) : put v p (put w q root) = put w q (put v p root) := by
  induction h generalizing root with
  | head hkl p q =>
    simp only [put, fields_object, get?_object, Dict.get?_insert, if_neg hkl, if_neg (Ne.symm hkl),
      ← get?_eq_get?_fields]
    rw [Dict.insert_comm hkl]
  | tail k h ih =>
    simp only [put, fields_object, get?_object, Dict.get?_insert_self, Option.getD_some, ih,
      Dict.insert_insert]

end Writing

/-- Of two writes at one path the later one stays. -/
theorem put_put (v w : Json) (path : List String) (root : Json) :
    put w path (put v path root) = put w path root := by
  induction path generalizing root with
  | nil => rfl
  | cons k path ih =>
    simp only [put, fields_object, get?_object, Dict.get?_insert_self, Option.getD_some, ih,
      Dict.insert_insert]

/-! ### Writing at dotted paths -/

/-- The keys of a dotted text, be they empty or not. -/
def keysOf (text : String) : List String := (Text.split '.' text.toList).map String.ofList

/-- The keys hold no dot, and joined by dots they are the text. -/
theorem keysOf_eq_iff {text : String} {keys : List String} :
    keysOf text = keys ↔ keys ≠ [] ∧ (∀ key ∈ keys, '.' ∉ key.toList) ∧
      Text.join '.' (keys.map String.toList) = text.toList := by
  have hkeys : keysOf text = keys ↔ Text.split '.' text.toList = keys.map String.toList := by
    unfold keysOf
    constructor
    · rintro rfl
      simp [Function.comp_def]
    · intro h
      simp [h, Function.comp_def]
  rw [hkeys, Text.split_eq_iff, ne_eq, List.map_eq_nil_iff, List.forall_mem_map]

theorem empty_mem_keysOf_iff {text : String} :
    "" ∈ keysOf text ↔ [] ∈ Text.split '.' text.toList := by
  unfold keysOf
  constructor
  · intro h
    obtain ⟨key, hkey, hempty⟩ := List.mem_map.mp h
    rwa [String.ofList_eq_empty_iff.mp hempty] at hkey
  · exact fun h => List.mem_map.mpr ⟨[], h, rfl⟩

theorem putText?_eq_none_iff {text : String} {value root : Json} :
    putText? text value root = none ↔ "" ∈ keysOf text := by
  rw [empty_mem_keysOf_iff, putText?, Option.map_eq_none_iff, pathOfText?]
  split <;> simp [*]

theorem putText?_of_not_mem {text : String} (h : "" ∉ keysOf text) (value root : Json) :
    putText? text value root = some (put value (keysOf text) root) := by
  rw [empty_mem_keysOf_iff] at h
  rw [putText?, pathOfText?, if_neg h]
  rfl

theorem putText?_eq_some_iff {text : String} {value root root' : Json} :
    putText? text value root = some root' ↔ "" ∉ keysOf text ∧
      root' = put value (keysOf text) root := by
  by_cases h : "" ∈ keysOf text
  · simp [putText?_eq_none_iff.mpr h, h]
  · simp [putText?_of_not_mem h, h, eq_comm]

end Json

/-! ### The data of a store -/

section Store

open Json

variable {path : String}

theorem Command.apply_setData_of_mem (h : "" ∈ keysOf path) (value : Json) (newId : String)
    (s : Snapshot) :
    (setData path value).apply newId s = .error (.invalidPath path) := by
  simp only [apply, putText?_eq_none_iff.mpr h]

theorem Command.apply_setData_of_not_mem (h : "" ∉ keysOf path) (value : Json) (newId : String)
    (s : Snapshot) :
    (setData path value).apply newId s = .ok { s with data := put value (keysOf path) s.data } := by
  simp only [apply, putText?_of_not_mem h]

/-- A store refuses a path with an empty key and writes at any other. -/
theorem Store.commit_setData (st : Store) (path : String) (value : Json) (record : Bool) :
    ("" ∈ keysOf path → st.commit (.setData path value) record = .error (.invalidPath path) ∧
      st.perform (.commit (.setData path value) record) = st) ∧
    ("" ∉ keysOf path →
      (st.perform (.commit (.setData path value) record)).current.data =
        put value (keysOf path) st.current.data) := by
  constructor
  · intro h
    have happly :=
      Command.apply_setData_of_mem h value (StyleRule.numberedId st.nextRule) st.current
    exact ⟨by simp only [commit, happly], perform_commit_of_error record happly⟩
  · intro h
    rw [current_perform_commit record (Command.apply_setData_of_not_mem h value _ st.current)]

end Store

/-- **Laws of writing at paths**: the keys of a dotted path are the texts without dots that it
joins. A write at the path fails exactly if a key is empty, and a store refuses it then and stays as
it is. A write that succeeds puts the value at the keys of the path, leaves all paths apart from it
where they led, and is lost when the path is written again; and of two writes on paths apart either
may come first. -/
theorem Json.putText?_laws (path : String) (value root : Json) :
    (∀ keys, keysOf path = keys ↔ keys ≠ [] ∧ (∀ key ∈ keys, '.' ∉ key.toList) ∧
      Text.join '.' (keys.map String.toList) = path.toList) ∧
    (putText? path value root = none ↔ "" ∈ keysOf path) ∧
    (∀ root', putText? path value root = some root' →
      root'.at? (keysOf path) = some value ∧
      (∀ keys, ¬ keys <+: keysOf path → ¬ keysOf path <+: keys → root'.at? keys = root.at? keys) ∧
      ∀ value', putText? path value' root' = putText? path value' root) ∧
    (∀ path' value', ¬ keysOf path' <+: keysOf path → ¬ keysOf path <+: keysOf path' →
      (putText? path value root).bind (putText? path' value') =
        (putText? path' value' root).bind (putText? path value)) ∧
    ∀ (st : Store) (record : Bool),
      let after := st.perform (.commit (.setData path value) record)
      ("" ∈ keysOf path →
        st.commit (.setData path value) record = .error (.invalidPath path) ∧ after = st) ∧
      (st.current.data = root → after.current.data = (putText? path value root).getD root) := by
  refine ⟨fun _ => keysOf_eq_iff, putText?_eq_none_iff, fun root' hroot' => ?_,
    fun path' value' hnot hnot' => ?_, fun st record => ?_⟩
  · obtain ⟨hkeys, rfl⟩ := putText?_eq_some_iff.mp hroot'
    refine ⟨at?_put _ _ _, fun keys h h' => at?_put_of_apart (apart_iff.mpr ⟨h', h⟩) value root,
      fun value' => ?_⟩
    rw [putText?_of_not_mem hkeys, putText?_of_not_mem hkeys, put_put]
  · have hapart : Apart (keysOf path') (keysOf path) := apart_iff.mpr ⟨hnot, hnot'⟩
    by_cases h : "" ∈ keysOf path <;> by_cases h' : "" ∈ keysOf path'
    · simp [putText?_eq_none_iff.mpr h, putText?_eq_none_iff.mpr h']
    · simp [putText?_eq_none_iff.mpr h, putText?_of_not_mem h']
    · simp [putText?_of_not_mem h, putText?_eq_none_iff.mpr h']
    · simp [putText?_of_not_mem h, putText?_of_not_mem h', put_comm hapart]
  · obtain ⟨hrefused, hwritten⟩ := st.commit_setData path value record
    refine ⟨hrefused, ?_⟩
    rintro rfl
    by_cases h : "" ∈ keysOf path
    · rw [(hrefused h).2, putText?_eq_none_iff.mpr h]
      rfl
    · rw [hwritten h, putText?_of_not_mem h]
      rfl

/-- What is written at `a.b` is found at its two keys; `a..b` has an empty key between two
others. -/
theorem Json.putText?_laws_nested :
    (∃ root, putText? "a.b" (.bool true) .null = some root ∧
      root.at? ["a", "b"] = some (.bool true)) ∧
    putText? "a..b" (.bool true) .null = none := by
  obtain ⟨hkeys, hnone, hwritten, -⟩ := putText?_laws "a.b" (.bool true) .null
  obtain ⟨hkeys', hnone', -⟩ := putText?_laws "a..b" (.bool true) .null
  have hpath : keysOf "a.b" = ["a", "b"] := (hkeys _).mpr (by decide)
  have hpath' : keysOf "a..b" = ["a", "", "b"] := (hkeys' _).mpr (by decide)
  rw [hpath] at hnone hwritten
  obtain ⟨root, hroot⟩ := Option.ne_none_iff_exists'.mp (mt hnone.mp (by decide))
  exact ⟨⟨root, hroot, (hwritten root hroot).1⟩, hnone'.mpr (by rw [hpath']; decide)⟩

/-- The empty path has one key, and it is empty. -/
example (value root : Json) : Json.putText? "" value root = none := rfl

end PageBuilder
