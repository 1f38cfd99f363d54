import PageBuilder.Session.Store

/-!
# Runs of a session

A session is a list of operations on a store: commits, recorded or not, and undos. `perform?` gives
the store after an operation, if it succeeds. What a success does to the store is said once, for
each operation (`commit_spec`, `undo_spec`). `run` performs operations one after the other and
passes over those that fail; what commands keep, every run keeps (`Keeps.run`).
-/

namespace PageBuilder
namespace Store

/-- The operations on a store. -/
inductive Op where
  | commit (c : Command) (record : Bool)
  | undo

/-- The store after an operation that succeeds. -/
def perform? (st : Store) : Op → Option Store
  | .commit c record => (st.commit c record).toOption
  | .undo => st.undo?

/-- Commands are applied to the current snapshot, and the revision is raised. -/
theorem commit_spec {st st' : Store} {c : Command} {record : Bool}
    (h : st.commit c record = .ok st') :
    ∃ next, c.apply (StyleRule.numberedId st.nextRule) st.current = .ok next ∧
      st'.current = { next with revision := st.current.revision + 1 } ∧
      st'.history = (if record then (st.current :: st.history).take historyLimit else st.history) ∧
      st'.subscribers = notify st'.current st.subscribers := by
  unfold commit at h
  cases hc : c.apply (StyleRule.numberedId st.nextRule) st.current with
  | error e => simp [hc] at h
  | ok next =>
    simp only [hc, Except.ok.injEq] at h
    subst h
    exact ⟨next, rfl, rfl, rfl, rfl⟩

/-- The latest snapshot of the history comes back, and the revision is raised. -/
theorem undo_spec {st st' : Store} (h : st.undo? = some st') :
    ∃ previous, st.history = previous :: st'.history ∧
      st'.current = { previous with revision := st.current.revision + 1 } ∧
      st'.subscribers = notify st'.current st.subscribers := by
  unfold undo? at h
  cases hh : st.history with
  | nil => simp [hh] at h
  | cons previous history =>
    simp only [hh, Option.some.injEq] at h
    subst h
    exact ⟨previous, rfl, rfl, rfl⟩

/-- A command that applies is committed. -/
theorem exists_commit (st : Store) (c : Command) (record : Bool) {next : Snapshot}
    (h : c.apply (StyleRule.numberedId st.nextRule) st.current = .ok next) :
    ∃ st', st.commit c record = .ok st' ∧
      st'.current = { next with revision := st.current.revision + 1 } := by
  unfold commit
  rw [h]
  exact ⟨_, rfl, rfl⟩

theorem perform?_commit_eq_some {st st' : Store} {c : Command} {record : Bool} :
    st.perform? (.commit c record) = some st' ↔ st.commit c record = .ok st' := by
  cases h : st.commit c record <;> simp [perform?, h, Except.toOption]

theorem perform?_commit_eq_none {st : Store} {c : Command} {record : Bool} :
    st.perform? (.commit c record) = none ↔ ∃ e, st.commit c record = .error e := by
  cases h : st.commit c record <;> simp [perform?, h, Except.toOption]

theorem undo?_eq_none_iff {st : Store} : st.undo? = none ↔ st.history = [] := by
  unfold undo?
  cases st.history <;> simp

/-- Every operation that succeeds raises the revision by one, and tells of the new snapshot. -/
theorem perform?_spec {st st' : Store} {op : Op} (h : st.perform? op = some st') :
    st'.current.revision = st.current.revision + 1 ∧
      st'.subscribers = notify st'.current st.subscribers := by
  cases op with
  | commit c record =>
    obtain ⟨next, -, hcurrent, -, htold⟩ := commit_spec (perform?_commit_eq_some.mp h)
    exact ⟨by rw [hcurrent], htold⟩
  | undo =>
    obtain ⟨previous, -, hcurrent, htold⟩ := undo_spec h
    exact ⟨by rw [hcurrent], htold⟩

/-! ### Runs -/

/-- The store after an operation. One that fails leaves all as it is. -/
def perform (st : Store) (op : Op) : Store := (st.perform? op).getD st

/-- The store after operations, in their order. -/
def run (st : Store) (ops : List Op) : Store := ops.foldl perform st

@[simp] theorem run_nil (st : Store) : st.run [] = st := rfl

@[simp] theorem run_cons (st : Store) (op : Op) (ops : List Op) :
    st.run (op :: ops) = (st.perform op).run ops := rfl

theorem run_append (st : Store) (ops ops' : List Op) :
    st.run (ops ++ ops') = (st.run ops).run ops' :=
  List.foldl_append

theorem perform_cases (st : Store) (op : Op) :
    st.perform op = st ∨ st.perform? op = some (st.perform op) := by
  unfold perform
  cases st.perform? op with
  | none => exact .inl rfl
  | some st' => exact .inr rfl

theorem perform_commit_of_error {st : Store} {c : Command} {e : StoreError} (record : Bool)
    (h : c.apply (StyleRule.numberedId st.nextRule) st.current = .error e) :
    st.perform (.commit c record) = st := by
  have hfails : st.perform? (.commit c record) = none := by
    refine perform?_commit_eq_none.mpr ⟨e, ?_⟩
    unfold commit
    rw [h]
  unfold perform
  rw [hfails]
  rfl

theorem current_perform_commit {st : Store} {c : Command} {next : Snapshot} (record : Bool)
    (h : c.apply (StyleRule.numberedId st.nextRule) st.current = .ok next) :
    (st.perform (.commit c record)).current =
      { next with revision := st.current.revision + 1 } := by
  simp only [perform, perform?, commit, h]
  rfl

/-- The current snapshot, and those to which undos lead back, have a property. -/
def Keeps (P : Snapshot → Prop) (st : Store) : Prop := P st.current ∧ ∀ s ∈ st.history, P s

section Keeps

variable {P : Snapshot → Prop} (hrevision : ∀ s r, P s → P { s with revision := r })
  (happly : ∀ ruleId (c : Command) s s', c.apply ruleId s = .ok s' → P s → P s')

include hrevision happly

/-- One operation: an undo only brings back what was current before. -/
theorem Keeps.perform {st : Store} (h : Keeps P st) (op : Op) : Keeps P (st.perform op) := by
  rcases perform_cases st op with hsame | hok
  · rw [hsame]
    exact h
  · cases op with
    | commit c record =>
      obtain ⟨next, hnext, hcurrent, hhistory, -⟩ := commit_spec (perform?_commit_eq_some.mp hok)
      refine ⟨?_, fun s hs => ?_⟩
      · rw [hcurrent]
        exact hrevision _ _ (happly _ c _ _ hnext h.1)
      · rw [hhistory] at hs
        cases record with
        | false => exact h.2 s hs
        | true =>
          rcases List.mem_cons.mp (List.mem_of_mem_take hs) with rfl | hold
          · exact h.1
          · exact h.2 s hold
    | undo =>
      obtain ⟨previous, hhistory, hcurrent, -⟩ := undo_spec hok
      rw [Keeps, hhistory] at h
      refine ⟨?_, fun s hs => h.2 s (List.mem_cons_of_mem _ hs)⟩
      rw [hcurrent]
      exact hrevision _ _ (h.2 previous List.mem_cons_self)

/-- What commands keep, and a new revision number too, every run keeps. -/
theorem Keeps.run {st : Store} (h : Keeps P st) (ops : List Op) : Keeps P (st.run ops) := by
  induction ops generalizing st with
  | nil => exact h
  | cons op ops ih => exact ih (h.perform hrevision happly op)

end Keeps

/-! ### Subscribers -/

/-- What an operation does depends on no subscriber, and what succeeds is told to each of them. -/
theorem perform?_withSubscribers (st : Store) (subscribers : List Subscriber) (op : Op) :
    { st with subscribers := subscribers }.perform? op =
      (st.perform? op).map fun st' =>
        { st' with subscribers := notify st'.current subscribers } := by
  cases op with
  | commit c record =>
    simp only [perform?, commit]
    cases c.apply (StyleRule.numberedId st.nextRule) st.current <;> rfl
  | undo =>
    simp only [perform?, undo?]
    cases st.history <;> rfl

/-- The snapshots that operations make current, in their order. -/
def news (st : Store) : List Op → List Snapshot
  | [] => []
  | op :: ops =>
    match st.perform? op with
    | none => st.news ops
    | some st' => st'.current :: st'.news ops

/-- Of a run each subscriber sees all that is new, once and in its order, and nothing else. -/
theorem subscribers_run (st : Store) (ops : List Op) :
    (st.run ops).subscribers = st.subscribers.map fun u => ⟨u.seen ++ st.news ops⟩ := by
  induction ops generalizing st with
  | nil => simp [news]
  | cons op ops ih =>
    rw [run_cons, ih, news, perform]
    cases h : st.perform? op with
    | none => rfl
    | some st' =>
      rw [Option.getD_some, (perform?_spec h).2]
      simp [notify, Subscriber.tell, Function.comp_def]

end Store
end PageBuilder
