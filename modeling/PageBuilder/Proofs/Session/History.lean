import Mathlib.Data.List.Induction
import PageBuilder.Proofs.Session.Run

/-!
# The history is the recent part of an unbounded stack

A `Ledger` is a store with a stack that is never cut: a recorded commit pushes the snapshot before
it, and an undo pops. After any run the bounded history is a prefix of the stack, latest snapshot
first, and shorter only after a commit that found it full. So an undo gives back the snapshot before
the latest recorded commit that is not undone, whatever was evicted meanwhile.
-/

namespace PageBuilder
namespace Store

/-- A store, and the snapshots before all recorded commits that are not undone, the latest first. -/
structure Ledger where
  store : Store
  stack : List Snapshot

namespace Ledger

/-- A session that begins with a snapshot. -/
def start (s : Snapshot) : Ledger := ⟨.start s, []⟩

/-- Perform an operation. One that fails leaves all as it is. -/
def step (g : Ledger) (op : Op) : Ledger :=
  match g.store.perform? op, op with
  | none, _ => g
  | some st, .commit _ true => ⟨st, g.store.current :: g.stack⟩
  | some st, .commit _ false => ⟨st, g.stack⟩
  | some st, .undo => ⟨st, g.stack.tail⟩

/-- The ledger after some operations. -/
def run (s : Snapshot) (ops : List Op) : Ledger := ops.foldl step (start s)

@[simp] theorem run_nil (s : Snapshot) : run s [] = start s := rfl

@[simp] theorem run_concat (s : Snapshot) (ops : List Op) (op : Op) :
    run s (ops ++ [op]) = (run s ops).step op := by
  simp [run]

/-! ### One step -/

theorem step_of_none {g : Ledger} {op : Op} (h : g.store.perform? op = none) : g.step op = g := by
  unfold step
  rw [h]

theorem step_store {g : Ledger} {op : Op} {st : Store} (h : g.store.perform? op = some st) :
    (g.step op).store = st := by
  unfold step
  rw [h]
  rcases op with ⟨c, _ | _⟩ | _ <;> rfl

/-- What a step can do: nothing, push, replace the current snapshot only, or pop. -/
theorem step_cases (g : Ledger) (op : Op) :
    g.step op = g ∨
    (∃ c, op = .commit c true ∧ (g.store.perform? op).isSome ∧
      (g.step op).stack = g.store.current :: g.stack ∧
      (g.step op).store.history = (g.store.current :: g.store.history).take historyLimit) ∨
    ((g.step op).stack = g.stack ∧ (g.step op).store.history = g.store.history) ∨
    (∃ previous, (g.step op).stack = g.stack.tail ∧
      g.store.history = previous :: (g.step op).store.history) := by
  cases h : g.store.perform? op with
  | none => exact .inl (step_of_none h)
  | some st =>
    right
    rcases op with ⟨c, _ | _⟩ | _
    · obtain ⟨next, -, -, hhistory, -⟩ := commit_spec (perform?_commit_eq_some.mp h)
      right; left
      simpa [step, h] using hhistory
    · obtain ⟨next, -, -, hhistory, -⟩ := commit_spec (perform?_commit_eq_some.mp h)
      left
      exact ⟨c, rfl, rfl, by simp [step, h], by simpa [step, h] using hhistory⟩
    · obtain ⟨previous, hhistory, -, -⟩ := undo_spec h
      right; right
      exact ⟨previous, by simp [step, h], by simpa [step, h] using hhistory⟩

/-! ### A whole run -/

/-- Some recorded commit of the run found the history full, and dropped its oldest snapshot. -/
def Evicted (s : Snapshot) (ops : List Op) : Prop :=
  ∃ pre c rest, ops = pre ++ .commit c true :: rest ∧
    ((run s pre).store.perform? (.commit c true)).isSome ∧
    (run s pre).store.history.length = historyLimit

theorem Evicted.concat {s : Snapshot} {ops : List Op} (h : Evicted s ops) (op : Op) :
    Evicted s (ops ++ [op]) := by
  obtain ⟨pre, c, rest, rfl, hok, hfull⟩ := h
  exact ⟨pre, c, rest ++ [op], by simp, hok, hfull⟩

/-- The invariant of a run: the history is the recent part of the stack, within the limit, and all
of it unless something was evicted. -/
structure Tracks (s : Snapshot) (ops : List Op) : Prop where
  isRecent : (run s ops).store.history <+: (run s ops).stack
  length_le : (run s ops).store.history.length ≤ historyLimit
  evicted : (run s ops).store.history.length < (run s ops).stack.length → Evicted s ops

theorem tracks_nil (s : Snapshot) : Tracks s [] where
  isRecent := List.nil_prefix
  length_le := Nat.zero_le _
  evicted h := absurd h (by simp [start, Store.start])

theorem Tracks.concat {s : Snapshot} {ops : List Op} (h : Tracks s ops) (op : Op) :
    Tracks s (ops ++ [op]) := by
  obtain ⟨⟨old, hold⟩, hle, hevicted⟩ := h
  rcases step_cases (run s ops) op with hstep | ⟨c, rfl, hok, hstack, hhistory⟩ |
    ⟨hstack, hhistory⟩ |
    ⟨previous, hstack, hhistory⟩
  · exact ⟨by rw [run_concat, hstep]; exact ⟨old, hold⟩, by rw [run_concat, hstep]; exact hle,
      fun hlt => (hevicted (by rwa [run_concat, hstep] at hlt)).concat op⟩
  · -- the commit is recorded: the history stays the recent part of the stack, cut at the limit
    refine ⟨?_, ?_, fun hlt => ?_⟩
    · rw [run_concat, hstack, hhistory, ← hold]
      exact (List.take_prefix _ _).trans ⟨old, rfl⟩
    · rw [run_concat, hhistory, List.length_take]
      exact Nat.min_le_left _ _
    · by_cases hfull : (run s ops).store.history.length = historyLimit
      · exact ⟨ops, c, [], rfl, hok, hfull⟩
      · refine (hevicted ?_).concat _
        rw [run_concat, hstack, hhistory, List.length_take, List.length_cons,
          List.length_cons] at hlt
        omega
  · exact ⟨by rw [run_concat, hstack, hhistory]; exact ⟨old, hold⟩,
      by rw [run_concat, hhistory]; exact hle, fun hlt =>
        (hevicted (by rwa [run_concat, hstack, hhistory] at hlt)).concat op⟩
  · -- an undo drops the head of both
    have htail : (run s ops).stack.tail = ((run s ops).step op).store.history ++ old := by
      rw [← hold, hhistory]
      rfl
    refine ⟨by rw [run_concat, hstack, htail]; exact ⟨old, rfl⟩, ?_,
      fun hlt => (hevicted ?_).concat op⟩
    · rw [hhistory, List.length_cons] at hle
      rw [run_concat]
      omega
    · rw [run_concat, hstack, htail, List.length_append] at hlt
      rw [← hold, List.length_append]
      omega

theorem tracks (s : Snapshot) (ops : List Op) : Tracks s ops := by
  induction ops using List.reverseRecOn with
  | nil => exact tracks_nil s
  | append_singleton ops op ih => exact ih.concat op

/-- The head of the stack is the snapshot before a recorded commit of the run, and the rest of the
stack is what was there before that commit. -/
theorem stack_head {s : Snapshot} {ops : List Op} {top : Snapshot} {stack : List Snapshot}
    (h : (run s ops).stack = top :: stack) :
    ∃ pre c rest, ops = pre ++ .commit c true :: rest ∧
      ((run s pre).store.perform? (.commit c true)).isSome ∧
      (run s pre).store.current = top ∧ (run s pre).stack = stack := by
  -- an undo uncovers an older head, so the shorter runs are all needed
  induction hn : ops.length using Nat.strongRecOn generalizing ops top stack with
  | ind n ih =>
    rcases List.eq_nil_or_concat ops with rfl | ⟨ops, op, rfl⟩
    · simp [start] at h
    · have hlt : ops.length < n := by
        rw [← hn]
        simp
      have hlonger : (run s ops).stack = top :: stack →
          ∃ pre c rest, ops ++ [op] = pre ++ .commit c true :: rest ∧
          ((run s pre).store.perform? (.commit c true)).isSome ∧ (run s pre).store.current = top ∧
          (run s pre).stack = stack := by
        intro hstack
        obtain ⟨pre, c, rest, rfl, hpre⟩ := ih _ hlt hstack rfl
        exact ⟨pre, c, rest ++ [op], by simp, hpre⟩
      rw [List.concat_eq_append] at h ⊢
      rw [run_concat] at h
      rcases step_cases (run s ops) op with hstep | ⟨c, rfl, hok, hstack, -⟩ | ⟨hstack, -⟩ |
        ⟨previous, hstack, -⟩
      · exact hlonger (hstep ▸ h)
      · obtain ⟨htop, hrest⟩ := List.cons_eq_cons.mp (hstack.symm.trans h)
        exact ⟨ops, c, [], rfl, hok, htop, hrest⟩
      · exact hlonger (hstack.symm.trans h)
      · rcases hs : (run s ops).stack with _ | ⟨undone, tail⟩
        · simp [hstack, hs] at h
        · obtain rfl : tail = top :: stack := by simpa [hstack, hs] using h
          obtain ⟨pre, c, rest, rfl, -, -, hpre⟩ := ih _ hlt hs rfl
          obtain ⟨pre', c', rest', rfl, hpre'⟩ := ih _ (by simp at hlt; omega) hpre rfl
          exact ⟨pre', c', rest' ++ .commit c true :: rest ++ [op], by simp, hpre'⟩

/-- The revision rises by one for each operation at most. -/
theorem revision_le (s : Snapshot) (ops : List Op) :
    (run s ops).store.current.revision ≤ s.revision + ops.length := by
  induction ops using List.reverseRecOn with
  | nil => simp [start, Store.start]
  | append_singleton ops op ih =>
    rw [run_concat, List.length_append, List.length_singleton]
    cases h : (run s ops).store.perform? op with
    | none =>
      rw [step_of_none h]
      omega
    | some st =>
      rw [step_store h, (perform?_spec h).1]
      omega

end Ledger

/-- **Bounded undo**: after any run of operations the history is the recent part of the unbounded
stack, within the limit, and all of it unless some recorded commit found it full. An undo that
succeeds gives back the snapshot before the latest recorded commit that is not undone, and one
succeeds exactly if `canUndo` says so. What fails leaves all as it is; what succeeds raises the
revision by one and tells each subscriber of the new snapshot once, whoever the subscribers are. One
that joins late sees what the others see from then on. -/
theorem history_isRecent_and_undo_restores (s : Snapshot) (ops : List Op) :
    let g := Ledger.run s ops
    g.store.history <+: g.stack ∧ g.store.history.length ≤ historyLimit ∧
    (g.store.history.length < g.stack.length →
      ∃ pre c rest, ops = pre ++ .commit c true :: rest ∧
        ((Ledger.run s pre).store.perform? (.commit c true)).isSome ∧
        (Ledger.run s pre).store.history.length = historyLimit) ∧
    (∀ st, g.store.undo? = some st →
      ∃ pre c rest, ops = pre ++ .commit c true :: rest ∧
        ((Ledger.run s pre).store.perform? (.commit c true)).isSome ∧
        g.stack = (Ledger.run s pre).store.current :: (Ledger.run s pre).stack ∧
        st.current =
          { (Ledger.run s pre).store.current with revision := g.store.current.revision + 1 }) ∧
    (g.store.canUndo = true ↔ ∃ st, g.store.undo? = some st) ∧
    (∀ c record e, g.store.commit c record = .error e →
      Ledger.run s (ops ++ [.commit c record]) = g) ∧
    (g.store.history = [] → Ledger.run s (ops ++ [.undo]) = g) ∧
    (∀ op st, g.store.perform? op = some st →
      (Ledger.run s (ops ++ [op])).store = st ∧
        st.current.revision = g.store.current.revision + 1) ∧
    (∀ subscribers op, { g.store with subscribers := subscribers }.perform? op =
      (g.store.perform? op).map fun st =>
        { st with subscribers := subscribers.map fun u => ⟨u.seen ++ [st.current]⟩ }) ∧
    (∀ later, let joined := g.store.subscribe
      (joined.run later).subscribers =
        (g.store.subscribers ++ [Subscriber.mk []]).map fun u : Subscriber =>
          ⟨u.seen ++ joined.news later⟩) ∧
    g.store.current.revision ≤ s.revision + ops.length := by
  intro g
  obtain ⟨hrecent, hle, hevicted⟩ := Ledger.tracks s ops
  refine ⟨hrecent, hle, ?_, fun st hst => ?_, ?_, fun c record e he => ?_, fun hempty => ?_,
    fun op st hst => ?_, g.store.perform?_withSubscribers, g.store.subscribe.subscribers_run,
    Ledger.revision_le s ops⟩
  · intro hlt
    exact hevicted hlt
  · obtain ⟨previous, hhistory, hcurrent, -⟩ := undo_spec hst
    obtain ⟨old, hold⟩ := hrecent
    have hstack : g.stack = previous :: (st.history ++ old) := by
      rw [← hold, hhistory]
      rfl
    obtain ⟨pre, c, rest, hops, hok, hpre, htail⟩ := Ledger.stack_head hstack
    refine ⟨pre, c, rest, hops, hok, ?_, ?_⟩
    · rw [hpre, htail, hstack]
    · rw [hpre, hcurrent]
  · unfold canUndo undo?
    cases g.store.history <;> simp
  · rw [Ledger.run_concat, Ledger.step_of_none (perform?_commit_eq_none.mpr ⟨e, he⟩)]
  · have hundo : g.store.perform? .undo = none := undo?_eq_none_iff.mpr hempty
    rw [Ledger.run_concat, Ledger.step_of_none hundo]
  · refine ⟨?_, (perform?_spec hst).1⟩
    rw [Ledger.run_concat, Ledger.step_store hst]

/-- A recorded commit, and one that is not recorded after it, are undone by one undo. -/
theorem undo_takes_unrecorded_back :
    let ops : List Op :=
      [.commit (.setData "total" (.bool true)) true, .commit (.setData "total" .null) false]
    ∃ st pre, (Ledger.run {} ops).store.undo? = some st ∧ pre <+: ops ∧
      st.current = { (Ledger.run {} pre).store.current with revision := 3 } := by
  intro ops
  obtain ⟨-, -, -, hrestores, hcan, -⟩ := history_isRecent_and_undo_restores {} ops
  obtain ⟨st, hst⟩ := hcan.mp (by decide +kernel)
  obtain ⟨pre, c, rest, hops, -, -, hcurrent⟩ := hrestores st hst
  refine ⟨st, pre, hst, ⟨_, hops.symm⟩, ?_⟩
  have hrevision : (Ledger.run {} ops).store.current.revision = 2 := by decide +kernel
  rw [hcurrent, hrevision]

end Store
end PageBuilder
