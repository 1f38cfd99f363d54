import Mathlib.Data.List.Infix
import PageBuilder.Proofs.Session.Replay

/-!
# Taking commits back

Recorded commits leave the snapshots before those that succeed in the history, above what was there
(`LeadsTo`), as far as the limit goes. As many undos as commits succeeded, up to the limit, find
each of these snapshots and end in the first of them (`commits_taken_back`), however full the
history was.
-/

namespace PageBuilder
namespace Store

/-- The store after so many undos, if each of them succeeds. -/
def undos? (st : Store) : Nat → Option Store
  | 0 => some st
  | n + 1 => st.undo?.bind fun st' => st'.undos? n

/-- Undos give back the snapshots at the head of the history, one after the other. -/
theorem undos?_of_history {st : Store} {snapshots old : List Snapshot}
    (h : st.history = snapshots ++ old) :
    ∃ back, st.undos? snapshots.length = some back ∧ back.history = old ∧
      back.current =
        { snapshots.getLastD st.current with revision := st.current.revision +
          snapshots.length } := by
  induction snapshots generalizing st with
  | nil => exact ⟨st, rfl, h, rfl⟩
  | cons previous snapshots ih =>
    cases hundo : st.undo? with
    | none =>
      rw [undo?_eq_none_iff.mp hundo] at h
      exact absurd h.symm (List.cons_ne_nil _ _)
    | some st' =>
      obtain ⟨top, hhistory, hcurrent, -⟩ := undo_spec hundo
      obtain ⟨rfl, hrest⟩ := List.cons_eq_cons.mp (hhistory.symm.trans h)
      obtain ⟨back, hback, hold, hlast⟩ := ih hrest
      refine ⟨back, ?_, hold, ?_⟩
      · rw [List.length_cons, undos?, hundo]
        exact hback
      · rw [hlast, hcurrent, List.getLastD_cons, List.length_cons, Nat.add_right_comm,
          Nat.add_assoc]
        -- without a further snapshot the one that came back differs in its revision only
        cases snapshots <;> rfl

/-- Recorded commits lead from `st` to `st'`; `snapshots` are those before the commits that
succeeded, the latest first. -/
structure LeadsTo (st : Store) (snapshots : List Snapshot) (st' : Store) : Prop where
  first : snapshots.getLastD st'.current = st.current
  revision : st'.current.revision = st.current.revision + snapshots.length
  /-- The snapshots are on top of the history, up to the limit. -/
  top : snapshots.take historyLimit <+: st'.history
  /-- Below them is what was there before, or the recent part of it. -/
  below : st'.history <+: snapshots ++ st.history

namespace LeadsTo

variable {st st' : Store} {snapshots : List Snapshot}

theorem refl (st : Store) : LeadsTo st [] st where
  first := rfl
  revision := rfl
  top := List.nil_prefix
  below := List.prefix_rfl

theorem commit (h : LeadsTo st snapshots st') {c : Command} {next : Store}
    (hc : st'.commit c true = .ok next) :
    LeadsTo st (st'.current :: snapshots) next := by
  obtain ⟨applied, -, hcurrent, hhistory, -⟩ := commit_spec hc
  refine ⟨?_, ?_, ?_, ?_⟩
  · rw [List.getLastD_cons]
    exact h.first
  · rw [hcurrent, List.length_cons, h.revision, Nat.add_assoc]
  · have htop : snapshots.take (historyLimit - 1) <+: st'.history.take (historyLimit - 1) := by
      have htop := List.IsPrefix.take h.top (historyLimit - 1)
      rwa [List.take_take] at htop
    rw [hhistory]
    exact List.cons_prefix_cons.mpr ⟨rfl, htop⟩
  · rw [hhistory]
    exact (List.take_prefix _ _).trans (List.cons_prefix_cons.mpr ⟨rfl, h.below⟩)

theorem perform (h : LeadsTo st snapshots st') (c : Command) :
    ∃ snapshots', LeadsTo st snapshots' (st'.perform (.commit c true)) := by
  rcases perform_cases st' (.commit c true) with hsame | hok
  · exact ⟨snapshots, by rw [hsame]; exact h⟩
  · exact ⟨_, h.commit (perform?_commit_eq_some.mp hok)⟩

theorem run_commits (h : LeadsTo st snapshots st') (cs : List Command) :
    ∃ snapshots', LeadsTo st snapshots' (st'.run (commits cs)) := by
  induction cs generalizing snapshots st' with
  | nil => exact ⟨snapshots, h⟩
  | cons c cs ih =>
    obtain ⟨snapshots', h'⟩ := h.perform c
    exact ih h'

/-- Within the limit, every snapshot is still in the history, and all of them can be taken back. -/
theorem taken_back (h : LeadsTo st snapshots st') (hle : snapshots.length ≤ historyLimit) :
    ∃ back, st'.undos? snapshots.length = some back ∧ back.history <+: st.history ∧
      back.current =
        { st.current with revision := st.current.revision + 2 * snapshots.length } := by
  obtain ⟨old, hold⟩ : snapshots <+: st'.history := by
    have htop := h.top
    rwa [List.take_of_length_le hle] at htop
  obtain ⟨back, hback, hbelow, hcurrent⟩ := undos?_of_history hold.symm
  refine ⟨back, hback, ?_, ?_⟩
  · have hbelow' := h.below
    rw [← hold] at hbelow'
    rw [hbelow]
    exact (List.prefix_append_right_inj snapshots).mp hbelow'
  · rw [hcurrent, h.first, h.revision, Nat.add_assoc, ← Nat.two_mul]

end LeadsTo

/-- Undoing as often as recorded commits raised the revision takes all of them back, if they are not
more than the limit. -/
theorem commits_taken_back (st : Store) (cs : List Command) {k : Nat}
    (hrise : (st.run (commits cs)).current.revision = st.current.revision + k)
    (hk : k ≤ historyLimit) :
    ∃ back, (st.run (commits cs)).undos? k = some back ∧ back.history <+: st.history ∧
      back.current = { st.current with revision := st.current.revision + 2 * k } := by
  obtain ⟨snapshots, h⟩ := (LeadsTo.refl st).run_commits cs
  obtain rfl : k = snapshots.length := Nat.add_left_cancel (hrise.symm.trans h.revision)
  exact h.taken_back hk

end Store
end PageBuilder
