import PageBuilder.Proofs.Session.Run

/-!
# Commits as a fold of commands

A store that commits some commands, whether they succeed or fail, holds the snapshot to which a
plain fold leads: each command is applied if it applies, and passed over if not. The revision counts
those that succeed (`Store.run_commits`).
-/

namespace PageBuilder

namespace Command

/-- No command looks at the revision or moves it. -/
theorem apply_withRevision (c : Command) (ruleId : String) (s : Snapshot) (r : Nat) :
    c.apply ruleId { s with revision := r } = (c.apply ruleId s).map fun s' =>
      { s' with revision := r } := by
  have hmodify : ∀ id f, Snapshot.modifyNode { s with revision := r } id f =
      (s.modifyNode id f).map fun s' => { s' with revision := r } := by
    intro id f
    unfold Snapshot.modifyNode
    split <;> rfl
  cases c with
  | setData path value =>
    simp only [apply]
    split <;> rfl
  | setProps nodeId patch => exact hmodify _ _
  | closeFragment id => cases id <;> rfl
  | setNodeStyle nodeId viewport patch =>
    simp only [apply]
    split
    · exact hmodify _ _
    · rfl
  | navigate pageId | openFragment id | setViewport name | upsertStyleRule nodeId viewport patch =>
    simp only [apply]
    split <;> rfl

/-- The command does the same whatever identifier a rule would get. -/
def IgnoresRuleId (c : Command) : Prop := ∀ ruleId ruleId' s, c.apply ruleId s = c.apply ruleId' s

end Command

namespace Snapshot

/-- Apply a command and count it; one that fails changes nothing. -/
def attempt (ruleId : String) (p : Snapshot × Nat) (c : Command) : Snapshot × Nat :=
  match c.apply ruleId p.1 with
  | .ok s => (s, p.2 + 1)
  | .error _ => p

/-- The snapshot after commands, and how many of them have succeeded, from a snapshot and a number
on. -/
def replay (ruleId : String) (p : Snapshot × Nat) (cs : List Command) : Snapshot × Nat :=
  cs.foldl (attempt ruleId) p

end Snapshot

namespace Store

/-- Recorded commits of commands. -/
def commits (cs : List Command) : List Op := cs.map fun c => .commit c true

theorem commits_append (cs cs' : List Command) : commits (cs ++ cs') = commits cs ++ commits cs' :=
  List.map_append

/-- The store holds the snapshot of a replay that began at a revision. -/
def Follows (revision : Nat) (p : Snapshot × Nat) (st : Store) : Prop :=
  st.current = { p.1 with revision := revision + p.2 }

theorem Follows.perform {revision : Nat} {p : Snapshot × Nat} {st : Store}
    (h : Follows revision p st) (ruleId : String) {c : Command} (hc : c.IgnoresRuleId)
    (record : Bool) :
    Follows revision (Snapshot.attempt ruleId p c) (st.perform (.commit c record)) := by
  have happly : c.apply (StyleRule.numberedId st.nextRule) st.current =
      (c.apply ruleId p.1).map fun s => { s with revision := revision + p.2 } := by
    rw [h, hc _ ruleId, c.apply_withRevision]
  unfold Snapshot.attempt
  cases hp : c.apply ruleId p.1 with
  | error e =>
    rw [hp] at happly
    rw [perform_commit_of_error record happly]
    exact h
  | ok s =>
    rw [hp] at happly
    unfold Follows
    rw [current_perform_commit record happly, h]
    rfl

/-- Commits of commands lead a store to where the fold of the commands leads. -/
theorem Follows.run_commits {revision : Nat} {p : Snapshot × Nat} {st : Store}
    (h : Follows revision p st) (ruleId : String) {cs : List Command}
    (hcs : ∀ c ∈ cs, c.IgnoresRuleId) :
    Follows revision (Snapshot.replay ruleId p cs) (st.run (commits cs)) := by
  induction cs generalizing p st with
  | nil => exact h
  | cons c cs ih =>
    obtain ⟨hc, hcs⟩ := List.forall_mem_cons.mp hcs
    exact ih (h.perform ruleId hc true) hcs

end Store

end PageBuilder
