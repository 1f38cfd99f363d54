import PageBuilder.Proofs.Event.Report
import PageBuilder.Proofs.Formula.Words
import PageBuilder.Proofs.Session.DataPaths

/-!
# Written data are read back

A store cuts a dotted path at its dots to write there, and a formula scans the same path into tokens
to read it. On paths of words the two agree (`not_mem_keysOf_of_words`, `parse_data`), so a formula
reads just what was written at its path, and the gates of steps and edges see it
(`setData_read_back`).
-/

namespace PageBuilder

section Words

variable {path : String} (h : ∀ key ∈ Text.split '.' path.toList, Formula.IsWord key)

include h

/-- No key in a path of words is empty. -/
theorem Json.not_mem_keysOf_of_words : "" ∉ keysOf path := by
  rw [empty_mem_keysOf_iff]
  exact fun hmem => absurd (h [] hmem) (by decide)

theorem Formula.parse_data :
    parse ("data." ++ path) = .ok (.path .data (Json.keysOf path)) := by
  have htext : ("data." ++ path).toList = "data".toList ++
      Token.keyChars (Text.split '.' path.toList) := by
    rw [Token.keyChars_split, String.toList_append]
    rfl
  exact parse_path htext (by decide) h (by decide)

/-- The value is written at the keys of the path, and nothing else changes. -/
theorem Store.commit_setData_of_words (st : Store) (value : Json) (record : Bool) :
    ∃ st', st.commit (.setData path value) record = .ok st' ∧
      st'.current = { st.current with
        data := Json.put value (Json.keysOf path) st.current.data
        revision := st.current.revision + 1 } := by
  have hkeys : "" ∉ Json.keysOf path := Json.not_mem_keysOf_of_words h
  unfold commit
  rw [Command.apply_setData_of_not_mem hkeys]
  exact ⟨_, rfl, rfl⟩

end Words

/-- **Written data are read back**: whatever a store holds, a value can be written at every dotted
path of words, recorded or not, and then the formula `data.` with that path has just this value, in
the scope of any node and of none. So a gate of that text lets the steps of an event, or an edge,
pass exactly if the value is truthy. -/
theorem setData_read_back (st : Store) {path : String}
    (hpath : ∀ key ∈ Text.split '.' path.toList, Formula.IsWord key)
    (value : Json) (record : Bool) :
    let formula := "data." ++ path
    let project := st.current.project
    ∃ st', st.commit (.setData path value) record = .ok st' ∧
      (∃ x, Formula.parse formula = .ok x ∧ ∀ node,
        Formula.eval (st'.current.scopeFor node) x = some value) ∧
      (∀ nodeId event n bag, project.node? nodeId = some n → n.actions.get? event = some bag →
        bag.when = some formula →
        st'.current.stepsToRun nodeId event =
          if Formula.isTruthy (some value) then bag.steps else []) ∧
      ∀ nodeId event, ∀ e ∈ project.edgesFrom nodeId event, e.gate = some formula →
        (e ∈ st'.current.edgesToFire nodeId event ↔ Formula.isTruthy (some value) = true) := by
  intro formula project
  obtain ⟨st', hcommit, hcurrent⟩ := st.commit_setData_of_words hpath value record
  have hproject : st'.current.project = project := by rw [hcurrent]
  have heval : ∀ node, Formula.eval (st'.current.scopeFor node) (.path .data (Json.keysOf path)) =
      some value := by
    intro node
    rw [Formula.eval, hcurrent]
    exact Json.at?_put value _ _
  have hgate : ∀ node, Formula.gateOpen (some formula) (st'.current.scopeFor node) =
      Formula.isTruthy (some value) := by
    intro node
    simp only [Formula.gateOpen, Formula.holds, formula, Formula.parse_data hpath, heval]
  refine ⟨st', hcommit, ⟨_, Formula.parse_data hpath, heval⟩,
    fun nodeId event n bag hn hbag hwhen => ?_, fun nodeId event e he hwhen => ?_⟩
  · simp only [Snapshot.stepsToRun, hproject, hn, hbag, hwhen, hgate]
  · simp only [Snapshot.edgesToFire, hproject, List.mem_filter, he, hwhen, hgate, true_and]

/-- A project with a node whose steps wait for the data at `true.null`, and so does an edge. -/
def gatedProject : Project :=
  { nodes := [("a", {
      id := "a"
      component := "Button"
      actions := [("click", { steps := [.alert "done"], when := some "data.true.null" })] })]
    flows := [{
      nodeId := "a", event := "click", gate := some "data.true.null", target := .navigate "p" }] }

/-- Words that are literals elsewhere may be keys, and data that are no object are replaced by
one. -/
theorem setData_opens_gates :
    ∃ st',
      (Store.start (.opened gatedProject (.string "old"))).commit
        (.setData "true.null" (.bool true)) true = .ok st' ∧
      st'.current.stepsToRun "a" "click" = [.alert "done"] ∧
      ∀ e ∈ gatedProject.flows, e ∈ st'.current.edgesToFire "a" "click" := by
  have hpath : ∀ key ∈ Text.split '.' "true.null".toList, Formula.IsWord key := by decide
  obtain ⟨st', hcommit, -, hsteps, hedges⟩ :=
    setData_read_back (.start (.opened gatedProject (.string "old"))) hpath (.bool true) true
  refine ⟨st', hcommit, hsteps "a" "click" _ _ rfl rfl rfl, fun e he => ?_⟩
  obtain rfl := List.mem_singleton.mp he
  exact (hedges "a" "click" _ (List.mem_singleton.mpr rfl) rfl).mpr rfl

end PageBuilder
