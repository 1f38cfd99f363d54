import PageBuilder.Proofs.Event.StoreDispatch
import PageBuilder.Proofs.Session.Undoing

/-!
# Taking a dispatch back

All that a dispatch does to a store are recorded commits, so undoing as often as it raised the
revision takes it back as a whole (`dispatch_taken_back`).
-/

namespace PageBuilder
namespace StoreHost

/-- A dispatch commits commands, and records each of them. -/
theorem dispatch_store_eq_run (carry : Web.Transport) (nodeId event : String) (st : StoreHost) :
    ∃ cs, ((host carry).dispatch nodeId event st).2.store = st.store.run (Store.commits cs) := by
  have hstore := dispatch_store carry nodeId event st
  dsimp only at hstore
  rw [← Store.run_append, ← Store.commits_append] at hstore
  exact ⟨_, hstore⟩

/-- **A dispatch can be undone**: over every transport and in every store, however full its history
is, undoing as often as the dispatch raised the revision succeeds each time, if that is within the
limit, and brings back the project, the surface and the data from before, whatever steps and edges
failed. Of the history nothing is left but what was there before, or the recent part of it. -/
theorem dispatch_taken_back (carry : Web.Transport) (nodeId event : String)
    (st : StoreHost) (k : Nat) :
    let before := st.store
    let after := ((host carry).dispatch nodeId event st).2.store
    after.current.revision = before.current.revision + k → k ≤ Store.historyLimit →
      ∃ back, after.undos? k = some back ∧ back.current.project = before.current.project ∧
        back.current.ui = before.current.ui ∧ back.current.data = before.current.data ∧
        back.current.revision = before.current.revision + 2 * k ∧
        back.history <+: before.history := by
  intro before after hrise hk
  obtain ⟨cs, hcs⟩ := dispatch_store_eq_run carry nodeId event st
  have hafter : after = before.run (Store.commits cs) := hcs
  rw [hafter] at hrise ⊢
  obtain ⟨back, hback, hhistory, hcurrent⟩ := before.commits_taken_back cs hrise hk
  refine ⟨back, hback, ?_, ?_, ?_, ?_, hhistory⟩ <;> rw [hcurrent]

/-- A project with a node whose steps and edges partly fail: there is one page and no fragment. -/
def partlyFailing : Project :=
  { pages := [{ id := "home" }]
    nodes := [("a", {
      id := "a"
      component := "Button"
      actions := [("click", { steps := [
        .setData "clicked" (.bool true), .navigate "nowhere", .setProps "a" [("on", .null)],
        .unknown] })] })]
    flows := [
      { nodeId := "a", event := "click", target := .openFragment "none" },
      { nodeId := "a", event := "click", target := .navigate "home" }] }

/-- Three commits of a dispatch evict three snapshots of a full history, and are taken back
nevertheless. -/
theorem dispatch_taken_back_of_full :
    let st : StoreHost :=
      { store := { current := { project := partlyFailing }, history := List.replicate 100 {} } }
    let after := ((host .unreachable).dispatch "a" "click" st).2.store
    after.current.revision = 3 ∧ ∃ back, after.undos? 3 = some back ∧
      back.current.project = partlyFailing ∧
      back.current.data = .empty ∧ back.current.revision = 6 := by
  intro st after
  have hrise : after.current.revision = 3 := by decide +kernel
  obtain ⟨back, hback, hproject, -, hdata, hrevision, -⟩ :=
    dispatch_taken_back .unreachable "a" "click" st 3 hrise (by decide)
  exact ⟨hrise, back, hback, hproject, hdata, hrevision⟩

end StoreHost
end PageBuilder
