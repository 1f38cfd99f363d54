import PageBuilder.Proofs.Event.StoreDispatch

/-!
# Gates do not see the edges

The gates of the edges are judged in the one snapshot that the steps left, though every edge that
fires leaves a new one. It makes no difference: an edge changes the surface only, and formulas see
the data, the node and the project (`fireEdge_seenAlike`). So each gate has the answer that it would
have in the snapshot just before its own edge, and a dispatch that judges them there does the same
(`edges_judged_alike`).
-/

namespace PageBuilder

/-- What the gates of the edges that start at a node see. -/
def Snapshot.scopeAt (s : Snapshot) (nodeId : String) : Scope := s.scopeFor (s.project.node? nodeId)

/-- Two snapshots that are the same for formulas: they differ in the surface and in the revision at
most. -/
structure Snapshot.SeenAlike (s s' : Snapshot) : Prop where
  project : s'.project = s.project
  data : s'.data = s.data

namespace Snapshot.SeenAlike

theorem refl (s : Snapshot) : SeenAlike s s := ⟨rfl, rfl⟩

theorem trans {s s' s'' : Snapshot} (h : SeenAlike s s') (h' : SeenAlike s' s'') :
    SeenAlike s s'' :=
  ⟨h'.project.trans h.project, h'.data.trans h.data⟩

theorem scopeAt {s s' : Snapshot} (h : SeenAlike s s') (nodeId : String) :
    s'.scopeAt nodeId = s.scopeAt nodeId := by
  unfold Snapshot.scopeAt scopeFor
  rw [h.project, h.data]

end Snapshot.SeenAlike

/-- The command of an edge changes nothing that formulas see. -/
theorem FlowTarget.seenAlike_of_apply {target : FlowTarget} {c : Command}
    (h : target.command? = some c) {ruleId : String} {s s' : Snapshot}
    (hc : c.apply ruleId s = .ok s') : s.SeenAlike s' := by
  cases target with
  | unknown => cases h
  | navigate pageId =>
    cases h
    simp only [Command.apply] at hc
    split at hc
    · cases hc
      exact ⟨rfl, rfl⟩
    · cases hc
  | openFragment id =>
    cases h
    simp only [Command.apply] at hc
    split at hc
    · cases hc
      exact ⟨rfl, rfl⟩
    · cases hc
  | closeFragment id =>
    cases h
    cases id <;> cases hc <;> exact ⟨rfl, rfl⟩

theorem FlowTarget.seenAlike_of_perform {target : FlowTarget} {c : Command}
    (h : target.command? = some c) (st : Store) :
    st.current.SeenAlike (st.perform (.commit c true)).current := by
  rcases Store.perform_cases st (.commit c true) with hsame | hok
  · rw [hsame]
    exact .refl _
  · obtain ⟨next, hnext, hcurrent, -⟩ := Store.commit_spec (Store.perform?_commit_eq_some.mp hok)
    obtain ⟨hproject, hdata⟩ := seenAlike_of_apply h hnext
    rw [hcurrent]
    exact ⟨hproject, hdata⟩

/-- Fire edges in their order, and judge the gate of each in the snapshot just before it. -/
def Host.fireEdgesLive {σ : Type} (host : Host σ) (nodeId : String) (edges : List FlowEdge)
    (r : Report) (st : σ) : Report × σ :=
  edges.foldl (fun p edge => host.fireEdge ((host.snapshot p.2).scopeAt nodeId) edge p.1 p.2)
    (r, st)

namespace StoreHost

variable (carry : Web.Transport)

/-- An edge changes nothing that formulas see, whether it fires, fails or is passed over. -/
theorem fireEdge_seenAlike (scope : Scope) (edge : FlowEdge) (r : Report) (st : StoreHost) :
    st.store.current.SeenAlike ((host carry).fireEdge scope edge r st).2.store.current := by
  by_cases hgate : Formula.gateOpen edge.gate scope
  · rw [fireEdge_store_of_open carry hgate]
    cases hcommand : edge.target.command? with
    | none => exact .refl _
    | some c => exact FlowTarget.seenAlike_of_perform hcommand st.store
  · have hskipped : ((host carry).fireEdge scope edge r st).2 = st := by simp [Host.fireEdge, hgate]
    rw [hskipped]
    exact .refl _

theorem fireEdges_seenAlike (scope : Scope) (edges : List FlowEdge) (r : Report) (st : StoreHost) :
    st.store.current.SeenAlike ((host carry).fireEdges scope edges r st).2.store.current := by
  induction edges generalizing r st with
  | nil => exact .refl _
  | cons edge edges ih => exact (fireEdge_seenAlike carry scope edge r st).trans (ih _ _)

theorem fireEdgesLive_eq (nodeId : String) (edges : List FlowEdge) (r : Report) (st : StoreHost) :
    (host carry).fireEdgesLive nodeId edges r st =
      (host carry).fireEdges (st.store.current.scopeAt nodeId) edges r st := by
  induction edges generalizing r st with
  | nil => rfl
  | cons edge edges ih =>
    have hscope :=
      (fireEdge_seenAlike carry (st.store.current.scopeAt nodeId) edge r st).scopeAt nodeId
    have hrest := ih ((host carry).fireEdge (st.store.current.scopeAt nodeId) edge r st).1
      ((host carry).fireEdge (st.store.current.scopeAt nodeId) edge r st).2
    rw [hscope] at hrest
    exact hrest

/-- **Edge gates do not see edge effects**: over every transport and in whatever state the steps of
an event left the store, each edge that starts there finds the same edges and the same scope in the
snapshot just before it as in the one before the first edge, whatever became of the edges in
between; so its gate has the same answer, and so has every formula. A dispatch is one that judges
each gate in the snapshot just before its own edge. -/
theorem edges_judged_alike (carry : Web.Transport) (nodeId event : String) (st : StoreHost) :
    let reached := (host carry).runNode nodeId event st
    let middle := reached.2.store.current
    let edges := middle.project.edgesFrom nodeId event
    (∀ earlier edge later, edges = earlier ++ edge :: later →
      let now :=
        ((host carry).fireEdges (middle.scopeAt nodeId) earlier reached.1 reached.2).2.store.current
      now.project.edgesFrom nodeId event = edges ∧
        Formula.gateOpen edge.gate (now.scopeAt nodeId) =
          Formula.gateOpen edge.gate (middle.scopeAt nodeId) ∧
        ∀ x, Formula.eval (now.scopeAt nodeId) x = Formula.eval (middle.scopeAt nodeId) x) ∧
      (host carry).dispatch nodeId event st =
        (host carry).fireEdgesLive nodeId edges reached.1 reached.2 := by
  intro reached middle edges
  refine ⟨fun earlier edge later _ => ?_,
    (fireEdgesLive_eq carry nodeId edges reached.1 reached.2).symm⟩
  intro now
  have hnow : middle.SeenAlike now := fireEdges_seenAlike carry _ earlier reached.1 reached.2
  rw [hnow.project, hnow.scopeAt nodeId]
  exact ⟨rfl, rfl, fun x => rfl⟩

/-- An edge to another page. -/
def leavingEdge : FlowEdge := { nodeId := "a", event := "click", target := .navigate "done" }

/-- An edge that depends on the data. -/
def waitingEdge : FlowEdge :=
  { nodeId := "a", event := "click", gate := some "data.ready", target := .openFragment "none" }

/-- A host with a node from which both edges start. -/
def leavingHost : StoreHost :=
  { store := .start (.opened
      { pages := [{ id := "home" }, { id := "done" }]
        nodes := [("a", { id := "a", component := "Button" })]
        flows := [leavingEdge, waitingEdge] }
      (.object [("ready", .bool true)])) }

/-- The first edge has left the page, and the gate of the second has the answer from before. -/
theorem edges_judged_alike_elsewhere :
    let before := leavingHost.store.current
    let now :=
      ((host .unreachable).fireEdges (before.scopeAt "a") [leavingEdge] {}
        leavingHost).2.store.current
    before.ui.activePage = some "home" ∧ now.ui.activePage = some "done" ∧
      Formula.gateOpen waitingEdge.gate (now.scopeAt "a") =
        Formula.gateOpen waitingEdge.gate (before.scopeAt "a") := by
  intro before now
  have hedges : before.project.edgesFrom "a" "click" = [leavingEdge] ++ waitingEdge :: [] := by
    decide
  have hgate :=
    ((edges_judged_alike .unreachable "a" "click" leavingHost).1 [leavingEdge] waitingEdge
      [] hedges).2.1
  exact ⟨rfl, by decide, hgate⟩

end StoreHost

end PageBuilder
