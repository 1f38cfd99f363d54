import PageBuilder.Event.Dispatch

/-!
# What a dispatch runs

Over any host, a dispatch runs the steps that are bound to the event if their gate is open
(`runNode_eq`), and then fires the edges. Each step of a known kind counts as run, whatever the host
makes of it, and no edge does (`dispatch_stepsRun`). What is passed over is decided by the snapshots
alone, too: the steps by the first one (`dispatch_bagSkipped`), and the edges by the one that the
steps left (`dispatch_edgesSkipped`).
-/

namespace PageBuilder

/-- The kind of the step is known. -/
def Step.isKnown : Step → Bool
  | unknown => false
  | _ => true

/-- The steps that an event on a node runs: those bound to it, if their gate is open. -/
def Snapshot.stepsToRun (s : Snapshot) (nodeId event : String) : List Step :=
  match s.project.node? nodeId with
  | none => []
  | some n =>
    match n.actions.get? event with
    | none => []
    | some bag => if Formula.gateOpen bag.when (s.scopeFor (some n)) then bag.steps else []

/-- The steps that are bound to an event on a node are passed over, as their gate is closed. -/
def Snapshot.passesOver (s : Snapshot) (nodeId event : String) : Bool :=
  match s.project.node? nodeId with
  | none => false
  | some n =>
    match n.actions.get? event with
    | none => false
    | some bag => !Formula.gateOpen bag.when (s.scopeFor (some n))

/-- The edges that an event on a node fires: those that start there, if their own gates are open. -/
def Snapshot.edgesToFire (s : Snapshot) (nodeId event : String) : List FlowEdge :=
  (s.project.edgesFrom nodeId event).filter fun e =>
    Formula.gateOpen e.gate (s.scopeFor (s.project.node? nodeId))

namespace Host

variable {σ : Type} (host : Host σ)

/-- The steps of an event run from a fresh report, which says at most that the gate was closed. -/
theorem runNode_eq (nodeId event : String) (st : σ) :
    host.runNode nodeId event st =
      host.runSteps ((host.snapshot st).stepsToRun nodeId event)
        { bagSkipped := (host.snapshot st).passesOver nodeId event } st := by
  unfold runNode Snapshot.stepsToRun Snapshot.passesOver
  dsimp only
  cases (host.snapshot st).project.node? nodeId with
  | none => rfl
  | some n =>
    dsimp only
    cases n.actions.get? event with
    | none => rfl
    | some bag =>
      dsimp only [runBag]
      by_cases hgate : Formula.gateOpen bag.when ((host.snapshot st).scopeFor (some n))
      · rw [if_pos hgate, if_pos hgate, hgate]
        rfl
      · rw [if_neg hgate, if_neg hgate, Bool.eq_false_iff.mpr hgate]
        rfl

theorem runNode_eq_runSteps (nodeId event : String) (st : σ) :
    ∃ r : Report, r.stepsRun = 0 ∧
      host.runNode nodeId event st =
        host.runSteps ((host.snapshot st).stepsToRun nodeId event) r st :=
  ⟨_, rfl, host.runNode_eq nodeId event st⟩

theorem runStep_stepsRun (step : Step) (r : Report) (st : σ) :
    (host.runStep step r st).1.stepsRun = r.stepsRun + if step.isKnown then 1 else 0 := by
  unfold runStep
  cases step with
  | unknown => rfl
  | alert | setData | setProps | http | emit | navigate | openFragment | closeFragment =>
    simp only [Step.effect?, Step.isKnown, if_true]
    split <;> rfl

theorem runSteps_stepsRun (steps : List Step) (r : Report) (st : σ) :
    (host.runSteps steps r st).1.stepsRun = r.stepsRun + steps.countP Step.isKnown := by
  unfold runSteps
  induction steps generalizing r st with
  | nil => rfl
  | cons step steps ih =>
    simp only [List.foldl_cons, ih, runStep_stepsRun, List.countP_cons]
    omega

theorem fireEdge_stepsRun (scope : Scope) (edge : FlowEdge) (r : Report) (st : σ) :
    (host.fireEdge scope edge r st).1.stepsRun = r.stepsRun := by
  unfold fireEdge
  split
  · split
    · rfl
    · split <;> rfl
  · rfl

theorem fireEdges_stepsRun (scope : Scope) (edges : List FlowEdge) (r : Report) (st : σ) :
    (host.fireEdges scope edges r st).1.stepsRun = r.stepsRun := by
  unfold fireEdges
  induction edges generalizing r st with
  | nil => rfl
  | cons edge edges ih => rw [List.foldl_cons, ih, fireEdge_stepsRun]

/-- No step of a known kind is left out because an earlier one failed. -/
theorem dispatch_stepsRun (nodeId event : String) (st : σ) :
    (host.dispatch nodeId event st).1.stepsRun =
      ((host.snapshot st).stepsToRun nodeId event).countP Step.isKnown := by
  obtain ⟨r, hfresh, hnode⟩ := host.runNode_eq_runSteps nodeId event st
  unfold dispatch
  rw [fireEdges_stepsRun, hnode, runSteps_stepsRun, hfresh, Nat.zero_add]

/-! ### What is passed over -/

/-- A step counts as run or as failed, and changes nothing else in the report. -/
theorem runStep_report (step : Step) (r : Report) (st : σ) :
    ∃ run failed,
      (host.runStep step r st).1 = { r with stepsRun := run, stepsFailed := failed } := by
  unfold runStep
  cases step.effect? with
  | none => exact ⟨_, _, rfl⟩
  | some effect =>
    dsimp only
    split <;> exact ⟨_, _, rfl⟩

theorem runSteps_report (steps : List Step) (r : Report) (st : σ) :
    ∃ run failed,
      (host.runSteps steps r st).1 = { r with stepsRun := run, stepsFailed := failed } := by
  unfold runSteps
  induction steps generalizing r st with
  | nil => exact ⟨_, _, rfl⟩
  | cons step steps ih =>
    obtain ⟨run, failed, hstep⟩ := host.runStep_report step r st
    obtain ⟨run', failed', hsteps⟩ := ih (host.runStep step r st).1 (host.runStep step r st).2
    refine ⟨run', failed', ?_⟩
    rw [List.foldl_cons, hsteps, hstep]

/-- The edge leads nowhere in a scope: its gate is closed, or its target is of an unknown kind. -/
def leadsNowhere (scope : Scope) (edge : FlowEdge) : Bool :=
  !Formula.gateOpen edge.gate scope || edge.target.effect?.isNone

theorem fireEdge_report (scope : Scope) (edge : FlowEdge) (r : Report) (st : σ) :
    ∃ fired, (host.fireEdge scope edge r st).1 =
      { r with edgesFired := fired,
               edgesSkipped := r.edgesSkipped + if leadsNowhere scope edge then 1 else 0 } := by
  unfold fireEdge leadsNowhere
  by_cases hgate : Formula.gateOpen edge.gate scope
  · cases edge.target.effect? with
    | none => exact ⟨r.edgesFired, by simp [hgate]⟩
    | some effect =>
      rcases hperform : host.perform effect st with ⟨_ | _, st'⟩
      · exact ⟨r.edgesFired, by simp [hgate, hperform]⟩
      · exact ⟨r.edgesFired + 1, by simp [hgate, hperform]⟩
  · exact ⟨r.edgesFired, by simp [hgate]⟩

theorem fireEdges_report (scope : Scope) (edges : List FlowEdge) (r : Report) (st : σ) :
    ∃ fired, (host.fireEdges scope edges r st).1 =
      { r with edgesFired := fired,
               edgesSkipped := r.edgesSkipped + edges.countP (leadsNowhere scope) } := by
  unfold fireEdges
  induction edges generalizing r st with
  | nil => exact ⟨_, rfl⟩
  | cons edge edges ih =>
    obtain ⟨fired, hedge⟩ := host.fireEdge_report scope edge r st
    obtain ⟨fired', hedges⟩ :=
      ih (host.fireEdge scope edge r st).1 (host.fireEdge scope edge r st).2
    refine ⟨fired', ?_⟩
    rw [List.foldl_cons, hedges, hedge, List.countP_cons]
    simp only [Report.mk.injEq, true_and]
    omega

/-- The report says that the steps were passed over exactly if they were in the snapshot before. -/
theorem dispatch_bagSkipped (nodeId event : String) (st : σ) :
    (host.dispatch nodeId event st).1.bagSkipped = (host.snapshot st).passesOver nodeId event := by
  unfold dispatch
  dsimp only
  obtain ⟨fired, hedges⟩ :=
    host.fireEdges_report _ _ (host.runNode nodeId event st).1 (host.runNode nodeId event st).2
  rw [hedges, runNode_eq]
  obtain ⟨run, failed, hsteps⟩ := host.runSteps_report ((host.snapshot st).stepsToRun nodeId event)
    { bagSkipped := (host.snapshot st).passesOver nodeId event } st
  rw [hsteps]

/-- The edges that lead nowhere are counted, in the scope of the snapshot that the steps left. -/
theorem dispatch_edgesSkipped (nodeId event : String) (st : σ) :
    let s := host.snapshot (host.runNode nodeId event st).2
    (host.dispatch nodeId event st).1.edgesSkipped =
      (s.project.edgesFrom nodeId event).countP
        (leadsNowhere (s.scopeFor (s.project.node? nodeId))) := by
  intro s
  unfold dispatch
  dsimp only
  obtain ⟨fired, hedges⟩ :=
    host.fireEdges_report (s.scopeFor (s.project.node? nodeId)) (s.project.edgesFrom nodeId event)
    (host.runNode nodeId event st).1 (host.runNode nodeId event st).2
  rw [hedges, runNode_eq]
  obtain ⟨run, failed, hsteps⟩ := host.runSteps_report ((host.snapshot st).stepsToRun nodeId event)
    { bagSkipped := (host.snapshot st).passesOver nodeId event } st
  rw [hsteps]
  exact Nat.zero_add _

end Host

end PageBuilder
