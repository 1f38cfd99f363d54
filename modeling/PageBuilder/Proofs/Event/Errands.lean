import PageBuilder.Proofs.Event.Report

/-!
# The errands of an event

What a step or an edge asks of a host is an errand: an effect, and perhaps a place for its result.
Whatever a host does, a dispatch serves the errands of the steps, and then those of the edges, each
of them and in their order (`dispatch_state`); which ones they are is in the snapshots alone.
-/

namespace PageBuilder

/-- What a step or an edge asks for. -/
structure Errand where
  /-- The kind of the step or the edge. -/
  kind : String
  effect : Effect
  /-- The data path at which the result is stored. -/
  saveTo : Option String := none

/-- The errand of a step; one of an unknown kind has none. -/
def Step.errand? (step : Step) : Option Errand :=
  step.effect?.map fun e => ⟨step.kind, e, step.saveTo?⟩

/-- The errand of a flow target; one of an unknown kind has none. -/
def FlowTarget.errand? (target : FlowTarget) : Option Errand :=
  target.effect?.map fun e => ⟨target.kind, e, none⟩

/-- The errand of a request is to send it, and to store its answer where the step says. -/
theorem Step.errand?_http (h : HttpStep) :
    (Step.http h).errand? = some ⟨"http", .http h.request, h.saveTo⟩ := rfl

/-- No other step has a result that is stored. -/
theorem Step.saveTo_eq_some_iff {step : Step} {x : Errand} (hx : step.errand? = some x)
    {path : String} : x.saveTo = some path ↔ ∃ h, step = .http h ∧ h.saveTo = some path := by
  cases step with
  | http h =>
    rw [errand?_http] at hx
    obtain rfl := Option.some.inj hx
    exact ⟨fun hpath => ⟨h, rfl, hpath⟩, fun ⟨_, rfl, hpath⟩ => hpath⟩
  | unknown => cases hx
  | alert | setData | setProps | emit | navigate | openFragment | closeFragment =>
    obtain rfl := Option.some.inj hx
    simp [saveTo?]

/-- The result of an edge is not stored. -/
theorem FlowTarget.saveTo_eq_none {target : FlowTarget} {x : Errand}
    (hx : target.errand? = some x) : x.saveTo = none := by
  obtain ⟨e, -, rfl⟩ := Option.map_eq_some_iff.mp hx
  rfl

namespace Snapshot

/-- The errands of the steps that an event on a node runs. -/
def stepErrands (s : Snapshot) (nodeId event : String) : List Errand :=
  (s.stepsToRun nodeId event).filterMap Step.errand?

/-- The errands of the edges that an event on a node fires. -/
def edgeErrands (s : Snapshot) (nodeId event : String) : List Errand :=
  (s.edgesToFire nodeId event).filterMap fun e => e.target.errand?

end Snapshot

namespace Host

variable {σ : Type} (host : Host σ)

/-- Perform the effect of an errand and store its result; a failure is told. -/
def serve (st : σ) (x : Errand) : σ :=
  match host.runEffect x.effect x.saveTo st with
  | (.ok _, st) => st
  | (.error e, st) => host.failed x.kind e st

theorem runStep_state (step : Step) (r : Report) (st : σ) :
    (host.runStep step r st).2 = step.errand?.toList.foldl host.serve st := by
  unfold runStep Step.errand?
  cases step.effect? with
  | none => rfl
  | some effect =>
    simp only [Option.map_some, Option.toList_some, List.foldl_cons, List.foldl_nil, serve]
    rcases host.runEffect effect step.saveTo? st with ⟨_ | _, st'⟩ <;> rfl

theorem runSteps_state (steps : List Step) (r : Report) (st : σ) :
    (host.runSteps steps r st).2 = (steps.filterMap Step.errand?).foldl host.serve st := by
  unfold runSteps
  induction steps generalizing r st with
  | nil => rfl
  | cons step steps ih =>
    rw [List.foldl_cons, ih, runStep_state]
    cases herrand : step.errand? <;> simp [herrand]

theorem fireEdge_state {scope : Scope} {edge : FlowEdge} (hgate : Formula.gateOpen edge.gate scope)
    (r : Report) (st : σ) :
    (host.fireEdge scope edge r st).2 = edge.target.errand?.toList.foldl host.serve st := by
  unfold fireEdge FlowTarget.errand?
  rw [if_pos hgate]
  cases edge.target.effect? with
  | none => rfl
  | some effect =>
    simp only [Option.map_some, Option.toList_some, List.foldl_cons, List.foldl_nil,
      serve, runEffect]
    rcases host.perform effect st with ⟨_ | _, st'⟩ <;> rfl

theorem fireEdges_state (scope : Scope) (edges : List FlowEdge) (r : Report) (st : σ) :
    (host.fireEdges scope edges r st).2 =
      ((edges.filter fun e => Formula.gateOpen e.gate scope).filterMap fun e =>
        e.target.errand?).foldl host.serve st := by
  unfold fireEdges
  induction edges generalizing r st with
  | nil => rfl
  | cons edge edges ih =>
    rw [List.foldl_cons, ih]
    by_cases hgate : Formula.gateOpen edge.gate scope
    · rw [host.fireEdge_state hgate]
      cases herrand : edge.target.errand? <;> simp [hgate, herrand]
    · simp [fireEdge, hgate]

/-- A dispatch serves the errands of the steps, and then those of the edges in the snapshot that the
steps left. -/
theorem dispatch_state (nodeId event : String) (st : σ) :
    let middle := ((host.snapshot st).stepErrands nodeId event).foldl host.serve st
    (host.dispatch nodeId event st).2 =
      ((host.snapshot middle).edgeErrands nodeId event).foldl host.serve middle := by
  intro middle
  have hmiddle : (host.runNode nodeId event st).2 = middle := by
    rw [runNode_eq]
    exact host.runSteps_state _ _ st
  unfold dispatch
  dsimp only
  rw [hmiddle, fireEdges_state]
  rfl

end Host

end PageBuilder
