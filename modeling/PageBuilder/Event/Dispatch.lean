import PageBuilder.Event.Effect

/-!
# Dispatching events

When an event fires on a node, the steps bound to it run in their order if their gate is open; then
the flow edges that start there fire in theirs, each if its own gate is open. The gates of the edges
are judged in the one snapshot that the steps left. A step or an edge that fails is reported to the
host and stops nothing after it.
-/

namespace PageBuilder

/-- What one dispatch did. -/
structure Report where
  stepsRun : Nat := 0
  stepsFailed : Nat := 0
  /-- The gate of the steps was closed. -/
  bagSkipped : Bool := false
  edgesFired : Nat := 0
  edgesSkipped : Nat := 0
deriving DecidableEq

open Json in
/-- The stored form of a report. -/
def Report.toJson (r : Report) : Json := .object <|
  field "bagSkipped" r.bagSkipped ++ field "edgesFired" (Json.ofNat r.edgesFired) ++
    field "edgesSkipped" (Json.ofNat r.edgesSkipped) ++
    field "stepsFailed" (Json.ofNat r.stepsFailed) ++ field "stepsRun" (Json.ofNat r.stepsRun)

/-- The effect of a flow target; one of an unknown kind has none. -/
def FlowTarget.effect? : FlowTarget → Option Effect
  | navigate pageId => some (.navigate pageId)
  | openFragment id => some (.openFragment id)
  | closeFragment id => some (.closeFragment id)
  | unknown => none

/-- The first effect of a step; one of an unknown kind has none. -/
def Step.effect? : Step → Option Effect
  | alert message => some (.alert message)
  | setData path value => some (.setData path value)
  | setProps nodeId patch => some (.setProps nodeId patch)
  | http h => some (.http h.request)
  | emit topic payload => some (.emit topic payload)
  | navigate pageId => some (.navigate pageId)
  | openFragment id => some (.openFragment id)
  | closeFragment id => some (.closeFragment id)
  | unknown => none

/-- The data path at which the result of a step is stored. -/
def Step.saveTo? : Step → Option String
  | http h => h.saveTo
  | _ => none

namespace Host

variable {σ : Type}

/-- Perform the effect of a step, and store its result if the step says where. -/
def runEffect (host : Host σ) (effect : Effect) (saveTo : Option String) (st : σ) :
    Except Failure Unit × σ :=
  match host.perform effect st with
  | (.error e, st) => (.error e, st)
  | (.ok result, st) =>
    match saveTo with
    | none => (.ok (), st)
    | some path =>
      match host.perform (.setData path result) st with
      | (.error e, st) => (.error e, st)
      | (.ok _, st) => (.ok (), st)

/-- Run a step; one of an unknown kind is passed over. -/
def runStep (host : Host σ) (step : Step) (r : Report) (st : σ) : Report × σ :=
  match step.effect? with
  | none => (r, st)
  | some effect =>
    let r := { r with stepsRun := r.stepsRun + 1 }
    match host.runEffect effect step.saveTo? st with
    | (.ok (), st) => (r, st)
    | (.error e, st) => ({ r with stepsFailed := r.stepsFailed + 1 }, host.failed step.kind e st)

/-- Run steps in their order. -/
def runSteps (host : Host σ) (steps : List Step) (r : Report) (st : σ) : Report × σ :=
  steps.foldl (fun p step => host.runStep step p.1 p.2) (r, st)

/-- Run the steps bound to an event on a node, if their gate is open. -/
def runBag (host : Host σ) (scope : Scope) (bag : ActionBag) (r : Report) (st : σ) : Report × σ :=
  if Formula.gateOpen bag.when scope then host.runSteps bag.steps r st
  else ({ r with bagSkipped := true }, st)

/-- Fire an edge, unless its gate is closed or its target is of an unknown kind. -/
def fireEdge (host : Host σ) (scope : Scope) (edge : FlowEdge) (r : Report) (st : σ) : Report × σ :=
  if Formula.gateOpen edge.gate scope then
    match edge.target.effect? with
    | none => ({ r with edgesSkipped := r.edgesSkipped + 1 }, st)
    | some effect =>
      match host.perform effect st with
      | (.ok _, st) => ({ r with edgesFired := r.edgesFired + 1 }, st)
      | (.error e, st) => (r, host.failed edge.target.kind e st)
  else ({ r with edgesSkipped := r.edgesSkipped + 1 }, st)

/-- Fire edges in their order. -/
def fireEdges (host : Host σ) (scope : Scope) (edges : List FlowEdge) (r : Report) (st : σ) :
    Report × σ :=
  edges.foldl (fun p edge => host.fireEdge scope edge p.1 p.2) (r, st)

/-- The steps of an event on a node. -/
def runNode (host : Host σ) (nodeId event : String) (st : σ) : Report × σ :=
  let s := host.snapshot st
  match s.project.node? nodeId with
  | none => ({}, st)
  | some n =>
    match n.actions.get? event with
    | none => ({}, st)
    | some bag => host.runBag (s.scopeFor (some n)) bag {} st

/-- An event fires on a node. -/
def dispatch (host : Host σ) (nodeId event : String) (st : σ) : Report × σ :=
  let (r, st) := host.runNode nodeId event st
  let s := host.snapshot st
  host.fireEdges (s.scopeFor (s.project.node? nodeId)) (s.project.edgesFrom nodeId event) r st

end Host

end PageBuilder
