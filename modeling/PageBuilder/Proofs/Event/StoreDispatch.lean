import PageBuilder.Event.StoreHost
import PageBuilder.Proofs.Event.Report
import PageBuilder.Proofs.Session.Replay

/-!
# What a dispatch does to a store

A dispatch on a store host is compared with a plain fold of commands. Each step asks for one command
at most: a request asks for one if its answer means success and is to be stored. Commands that apply
are applied, the others passed over. Then the same is done with the edges whose gates are open in
the state that the steps left (`dispatch_replays`).
-/

namespace PageBuilder

/-! ### The commands that are asked for -/

/-- The value of an answer that means success: what its body spells as JSON, or else the body as a
text. A request that may not leave or is not answered has none, nor has any other answer. -/
def Web.value? (carry : Web.Transport) (r : Request) : Option Json :=
  match Web.check r with
  | .error _ => none
  | .ok url =>
    match carry url r with
    | .error _ => none
    | .ok answer =>
      if 200 ≤ answer.status.toNat ∧ answer.status.toNat ≤ 299 then
        some ((Json.ofText? answer.body).getD (.string answer.body))
      else none

/-- A request asks to store the value of its answer, if it says where. -/
def HttpStep.command? (carry : Web.Transport) (h : HttpStep) : Option Command :=
  h.saveTo.bind fun path => (Web.value? carry h.request).map fun value => .setData path value

/-- The command that a step asks for. -/
def Step.command? (carry : Web.Transport) : Step → Option Command
  | alert _ | emit .. | unknown => none
  | setData path value => some (.setData path value)
  | setProps nodeId patch => some (.setProps nodeId patch)
  | http h => h.command? carry
  | navigate pageId => some (.navigate pageId)
  | openFragment id => some (.openFragment id)
  | closeFragment id => some (.closeFragment id)

/-- The command that a flow target asks for. -/
def FlowTarget.command? : FlowTarget → Option Command
  | navigate pageId => some (.navigate pageId)
  | openFragment id => some (.openFragment id)
  | closeFragment id => some (.closeFragment id)
  | unknown => none

/-- No step asks for a rule. -/
theorem Step.ignoresRuleId {carry : Web.Transport} {step : Step} {c : Command}
    (h : step.command? carry = some c) :
    c.IgnoresRuleId := by
  intro ruleId ruleId' s
  cases step with
  | alert | emit | unknown => cases h
  | http request =>
    obtain ⟨path, -, hvalue⟩ := Option.bind_eq_some_iff.mp h
    obtain ⟨value, -, rfl⟩ := Option.map_eq_some_iff.mp hvalue
    rfl
  | setData | setProps | navigate | openFragment =>
    cases h
    rfl
  | closeFragment id =>
    cases h
    cases id <;> rfl

theorem FlowTarget.ignoresRuleId {target : FlowTarget} {c : Command}
    (h : target.command? = some c) : c.IgnoresRuleId := by
  intro ruleId ruleId' s
  cases target with
  | unknown => cases h
  | navigate | openFragment =>
    cases h
    rfl
  | closeFragment id =>
    cases h
    cases id <;> rfl

/-- The gates of the edges do not see the revision, in which a store may differ from a replay. -/
theorem Store.Follows.edgesToFire {revision : Nat} {p : Snapshot × Nat} {st : Store}
    (h : Follows revision p st) (nodeId event : String) :
    st.current.edgesToFire nodeId event = p.1.edgesToFire nodeId event := by
  rw [h]
  rfl

namespace StoreHost

variable (carry : Web.Transport)

/-! ### One effect -/

/-- A command that is committed changes the store as a recorded commit does. -/
theorem commit_store (c : Command) (n : Notice) (st : StoreHost) :
    (st.commit c n).2.store = st.store.perform (.commit c true) := by
  simp only [commit, Store.perform, Store.perform?]
  cases st.store.commit c true <;> rfl

theorem send_store (r : Request) (st : StoreHost) : (st.send carry r).2.store = st.store := by
  unfold send
  cases Web.send carry r <;> rfl

/-- A request succeeds exactly with the value of its answer. -/
theorem send_eq_value? (r : Request) (st : StoreHost) :
    (st.send carry r).1.toOption = Web.value? carry r := by
  have hsend : (st.send carry r).1.toOption =
      (Web.send carry r).toOption.bind fun answer => (answer.value r.url).toOption := by
    unfold send
    cases Web.send carry r <;> rfl
  rw [hsend, Web.toOption_send]
  unfold Web.value?
  cases Web.check r with
  | error e => rfl
  | ok url =>
    cases hanswer : carry url r with
    | error e => simp [Except.toOption, hanswer]
    | ok answer => simpa [Except.toOption, hanswer] using answer.toOption_value r.url

/-! ### Steps -/

/-- What a step does to the store is what its effect does: a failure is only announced. -/
theorem runStep_store_of_effect {step : Step} {e : Effect} (he : step.effect? = some e) (r : Report)
    (st : StoreHost) :
    ((host carry).runStep step r st).2.store =
      ((host carry).runEffect e step.saveTo? st).2.store := by
  rcases heffect : (host carry).runEffect e step.saveTo? st with ⟨_ | _, st'⟩
  · simp only [Host.runStep, he, heffect]
    rfl
  · simp only [Host.runStep, he, heffect]

theorem runEffect_store_of_commit {e : Effect} {c : Command} {n : Notice} {st : StoreHost}
    (he : (host carry).perform e st = st.commit c n) :
    ((host carry).runEffect e none st).2.store = st.store.perform (.commit c true) := by
  rw [← commit_store c n st]
  rcases hcommit : st.commit c n with ⟨_ | _, st'⟩ <;> simp only [Host.runEffect, he, hcommit]

/-- A request changes the store only by storing the value of its answer. -/
theorem runEffect_http_store (h : HttpStep) (st : StoreHost) :
    ((host carry).runEffect (.http h.request) h.saveTo st).2.store =
      st.store.run (Store.commits (h.command? carry).toList) := by
  have hperform : (host carry).perform (.http h.request) st = st.send carry h.request := rfl
  have hvalue := send_eq_value? carry h.request st
  have hstore := send_store carry h.request st
  unfold HttpStep.command?
  rw [← hvalue]
  rcases hsend : st.send carry h.request with ⟨e | v, st'⟩
  · rw [hsend] at hstore
    simp only [Host.runEffect, hperform, hsend]
    cases h.saveTo <;> exact hstore
  · rw [hsend] at hstore
    cases h.saveTo with
    | none =>
      simp only [Host.runEffect, hperform, hsend]
      exact hstore
    | some path =>
      -- the value is committed in the store that the request left as it was
      have hcommit := commit_store (.setData path v) (.dataChanged path) st'
      rw [show st'.store = st.store from hstore] at hcommit
      have hset : (host carry).perform (.setData path v) st' =
        st'.commit (.setData path v) (.dataChanged path) := rfl
      simp only [Host.runEffect, hperform, hsend, hset]
      refine Eq.trans ?_ hcommit
      rcases st'.commit (.setData path v) (.dataChanged path) with ⟨_ | _, _⟩ <;> rfl

theorem runStep_store (step : Step) (r : Report) (st : StoreHost) :
    ((host carry).runStep step r st).2.store =
      st.store.run (Store.commits (step.command? carry).toList) := by
  cases step with
  | unknown | alert message | emit topic payload => rfl
  | http h => exact (runStep_store_of_effect carry rfl r st).trans (runEffect_http_store carry h st)
  | setData | setProps | navigate | openFragment | closeFragment =>
    exact (runStep_store_of_effect carry rfl r st).trans (runEffect_store_of_commit carry rfl)

theorem runSteps_store (steps : List Step) (r : Report) (st : StoreHost) :
    ((host carry).runSteps steps r st).2.store =
      st.store.run (Store.commits (steps.filterMap (Step.command? carry))) := by
  unfold Host.runSteps
  induction steps generalizing r st with
  | nil => rfl
  | cons step steps ih =>
    rw [List.foldl_cons, ih, runStep_store, ← Store.run_append, ← Store.commits_append]
    cases hcommand : step.command? carry <;> simp [hcommand]

theorem runNode_store (nodeId event : String) (st : StoreHost) :
    ((host carry).runNode nodeId event st).2.store =
      st.store.run
        (Store.commits
          ((st.store.current.stepsToRun nodeId event).filterMap (Step.command? carry))) := by
  obtain ⟨r, -, hnode⟩ := (host carry).runNode_eq_runSteps nodeId event st
  rw [hnode]
  exact runSteps_store carry _ r st

/-! ### Edges -/

/-- What an edge does to the store is what its effect does: a failure is only announced. -/
theorem fireEdge_store_of_effect {scope : Scope} {edge : FlowEdge} {e : Effect}
    (hgate : Formula.gateOpen edge.gate scope) (he : edge.target.effect? = some e) (r : Report)
    (st : StoreHost) :
    ((host carry).fireEdge scope edge r st).2.store = ((host carry).perform e st).2.store := by
  rcases hperform : (host carry).perform e st with ⟨_ | _, st'⟩
  · simp only [Host.fireEdge, hgate, he, hperform]
    rfl
  · simp only [Host.fireEdge, hgate, he, hperform]
    rfl

theorem fireEdge_store_of_open {scope : Scope} {edge : FlowEdge}
    (hgate : Formula.gateOpen edge.gate scope) (r : Report) (st : StoreHost) :
    ((host carry).fireEdge scope edge r st).2.store =
      st.store.run (Store.commits edge.target.command?.toList) := by
  cases htarget : edge.target with
  | unknown =>
    simp only [Host.fireEdge, hgate, htarget, FlowTarget.effect?]
    rfl
  | navigate | openFragment | closeFragment =>
    rw [fireEdge_store_of_effect carry hgate (congrArg FlowTarget.effect? htarget)]
    exact commit_store _ _ st

theorem fireEdges_store (scope : Scope) (edges : List FlowEdge) (r : Report) (st : StoreHost) :
    ((host carry).fireEdges scope edges r st).2.store =
      st.store.run (Store.commits
        ((edges.filter fun e => Formula.gateOpen e.gate scope).filterMap fun e =>
          e.target.command?)) := by
  unfold Host.fireEdges
  induction edges generalizing r st with
  | nil => rfl
  | cons edge edges ih =>
    rw [List.foldl_cons, ih]
    by_cases hgate : Formula.gateOpen edge.gate scope
    · rw [fireEdge_store_of_open carry hgate, ← Store.run_append, ← Store.commits_append]
      cases hcommand : edge.target.command? <;> simp [hgate, hcommand]
    · simp [Host.fireEdge, hgate]

/-! ### Dispatch -/

/-- A dispatch changes the store as recorded commits do: of what its steps ask for, and then of what
its edges ask for. -/
theorem dispatch_store (nodeId event : String) (st : StoreHost) :
    let steps := st.store.current.stepsToRun nodeId event
    let middle := st.store.run (Store.commits (steps.filterMap (Step.command? carry)))
    let edges := middle.current.edgesToFire nodeId event
    ((host carry).dispatch nodeId event st).2.store =
      middle.run (Store.commits (edges.filterMap fun e => e.target.command?)) := by
  intro steps middle edges
  have hmiddle : ((host carry).runNode nodeId event st).2.store = middle :=
    runNode_store carry nodeId event st
  have hsnapshot : (host carry).snapshot ((host carry).runNode nodeId event st).2 =
      middle.current :=
    congrArg Store.current hmiddle
  simp only [Host.dispatch, hsnapshot]
  rw [fireEdges_store, hmiddle]
  rfl

/-- A server with a cart, a greeting and nothing else; it hangs up where it is asked to. -/
def shopServer : Web.Transport := fun url _ =>
  match url.tail with
  | "/cart" => .ok ⟨200, "[1, 2]"⟩
  | "/greeting" => .ok ⟨200, "hello"⟩
  | "/hangup" => .error "connection closed"
  | _ => .ok ⟨404, "[3]"⟩

/-- A page whose root asks the server for all that it has, and more. -/
def shopHost : StoreHost :=
  let ask (tail path : String) : Step :=
    .http { url := "https://shop.test" ++ tail, saveTo := some path }
  let steps :=
    [ask "/cart" "cart.items", ask "/missing" "missing", ask "/hangup" "lost",
      ask "/greeting" "note"]
  let root : Node :=
    { id := "root", component := "Page", actions := [("load", { steps := steps })] }
  { store := .start { project := { nodes := [("root", root)] } } }

end StoreHost

end PageBuilder
