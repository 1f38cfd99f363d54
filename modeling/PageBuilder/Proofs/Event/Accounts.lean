import PageBuilder.Event.Recorder
import PageBuilder.Event.StoreHost
import PageBuilder.Proofs.Event.Errands
import PageBuilder.Proofs.Session.Run

/-!
# The accounts of a dispatch

The report of a dispatch counts what was run, what failed and what was passed over, and the host is
told of every failure. The two agree over any host (`dispatch_balances`): what the host is told of
are the steps that failed, and the edges that neither fired nor were skipped. To count the calls, a
host is `logged`, which changes nothing that it does (`Refines.dispatch`). Any count of the failures
that a host keeps itself comes to the same number (`Tallies.dispatch`); a store host keeps one by
its notices.
-/

namespace PageBuilder

/-- The call tells of a failure. -/
def Call.isFailure : Call → Bool
  | effect _ => false
  | failed .. => true

namespace Host

variable {σ τ : Type}

/-! ### The report of a dispatch -/

/-- The edges that a dispatch comes to: those that start there in the snapshot that the steps
left. -/
def edgesReached (host : Host σ) (nodeId event : String) (st : σ) : List FlowEdge :=
  (host.snapshot (host.runNode nodeId event st).2).project.edgesFrom nodeId event

/-- The number of failures by the report: of the steps that failed, and of the edges that neither
fired nor were skipped. -/
def failuresReported (host : Host σ) (nodeId event : String) (st : σ) : Nat :=
  let r := (host.dispatch nodeId event st).1
  r.stepsFailed + ((host.edgesReached nodeId event st).length - (r.edgesFired + r.edgesSkipped))

/-! ### Hosts that act alike -/

/-- The host `fine` does what `host` does; `view` takes its states to those of `host`. -/
structure Refines (fine : Host τ) (host : Host σ) (view : τ → σ) : Prop where
  snapshot : ∀ st, fine.snapshot st = host.snapshot (view st)
  perform : ∀ e st, host.perform e (view st) = ((fine.perform e st).1, view (fine.perform e st).2)
  failed : ∀ kind e st, host.failed kind e (view st) = view (fine.failed kind e st)

namespace Refines

variable {fine : Host τ} {host : Host σ} {view : τ → σ} (h : Refines fine host view)

include h

theorem runEffect (effect : Effect) (saveTo : Option String) (st : τ) :
    host.runEffect effect saveTo (view st) =
      ((fine.runEffect effect saveTo st).1, view (fine.runEffect effect saveTo st).2) := by
  unfold Host.runEffect
  rw [h.perform]
  rcases fine.perform effect st with ⟨e | result, st'⟩
  · rfl
  · cases saveTo with
    | none => rfl
    | some path =>
      dsimp only
      rw [h.perform]
      rcases fine.perform (.setData path result) st' with ⟨_ | _, _⟩ <;> rfl

theorem runStep (step : Step) (r : Report) (st : τ) :
    host.runStep step r (view st) =
      ((fine.runStep step r st).1, view (fine.runStep step r st).2) := by
  unfold Host.runStep
  cases step.effect? with
  | none => rfl
  | some effect =>
    dsimp only
    rw [h.runEffect]
    rcases fine.runEffect effect step.saveTo? st with ⟨e | _, st'⟩
    · exact congrArg (Prod.mk _) (h.failed step.kind e st')
    · rfl

theorem runSteps (steps : List Step) (r : Report) (st : τ) :
    host.runSteps steps r (view st) =
      ((fine.runSteps steps r st).1, view (fine.runSteps steps r st).2) := by
  unfold Host.runSteps
  induction steps generalizing r st with
  | nil => rfl
  | cons step steps ih => rw [List.foldl_cons, List.foldl_cons, h.runStep, ih]

theorem fireEdge (scope : Scope) (edge : FlowEdge) (r : Report) (st : τ) :
    host.fireEdge scope edge r (view st) =
      ((fine.fireEdge scope edge r st).1, view (fine.fireEdge scope edge r st).2) := by
  unfold Host.fireEdge
  by_cases hgate : Formula.gateOpen edge.gate scope
  · rw [if_pos hgate, if_pos hgate]
    cases edge.target.effect? with
    | none => rfl
    | some effect =>
      dsimp only
      rw [h.perform]
      rcases fine.perform effect st with ⟨e | _, st'⟩
      · exact congrArg (Prod.mk r) (h.failed edge.target.kind e st')
      · rfl
  · rw [if_neg hgate, if_neg hgate]

theorem fireEdges (scope : Scope) (edges : List FlowEdge) (r : Report) (st : τ) :
    host.fireEdges scope edges r (view st) =
      ((fine.fireEdges scope edges r st).1, view (fine.fireEdges scope edges r st).2) := by
  unfold Host.fireEdges
  induction edges generalizing r st with
  | nil => rfl
  | cons edge edges ih => rw [List.foldl_cons, List.foldl_cons, h.fireEdge, ih]

theorem runNode (nodeId event : String) (st : τ) :
    host.runNode nodeId event (view st) =
      ((fine.runNode nodeId event st).1, view (fine.runNode nodeId event st).2) := by
  rw [runNode_eq, runNode_eq, ← h.snapshot, h.runSteps]

theorem dispatch (nodeId event : String) (st : τ) :
    host.dispatch nodeId event (view st) =
      ((fine.dispatch nodeId event st).1, view (fine.dispatch nodeId event st).2) := by
  unfold Host.dispatch
  dsimp only
  rw [h.runNode]
  dsimp only
  rw [← h.snapshot, h.fireEdges]

theorem edgesReached (nodeId event : String) (st : τ) :
    host.edgesReached nodeId event (view st) = fine.edgesReached nodeId event st := by
  unfold Host.edgesReached
  rw [h.runNode, ← h.snapshot]

theorem failuresReported (nodeId event : String) (st : τ) :
    host.failuresReported nodeId event (view st) = fine.failuresReported nodeId event st := by
  unfold Host.failuresReported
  rw [h.dispatch, h.edgesReached]

end Refines

/-- The host that also writes down its calls. -/
def logged (host : Host σ) : Host (σ × List Call) where
  snapshot st := host.snapshot st.1
  perform e st := ((host.perform e st.1).1, (host.perform e st.1).2, st.2 ++ [.effect e])
  failed kind e st := (host.failed kind e st.1, st.2 ++ [.failed kind e.message])

theorem logged_refines (host : Host σ) : Refines host.logged host Prod.fst :=
  ⟨fun _ => rfl, fun _ _ => rfl, fun _ _ _ => rfl⟩

/-! ### What a host keeps -/

theorem runEffect_keeps {host : Host σ} {P : σ → Prop}
    (hperform : ∀ e st, P st → P (host.perform e st).2) (effect : Effect)
    (saveTo : Option String) {st : σ} (h : P st) : P (host.runEffect effect saveTo st).2 := by
  have hfirst := hperform effect st h
  unfold runEffect
  rcases heffect : host.perform effect st with ⟨_ | result, st'⟩
  · rw [heffect] at hfirst
    exact hfirst
  · rw [heffect] at hfirst
    cases saveTo with
    | none => exact hfirst
    | some path =>
      have hstore := hperform (.setData path result) st' hfirst
      rcases hsecond : host.perform (.setData path result) st' with ⟨_ | _, st''⟩ <;>
        rw [hsecond] at hstore <;>
        simp only [hsecond] <;> exact hstore

/-- A dispatch keeps what every effect and every report of a failure keep. -/
theorem dispatch_keeps {host : Host σ} {P : σ → Prop}
    (hperform : ∀ e st, P st → P (host.perform e st).2)
    (hfailed : ∀ kind e st, P st → P (host.failed kind e st)) (nodeId event : String) {st : σ}
    (h : P st) :
    P (host.dispatch nodeId event st).2 := by
  have hserve : ∀ st x, P st → P (host.serve st x) := by
    intro st x hst
    have hrun := runEffect_keeps hperform x.effect x.saveTo hst
    unfold serve
    rcases heffect : host.runEffect x.effect x.saveTo st with ⟨e | _, st'⟩
    · rw [heffect] at hrun
      exact hfailed x.kind e st' hrun
    · rw [heffect] at hrun
      exact hrun
  have hserveAll : ∀ (xs : List Errand) st, P st → P (xs.foldl host.serve st) := by
    intro xs
    induction xs with
    | nil => exact fun _ hst => hst
    | cons x xs ih => exact fun st hst => ih _ (hserve st x hst)
  rw [dispatch_state]
  exact hserveAll _ _ (hserveAll _ _ h)

/-! ### Counting failures -/

/-- A number in the states of a host that rises by one with each failure the host is told of, and
with nothing else. -/
structure Tallies (host : Host σ) (count : σ → Nat) : Prop where
  perform : ∀ e st, count (host.perform e st).2 = count st
  failed : ∀ kind e st, count (host.failed kind e st) = count st + 1

theorem tallies_logged (host : Host σ) :
    Tallies host.logged fun st => st.2.countP Call.isFailure where
  perform e st := by simp [logged, Call.isFailure]
  failed kind e st := by simp [logged, Call.isFailure]

namespace Tallies

variable {host : Host σ} {count : σ → Nat} (h : Tallies host count)

include h

theorem runEffect (effect : Effect) (saveTo : Option String) (st : σ) :
    count (host.runEffect effect saveTo st).2 = count st :=
  runEffect_keeps (P := fun st' => count st' = count st)
    (fun e st' hst => (h.perform e st').trans hst) effect saveTo rfl

/-- A step of a known kind fails or not, and of a failure the host is told. -/
theorem runStep (step : Step) (r : Report) (st : σ) :
    ∃ failed ≤ if step.isKnown then 1 else 0,
      (host.runStep step r st).1.stepsFailed = r.stepsFailed + failed ∧
      count (host.runStep step r st).2 = count st + failed := by
  unfold Host.runStep
  cases heffect : step.effect? with
  | none => exact ⟨0, Nat.zero_le _, rfl, rfl⟩
  | some effect =>
    have hknown : step.isKnown = true := by
      cases step with
      | unknown => cases heffect
      | alert | setData | setProps | http | emit | navigate | openFragment | closeFragment => rfl
    have hcount := h.runEffect effect step.saveTo? st
    rw [if_pos hknown]
    dsimp only
    rcases hrun : host.runEffect effect step.saveTo? st with ⟨e | _, st'⟩
    · rw [hrun] at hcount
      exact ⟨1, Nat.le_refl 1, rfl, by rw [h.failed, hcount]⟩
    · rw [hrun] at hcount
      exact ⟨0, Nat.zero_le 1, rfl, hcount⟩

theorem runSteps (steps : List Step) (r : Report) (st : σ) :
    ∃ failed ≤ steps.countP Step.isKnown,
      (host.runSteps steps r st).1.stepsFailed = r.stepsFailed + failed ∧
      count (host.runSteps steps r st).2 = count st + failed := by
  unfold Host.runSteps
  induction steps generalizing r st with
  | nil => exact ⟨0, Nat.le_refl 0, rfl, rfl⟩
  | cons step steps ih =>
    obtain ⟨failed, hle, hfailed, hcount⟩ := h.runStep step r st
    obtain ⟨failed', hle', hfailed', hcount'⟩ :=
      ih (host.runStep step r st).1 (host.runStep step r st).2
    rw [List.foldl_cons, List.countP_cons]
    refine ⟨failed + failed', by omega, ?_, ?_⟩
    · rw [hfailed', hfailed, Nat.add_assoc]
    · rw [hcount', hcount, Nat.add_assoc]

/-- An edge fires, is skipped as it leads nowhere, or fails, and only then the host is told. -/
theorem fireEdge (scope : Scope) (edge : FlowEdge) (r : Report) (st : σ) :
    ∃ told, count (host.fireEdge scope edge r st).2 = count st + told ∧
      (host.fireEdge scope edge r st).1.edgesFired +
        (if leadsNowhere scope edge then 1 else 0) + told =
        r.edgesFired + 1 := by
  unfold Host.fireEdge leadsNowhere
  by_cases hgate : Formula.gateOpen edge.gate scope
  · cases edge.target.effect? with
    | none => exact ⟨0, by simp [hgate]⟩
    | some effect =>
      have hcount := h.perform effect st
      rcases hperform : host.perform effect st with ⟨e | _, st'⟩
      · rw [hperform] at hcount
        exact ⟨1, by simp [hgate, hperform, h.failed, hcount]⟩
      · rw [hperform] at hcount
        exact ⟨0, by simp [hgate, hperform, hcount]⟩
  · exact ⟨0, by simp [hgate]⟩

theorem fireEdges (scope : Scope) (edges : List FlowEdge) (r : Report) (st : σ) :
    ∃ told, count (host.fireEdges scope edges r st).2 = count st + told ∧
      (host.fireEdges scope edges r st).1.edgesFired + edges.countP (leadsNowhere scope) + told =
        r.edgesFired + edges.length := by
  induction edges generalizing r st with
  | nil => exact ⟨0, rfl, rfl⟩
  | cons edge edges ih =>
    obtain ⟨told, hcount, hedge⟩ := h.fireEdge scope edge r st
    obtain ⟨told', hcount', hedges⟩ :=
      ih (host.fireEdge scope edge r st).1 (host.fireEdge scope edge r st).2
    have hcons : host.fireEdges scope (edge :: edges) r st =
        host.fireEdges scope edges (host.fireEdge scope edge r st).1
          (host.fireEdge scope edge r st).2 := rfl
    rw [hcons, List.countP_cons, List.length_cons]
    exact ⟨told + told', by omega, by omega⟩

/-- No more steps fail than are run; an edge fires, is skipped or fails. Of all that failed the host
is told. -/
theorem dispatch (nodeId event : String) (st : σ) :
    let done := host.dispatch nodeId event st
    let edges := host.edgesReached nodeId event st
    done.1.stepsFailed ≤ done.1.stepsRun ∧ done.1.edgesFired + done.1.edgesSkipped ≤ edges.length ∧
      count done.2 = count st + host.failuresReported nodeId event st := by
  intro done edges
  obtain ⟨failed, hle, hfailed, hnode⟩ := h.runSteps ((host.snapshot st).stepsToRun nodeId event)
    { bagSkipped := (host.snapshot st).passesOver nodeId event } st
  obtain ⟨run, failed', hsteps⟩ := host.runSteps_report ((host.snapshot st).stepsToRun nodeId event)
    { bagSkipped := (host.snapshot st).passesOver nodeId event } st
  rw [← runNode_eq] at hfailed hnode hsteps
  let after := host.snapshot (host.runNode nodeId event st).2
  let scope := after.scopeFor (after.project.node? nodeId)
  obtain ⟨told, hcount, hedges⟩ :=
    h.fireEdges scope edges (host.runNode nodeId event st).1 (host.runNode nodeId event st).2
  obtain ⟨fired, hreport⟩ :=
    host.fireEdges_report scope edges (host.runNode nodeId event st).1
      (host.runNode nodeId event st).2
  have hdone : done = host.fireEdges scope edges (host.runNode nodeId event st).1
    (host.runNode nodeId event st).2 := rfl
  -- the steps leave the counters of the edges at zero, and the edges leave those of the steps
  have hstepsRun : done.1.stepsRun =
      ((host.snapshot st).stepsToRun nodeId event).countP Step.isKnown :=
    host.dispatch_stepsRun nodeId event st
  have hstepsFailed : done.1.stepsFailed = failed := by
    have hkept : done.1.stepsFailed = (host.runNode nodeId event st).1.stepsFailed := by
      rw [hdone, hreport]
    rw [hkept, hfailed]
    exact Nat.zero_add failed
  have hskipped : done.1.edgesSkipped = edges.countP (leadsNowhere scope) :=
    host.dispatch_edgesSkipped nodeId event st
  have hfired : done.1.edgesFired + edges.countP (leadsNowhere scope) + told = edges.length := by
    have hzero : (host.runNode nodeId event st).1.edgesFired = 0 := by rw [hsteps]
    rw [hdone, hedges, hzero, Nat.zero_add]
  have htold : count done.2 = count st + failed + told := by rw [hdone, hcount, hnode]
  have hreported : host.failuresReported nodeId event st =
      done.1.stepsFailed + (edges.length - (done.1.edgesFired + done.1.edgesSkipped)) := rfl
  exact ⟨by omega, by omega, by omega⟩

end Tallies

end Host

/-! ### The steps of an event -/

/-- The steps of `bag` are bound to the event on the node, which is `n`. -/
def Snapshot.Binds (s : Snapshot) (nodeId event : String) (n : Node) (bag : ActionBag) : Prop :=
  s.project.node? nodeId = some n ∧ n.actions.get? event = some bag

namespace Snapshot

variable {s : Snapshot} {nodeId event : String}

theorem stepsToRun_of_binds {n : Node} {bag : ActionBag} (h : s.Binds nodeId event n bag) :
    s.stepsToRun nodeId event =
      if Formula.gateOpen bag.when (s.scopeFor (some n)) then bag.steps else [] := by
  simp only [stepsToRun, h.1, h.2]

theorem stepsToRun_of_not_binds (h : ¬∃ n bag, s.Binds nodeId event n bag) :
    s.stepsToRun nodeId event = [] := by
  unfold stepsToRun
  cases hnode : s.project.node? nodeId with
  | none => rfl
  | some n =>
    dsimp only
    cases hbag : n.actions.get? event with
    | none => rfl
    | some bag => exact absurd ⟨n, bag, hnode, hbag⟩ h

theorem passesOver_eq_true_iff :
    s.passesOver nodeId event = true ↔
      ∃ n bag, s.Binds nodeId event n bag ∧
        Formula.gateOpen bag.when (s.scopeFor (some n)) = false := by
  constructor
  · intro h
    unfold passesOver at h
    cases hnode : s.project.node? nodeId with
    | none => simp [hnode] at h
    | some n =>
      cases hbag : n.actions.get? event with
      | none => simp [hnode, hbag] at h
      | some bag => exact ⟨n, bag, ⟨hnode, hbag⟩, by simpa [hnode, hbag] using h⟩
  · rintro ⟨n, bag, ⟨hnode, hbag⟩, hgate⟩
    simp [passesOver, hnode, hbag, hgate]

end Snapshot

/-! ### What a store host announces -/

namespace Notice

/-- The notice tells of a failure. -/
def isError : Notice → Bool
  | error .. => true
  | _ => false

/-- The notice tells of a change to the snapshot: to its data, its props, its page or its
fragments. -/
def isChange : Notice → Bool
  | dataChanged _ | propsChanged _ | navigated _ | fragmentOpened _ | fragmentClosed _ => true
  | alert _ | emit .. | httpCompleted .. | error .. => false

end Notice

namespace StoreHost

/-- From `st` to `st'` the notices `new` were added, and the revision rose by one with each of them
that tells of a change. -/
structure Adds (new : List Notice) (st st' : StoreHost) : Prop where
  notices : st'.notices = st.notices ++ new
  revision : st'.store.current.revision = st.store.current.revision + new.countP Notice.isChange

theorem Adds.none (st : StoreHost) : Adds [] st st := ⟨(List.append_nil _).symm, rfl⟩

theorem Adds.trans {new new' : List Notice} {st st' st'' : StoreHost} (h : Adds new st st')
    (h' : Adds new' st' st'') :
    Adds (new ++ new') st st'' where
  notices := by rw [h'.notices, h.notices, List.append_assoc]
  revision := by rw [h'.revision, h.revision, List.countP_append, Nat.add_assoc]

theorem announce_adds (st : StoreHost) {n : Notice} (hn : n.isChange = false) :
    Adds [n] st (st.announce n) where
  notices := rfl
  revision := by
    rw [List.countP_singleton, hn]
    rfl

theorem commit_adds (st : StoreHost) (c : Command) {n : Notice} (hn : n.isChange = true) :
    ∃ new, (new = [] ∨ new = [n]) ∧ Adds new st (st.commit c n).2 := by
  unfold commit
  cases hcommit : st.store.commit c true with
  | error e => exact ⟨[], .inl rfl, Adds.none st⟩
  | ok store =>
    obtain ⟨next, -, hcurrent, -⟩ := Store.commit_spec hcommit
    refine ⟨[n], .inr rfl, rfl, ?_⟩
    show store.current.revision = _
    rw [hcurrent, List.countP_singleton, hn]
    rfl

/-- An effect is announced by at most one notice, and not by one of a failure. -/
theorem perform_adds (carry : Web.Transport) (effect : Effect) (st : StoreHost) :
    ∃ new, new.countP Notice.isError = 0 ∧ Adds new st (perform carry effect st).2 := by
  have hcommit : ∀ (c : Command) (n : Notice), n.isChange = true → n.isError = false →
      ∃ new, new.countP Notice.isError = 0 ∧ Adds new st (st.commit c n).2 := by
    intro c n hchange herror
    obtain ⟨new, rfl | rfl, hadds⟩ := commit_adds st c hchange
    · exact ⟨[], rfl, hadds⟩
    · exact ⟨[n], by rw [List.countP_singleton, herror]; rfl, hadds⟩
  cases effect with
  | alert message => exact ⟨[.alert message], rfl, announce_adds st rfl⟩
  | emit topic payload => exact ⟨[.emit topic payload], rfl, announce_adds st rfl⟩
  | setData | setProps | navigate | openFragment | closeFragment => exact hcommit _ _ rfl rfl
  | http request =>
    show ∃ new, _ ∧ Adds new st (st.send carry request).2
    unfold send
    cases Web.send carry request with
    | error e => exact ⟨[], rfl, Adds.none st⟩
    | ok answer => exact ⟨[.httpCompleted request.url answer.status], rfl, announce_adds st rfl⟩

/-- A store host counts the failures that it is told of by its notices. -/
theorem tallies_notices (carry : Web.Transport) :
    (host carry).Tallies fun st => st.notices.countP Notice.isError where
  perform effect st := by
    obtain ⟨new, hnone, hadds⟩ := perform_adds carry effect st
    show (perform carry effect st).2.notices.countP Notice.isError = _
    rw [hadds.notices, List.countP_append, hnone, Nat.add_zero]
  failed kind e st := List.countP_append

theorem dispatch_adds (carry : Web.Transport) (nodeId event : String) (st : StoreHost) :
    ∃ new, Adds new st ((host carry).dispatch nodeId event st).2 := by
  have hperform : ∀ e st', (∃ new, Adds new st st') →
      ∃ new, Adds new st ((host carry).perform e st').2 := by
    rintro e st' ⟨new, h⟩
    obtain ⟨new', -, h'⟩ := perform_adds carry e st'
    exact ⟨new ++ new', h.trans h'⟩
  have hfailed : ∀ kind e st', (∃ new, Adds new st st') →
      ∃ new, Adds new st ((host carry).failed kind e st') := by
    rintro kind e st' ⟨new, h⟩
    exact ⟨new ++ [.error kind e.message], h.trans (announce_adds st' rfl)⟩
  exact Host.dispatch_keeps hperform hfailed nodeId event ⟨[], Adds.none st⟩

end StoreHost

end PageBuilder
