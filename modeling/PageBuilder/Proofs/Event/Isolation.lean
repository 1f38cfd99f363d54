import PageBuilder.Event.Recorder
import PageBuilder.Proofs.Event.Errands

/-!
# Failures stay where they happen

A host that shows one snapshot and writes down what it is asked to do may let its effects turn out
in any way: it is `scripted` by the outcome of each effect. The errands of an event are settled
before such a host starts, and `Serves` says which calls one errand makes, `ServesAll` which ones
all of them make, one after the other. A refused effect is told at once and keeps its own result
from being stored, and that is all: two scripts for one snapshot make no difference for the effects
that the steps and the edges ask for (`dispatch_isolates_failures`).
-/

namespace PageBuilder

/-- The errands of the steps and of the edges, all in one snapshot. -/
def Snapshot.errands (s : Snapshot) (nodeId event : String) : List Errand :=
  s.stepErrands nodeId event ++ s.edgeErrands nodeId event

namespace Recorder

/-! ### Scripts -/

/-- How effects turn out, by their numbers. -/
abbrev Script := Nat → Effect → Except Failure Json

/-- The recorder after an effect. -/
def noting (st : Recorder) (e : Effect) : Recorder :=
  { calls := st.calls ++ [.effect e], next := st.next + 1 }

/-- The host that shows a snapshot, writes down what it is asked to do, and follows a script. -/
def scripted (s : Snapshot) (script : Script) : Host Recorder where
  snapshot _ := s
  perform e st := (script st.next e, st.noting e)
  failed kind e st := { st with calls := st.calls ++ [.failed kind e.message] }

/-- The script of a plan: some effects are refused, and requests have one answer. -/
def Plan.script (plan : Plan) : Script := fun n e =>
  if plan.refuses n then .error (.effect e.name ("call " ++ toString n ++ " refused"))
  else match e with
    | .http _ => .ok plan.answer
    | _ => .ok .null

/-- A recorder with a plan follows the script of the plan. -/
theorem host_eq_scripted (plan : Plan) : host plan = scripted plan.snapshot plan.script := by
  have hperform : ∀ e st, perform plan e st = (plan.script st.next e, st.noting e) := fun e st => by
    unfold perform Plan.script
    split
    · rfl
    · cases e <;> rfl
  unfold host scripted
  congr
  funext e st
  exact hperform e st

/-! ### The calls for errands -/

/-- What a call is for. -/
inductive Purpose where
  /-- The effect that a step or an edge asks for. -/
  | request
  /-- Its result is stored. -/
  | storing
  /-- The step or the edge failed. -/
  | failure
deriving DecidableEq

/-- A call, and what it is for. -/
structure Entry where
  purpose : Purpose
  call : Call

/-- The calls without those that store results and those that tell of failures. -/
def kept (log : List Entry) : List Call := (log.filter fun e => e.purpose = .request).map Entry.call

/-- The number of effects among the calls. -/
def effects (log : List Entry) : Nat := log.countP fun e => e.purpose ≠ .failure

/-- The calls for an errand whose effect has the number `n`. -/
inductive Serves (script : Script) (x : Errand) (n : Nat) : List Entry → Prop where
  /-- The effect is refused. -/
  | refused (e : Failure) (h : script n x.effect = .error e) :
      Serves script x n [⟨.request, .effect x.effect⟩, ⟨.failure, .failed x.kind e.message⟩]
  /-- It is performed, and its result is not asked for. -/
  | done (v : Json) (h : script n x.effect = .ok v) (hx : x.saveTo = none) :
      Serves script x n [⟨.request, .effect x.effect⟩]
  /-- It is performed, and the next call stores its result. -/
  | stored (v w : Json) (path : String) (h : script n x.effect = .ok v) (hx : x.saveTo = some path)
      (hstore : script (n + 1) (.setData path v) = .ok w) :
      Serves script x n [⟨.request, .effect x.effect⟩, ⟨.storing, .effect (.setData path v)⟩]
  /-- It is performed, and the next call, which is to store its result, is refused. -/
  | lost (v : Json) (path : String) (e : Failure) (h : script n x.effect = .ok v)
      (hx : x.saveTo = some path)
      (hstore : script (n + 1) (.setData path v) = .error e) :
      Serves script x n [⟨.request, .effect x.effect⟩, ⟨.storing, .effect (.setData path v)⟩,
        ⟨.failure, .failed x.kind e.message⟩]

/-- The calls for errands, one errand after the other; the first effect has the number `n`. -/
inductive ServesAll (script : Script) : List Errand → Nat → List Entry → Prop where
  | nil (n : Nat) : ServesAll script [] n []
  | cons {x : Errand} {xs : List Errand} {n : Nat} {block log : List Entry}
      (hx : Serves script x n block)
      (hxs : ServesAll script xs (n + effects block) log) :
        ServesAll script (x :: xs) n (block ++ log)

theorem kept_append (block log : List Entry) : kept (block ++ log) = kept block ++ kept log := by
  simp [kept]

/-- Each errand keeps its effect. -/
theorem Serves.kept {script : Script} {x : Errand} {n : Nat} {block : List Entry}
    (h : Serves script x n block) :
    Recorder.kept block = [.effect x.effect] := by
  cases h <;> rfl

theorem ServesAll.kept {script : Script} {xs : List Errand} {n : Nat} {log : List Entry}
    (h : ServesAll script xs n log) : Recorder.kept log = xs.map fun x => .effect x.effect := by
  induction h with
  | nil => rfl
  | cons hx _ ih =>
    rw [kept_append, hx.kept, ih]
    rfl

/-! ### What is recorded -/

/-- The recorder after some calls. -/
def after (st : Recorder) (log : List Entry) : Recorder :=
  { calls := st.calls ++ log.map Entry.call, next := st.next + effects log }

theorem after_append (st : Recorder) (block log : List Entry) :
    st.after (block ++ log) = (st.after block).after log := by
  simp [after, effects, Nat.add_assoc]

variable (s : Snapshot) (script : Script)

theorem serve_recorded (x : Errand) (st : Recorder) :
    ∃ block, Serves script x st.next block ∧ (scripted s script).serve st x = st.after block := by
  have hperform : ∀ e st, (scripted s script).perform e st = (script st.next e, st.noting e) :=
    fun _ _ => rfl
  cases hfirst : script st.next x.effect with
  | error e =>
    refine ⟨_, .refused e hfirst, ?_⟩
    simp only [Host.serve, Host.runEffect, hperform, hfirst]
    simp [scripted, noting, after, effects]
  | ok v =>
    cases hsave : x.saveTo with
    | none =>
      refine ⟨_, .done v hfirst hsave, ?_⟩
      simp only [Host.serve, Host.runEffect, hperform, hfirst, hsave]
      simp [noting, after, effects]
    | some path =>
      -- the result is stored by the effect with the next number
      cases hstore : script (st.noting x.effect).next (.setData path v) with
      | error e =>
        refine ⟨_, .lost v path e hfirst hsave hstore, ?_⟩
        simp only [Host.serve, Host.runEffect, hperform, hfirst, hsave, hstore]
        simp [scripted, noting, after, effects]
      | ok w =>
        refine ⟨_, .stored v w path hfirst hsave hstore, ?_⟩
        simp only [Host.serve, Host.runEffect, hperform, hfirst, hsave, hstore]
        simp [noting, after, effects]

theorem serveAll_recorded (xs : List Errand) (st : Recorder) :
    ∃ log, ServesAll script xs st.next log ∧
      xs.foldl (scripted s script).serve st = st.after log := by
  induction xs generalizing st with
  | nil => exact ⟨[], .nil _, by simp [after, effects]⟩
  | cons x xs ih =>
    obtain ⟨block, hblock, hserve⟩ := serve_recorded s script x st
    obtain ⟨log, hlog, hall⟩ := ih (st.after block)
    exact ⟨block ++ log, .cons hblock hlog, by rw [List.foldl_cons, hserve, hall, after_append]⟩

/-- A dispatch makes the calls for its errands in the one snapshot. -/
theorem dispatch_recorded (nodeId event : String) (st : Recorder) :
    ∃ log, ServesAll script (s.errands nodeId event) st.next log ∧
      ((scripted s script).dispatch nodeId event st).2 = st.after log := by
  obtain ⟨log, hlog, hall⟩ := serveAll_recorded s script (s.errands nodeId event) st
  refine ⟨log, hlog, ?_⟩
  rw [← hall, Snapshot.errands, List.foldl_append]
  exact (scripted s script).dispatch_state nodeId event st

/-- **Failures are isolated**: the calls of a dispatch are those for its errands, which the snapshot
decides. An effect that is refused is told of once, in the next call, under the kind of its own step
or edge; the result of a request is stored in the next call exactly if the request was not refused.
Under any two scripts for one snapshot the calls are the same, once those that store results and
those that tell of failures are set aside, and so are the parts of the report on what was run and
what was passed over. The only results that are stored are the answers to requests. -/
theorem dispatch_isolates_failures (s : Snapshot) (nodeId event : String)
    (script script' : Script) :
    let done := (scripted s script).dispatch nodeId event {}
    let done' := (scripted s script').dispatch nodeId event {}
    (∃ log log', ServesAll script (s.errands nodeId event) 0 log ∧
      done.2.calls = log.map Entry.call ∧
      ServesAll script' (s.errands nodeId event) 0 log' ∧ done'.2.calls = log'.map Entry.call ∧
      kept log = kept log') ∧
    done.1.bagSkipped = done'.1.bagSkipped ∧ done.1.stepsRun = done'.1.stepsRun ∧
      done.1.edgesSkipped = done'.1.edgesSkipped ∧
    (∀ h : HttpStep, (Step.http h).errand? = some ⟨"http", .http h.request, h.saveTo⟩) ∧
    (∀ (step : Step) x path, step.errand? = some x →
      (x.saveTo = some path ↔ ∃ h, step = .http h ∧ h.saveTo = some path)) ∧
    ∀ (target : FlowTarget) x, target.errand? = some x → x.saveTo = none := by
  intro done done'
  obtain ⟨log, hlog, hdone⟩ := dispatch_recorded s script nodeId event {}
  obtain ⟨log', hlog', hdone'⟩ := dispatch_recorded s script' nodeId event {}
  refine ⟨⟨log, log', hlog, ?_, hlog', ?_, hlog.kept.trans hlog'.kept.symm⟩, ?_, ?_, ?_,
    Step.errand?_http, fun _ _ _ hx => Step.saveTo_eq_some_iff hx,
    fun _ _ => FlowTarget.saveTo_eq_none⟩
  · exact (congrArg Recorder.calls hdone).trans (List.nil_append _)
  · exact (congrArg Recorder.calls hdone').trans (List.nil_append _)
  · exact ((scripted s script).dispatch_bagSkipped nodeId event {}).trans
      ((scripted s script').dispatch_bagSkipped nodeId event {}).symm
  · exact ((scripted s script).dispatch_stepsRun nodeId event {}).trans
      ((scripted s script').dispatch_stepsRun nodeId event {}).symm
  · exact ((scripted s script).dispatch_edgesSkipped nodeId event {}).trans
      ((scripted s script').dispatch_edgesSkipped nodeId event {}).symm

end Recorder

end PageBuilder
