import PageBuilder.Event.Dispatch

/-!
# Recording effects

A host that performs nothing: it writes down what it is asked to do, always shows the same snapshot,
and refuses the calls with the numbers that it was told to refuse.
-/

namespace PageBuilder

/-- What the recorder wrote down. -/
inductive Call where
  | effect (e : Effect)
  | failed (kind message : String)

/-- The calls so far in their order, and the number of the next effect. -/
structure Recorder where
  calls : List Call := []
  next : Nat := 0

namespace Recorder

/-- What a recorder does: the snapshot that it shows, the effects that it refuses, by their numbers,
and the answer to every request. -/
structure Plan where
  snapshot : Snapshot
  refuses : Nat → Bool := fun _ => false
  answer : Json := .null

/-- Write down an effect, and refuse it if the plan says so. -/
def perform (plan : Plan) (e : Effect) (st : Recorder) : Except Failure Json × Recorder :=
  let after : Recorder := { calls := st.calls ++ [.effect e], next := st.next + 1 }
  if plan.refuses st.next then
    (.error (.effect e.name ("call " ++ toString st.next ++ " refused")), after)
  else match e with
    | .http _ => (.ok plan.answer, after)
    | _ => (.ok .null, after)

/-- The host of a plan. -/
def host (plan : Plan) : Host Recorder where
  snapshot _ := plan.snapshot
  perform := perform plan
  failed kind e st := { st with calls := st.calls ++ [.failed kind e.message] }

end Recorder

end PageBuilder
