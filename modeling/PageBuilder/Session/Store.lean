import PageBuilder.Session.Command

/-!
# The store

The store holds the current snapshot and, for undoing, the latest snapshots before recorded commits.
Every change, an undo included, raises the revision by one, and all subscribers are told of the new
snapshot, one after the other; a command that fails changes nothing.
-/

namespace PageBuilder

/-- Someone who is told of every change. -/
structure Subscriber where
  /-- The snapshots that the subscriber was told of, in their order. -/
  seen : List Snapshot := []

/-- Tell a subscriber of a snapshot. -/
def Subscriber.tell (s : Snapshot) (u : Subscriber) : Subscriber := { seen := u.seen ++ [s] }

/-- The state of an editing session. -/
structure Store where
  current : Snapshot
  /-- The snapshots before the recorded commits that are not undone, the latest first. -/
  history : List Snapshot := []
  /-- The subscribers, in the order in which they joined. -/
  subscribers : List Subscriber := []
  /-- The number of the next style rule that is made; no number is used twice. -/
  nextRule : Nat := 1

namespace Store

/-- The number of commits that can be undone. -/
def historyLimit : Nat := 100

/-- A session that begins with a snapshot and some subscribers, one if nothing else is said. -/
def start (s : Snapshot) (subscribers : List Subscriber := [{}]) : Store :=
  { current := s, subscribers := subscribers }

/-- Join the subscribers. -/
def subscribe (st : Store) : Store := { st with subscribers := st.subscribers ++ [{}] }

/-- Tell each of the subscribers of a snapshot. -/
def notify (s : Snapshot) (subscribers : List Subscriber) : List Subscriber :=
  subscribers.map (Subscriber.tell s)

/-- Apply a command; a recorded commit can be undone. -/
def commit (st : Store) (c : Command) (record : Bool) : Except StoreError Store :=
  match c.apply (StyleRule.numberedId st.nextRule) st.current with
  | .error e => .error e
  | .ok next =>
    let current := { next with revision := st.current.revision + 1 }
    .ok {
      current := current
      history := if record then (st.current :: st.history).take historyLimit else st.history
      subscribers := notify current st.subscribers
      nextRule := if c.needsRule st.current then st.nextRule + 1 else st.nextRule }

/-- There is a commit to undo. -/
def canUndo (st : Store) : Bool := !st.history.isEmpty

/-- Go back to the state before the latest recorded commit that is not undone. -/
def undo? (st : Store) : Option Store :=
  match st.history with
  | [] => none
  | previous :: history =>
    let current := { previous with revision := st.current.revision + 1 }
    some { st with
      current := current
      history := history
      subscribers := notify current st.subscribers }

/-- The revisions that the first subscriber was told of, in their order. -/
def announced (st : Store) : List Nat :=
  (st.subscribers.head?.elim [] Subscriber.seen).map Snapshot.revision

end Store

end PageBuilder
