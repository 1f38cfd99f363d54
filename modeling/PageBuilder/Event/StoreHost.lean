import PageBuilder.Event.Dispatch
import PageBuilder.Web.Transport

/-!
# Effects on a store

A host whose state is a store: effects on the design are commands that are committed, requests go
out over a transport, and every effect that succeeds is announced by a notice. A command that fails
leaves no notice but that of the failure.
-/

namespace PageBuilder

/-- A store, and the notices so far in their order. -/
structure StoreHost where
  store : Store
  notices : List Notice := []

namespace StoreHost

/-- Add a notice. -/
def announce (n : Notice) (st : StoreHost) : StoreHost := { st with notices := st.notices ++ [n] }

/-- Commit a command, so that it can be undone, and announce it. -/
def commit (c : Command) (n : Notice) (st : StoreHost) : Except Failure Json × StoreHost :=
  match st.store.commit c true with
  | .error e => (.error (.store e), st)
  | .ok store => (.ok .null, { st with store := store }.announce n)

/-- Send a request. The answer is announced before its status is judged. -/
def send (carry : Web.Transport) (r : Request) (st : StoreHost) : Except Failure Json × StoreHost :=
  match Web.send carry r with
  | .error e => (.error e, st)
  | .ok answer => (answer.value r.url, st.announce (.httpCompleted r.url answer.status))

/-- Perform an effect. -/
def perform (carry : Web.Transport) (effect : Effect) (st : StoreHost) :
    Except Failure Json × StoreHost :=
  match effect with
  | .alert message => (.ok .null, st.announce (.alert message))
  | .setData path value => st.commit (.setData path value) (.dataChanged path)
  | .setProps nodeId patch => st.commit (.setProps nodeId patch) (.propsChanged nodeId)
  | .http request => st.send carry request
  | .emit topic payload => (.ok .null, st.announce (.emit topic payload))
  | .navigate pageId => st.commit (.navigate pageId) (.navigated pageId)
  | .openFragment id => st.commit (.openFragment id) (.fragmentOpened id)
  | .closeFragment id => st.commit (.closeFragment id) (.fragmentClosed id)

/-- The host over a transport. -/
def host (carry : Web.Transport) : Host StoreHost where
  snapshot st := st.store.current
  perform := perform carry
  failed kind e st := st.announce (.error kind e.message)

end StoreHost

end PageBuilder
