import PageBuilder.Design.Scope
import PageBuilder.Session.Timestamp

/-!
# Snapshots

A snapshot is the project, the state of the editor's surface and the runtime data at one moment. Its
revision counts the changes since the session began.
-/

namespace PageBuilder

/-- The state of the editor's surface. -/
structure UiState where
  activePage : Option String := none
  /-- The fragments that are open, the one opened last at the end. -/
  openFragments : List String := []
  viewport : String := baseViewport
deriving DecidableEq

/-- The state of a session at one moment. -/
structure Snapshot where
  project : Project := {}
  ui : UiState := {}
  data : Json := Json.empty
  /-- The number of changes so far. It is not bounded here: sessions of fewer than 2^64 changes are
  meant, whose revisions fit the 64 bits in which they are stored. -/
  revision : Nat := 0

namespace Snapshot

/-- A project opened on its first page, at its base viewport, with some data. -/
def opened (p : Project) (data : Json) : Snapshot :=
  { project := p
    ui := { activePage := p.pages.head?.map Page.id, viewport := p.viewports.base }
    data := data }

/-- What a formula sees at a node, or at none. -/
def scopeFor (s : Snapshot) (node : Option Node) : Scope := .ofDesign s.data node (some s.project)

end Snapshot

/-! ### Stored form -/

open Json

instance : Codec UiState where
  encode u := .object <|
    fieldIfSome "activePage" u.activePage ++ field "openFragments" u.openFragments ++
      field "viewport" u.viewport
  decode v := do
    v.checkObject
    return {
      activePage := ← optional v "activePage"
      openFragments := ← withDefault v "openFragments" []
      viewport := ← withDefault v "viewport" baseViewport }

/-- The revision that is stored; it fits 64 bits. -/
def Snapshot.revision? (v : Json) : Except DecodeError Nat :=
  match v.get? "revision" with
  | none => .ok 0
  | some (.number (.int n)) =>
    if 0 ≤ n ∧ n.toNat < Nat.pow 2 64 then .ok n.toNat else .error (.mismatch "a revision")
  | some _ => .error (.mismatch "a revision")

/-- The time of the last commit may be stored; it is a timestamp, and is not kept. -/
def Snapshot.checkTime (v : Json) : Except DecodeError Unit :=
  match v.get? "committedAt" with
  | none => .ok ()
  | some (.string s) => if Timestamp.isValid s then .ok () else .error (.mismatch "a timestamp")
  | some _ => .error (.mismatch "a timestamp")

instance : Codec Snapshot where
  encode s := .object <|
    field "data" s.data ++ field "project" s.project ++ field "revision" (Json.ofNat s.revision) ++
      field "ui" s.ui
  decode v := do
    v.checkObject
    Snapshot.checkTime v
    return {
      project := ← withDefault v "project" {}
      ui := ← withDefault v "ui" {}
      data := ← withDefault v "data" Json.empty
      revision := ← Snapshot.revision? v }

end PageBuilder
