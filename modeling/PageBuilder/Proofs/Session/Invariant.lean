import PageBuilder.Proofs.Session.Run

/-!
# What every session keeps

Each command checks only what it refers to itself: a page, a fragment, a viewport or a node. That
the other references stay good rests on no command ever changing the lists that they refer to. What
a command can do is said once (`Change`); of each kind of change it is shown that the references on
the surface stay good and that the structure of the project stays, and every run keeps both, undos
included.
-/

namespace PageBuilder

/-! ### What a command can do -/

namespace Node

/-- The node without what commands change: its properties and its styles. -/
def bare (n : Node) : Node := { n with props := [], styles := [] }

theorem bare_patchProps (n : Node) (patch : Dict Json) : (n.patchProps patch).bare = n.bare := rfl

theorem bare_patchStyle (n : Node) (viewport : String) (patch : Declaration) :
    (n.patchStyle viewport patch).bare = n.bare := rfl

/-- Nodes that are the same but for properties and styles. -/
theorem bare_eq_bare_iff {n m : Node} :
    n.bare = m.bare ↔ n = { m with props := n.props, styles := n.styles } := by
  cases n
  cases m
  simp [bare]

end Node

/-- The ways in which a command that succeeds changes a snapshot. -/
inductive Change (s : Snapshot) : Snapshot → Prop where
  | data (data : Json) : Change s { s with data := data }
  | node {id : String} {f : Node → Node} (hf : ∀ n, (f n).bare = n.bare) :
    Change s { s with project := { s.project with nodes := s.project.nodes.modify id f } }
  | sheet (sheet : StyleSheet) :
      Change s { s with project := { s.project with styleSheet := sheet } }
  | page {page : Page} (hpage : page ∈ s.project.pages) :
    Change s { s with ui := { s.ui with activePage := some page.id } }
  | opened {fragment : Fragment} (hfragment : fragment ∈ s.project.fragments) :
    Change s { s with ui := { s.ui with
      openFragments := (s.ui.openFragments.filter fun f => f != fragment.id) ++ [fragment.id] } }
  | closed {left : List String} (hleft : left.Sublist s.ui.openFragments) :
    Change s { s with ui := { s.ui with openFragments := left } }
  | viewport {name : String} (hname : s.project.viewports.contains name = true) :
    Change s { s with ui := { s.ui with viewport := name } }

theorem Snapshot.modifyNode_eq_ok {s s' : Snapshot} {id : String} {f : Node → Node}
    (h : s.modifyNode id f = .ok s') :
    s' = { s with project := { s.project with nodes := s.project.nodes.modify id f } } := by
  unfold modifyNode at h
  split at h
  · exact (Except.ok.inj h).symm
  · cases h

/-- What a command does, if it succeeds. -/
theorem Command.change {c : Command} {ruleId : String} {s s' : Snapshot}
    (h : c.apply ruleId s = .ok s') : Change s s' := by
  cases c with
  | setData path value =>
    simp only [apply] at h
    split at h
    · cases h
      exact .data _
    · cases h
  | setProps nodeId patch =>
    rw [Snapshot.modifyNode_eq_ok h]
    exact .node fun n => n.bare_patchProps patch
  | navigate pageId =>
    simp only [apply] at h
    split at h
    next hpage =>
      cases h
      obtain ⟨page, hfound⟩ := Option.isSome_iff_exists.mp hpage
      obtain rfl : page.id = pageId := by simpa using List.find?_some hfound
      exact .page (List.mem_of_find?_eq_some hfound)
    next => cases h
  | openFragment id =>
    simp only [apply] at h
    split at h
    next hfragment =>
      cases h
      obtain ⟨fragment, hfound⟩ := Option.isSome_iff_exists.mp hfragment
      obtain rfl : fragment.id = id := by simpa using List.find?_some hfound
      exact .opened (List.mem_of_find?_eq_some hfound)
    next => cases h
  | closeFragment id =>
    cases id with
    | none =>
      cases h
      exact .closed (List.dropLast_sublist _)
    | some id =>
      cases h
      exact .closed List.filter_sublist
  | setViewport name =>
    simp only [apply] at h
    split at h
    next hname =>
      cases h
      exact .viewport hname
    next => cases h
  | setNodeStyle nodeId viewport patch =>
    simp only [apply] at h
    split at h
    · rw [Snapshot.modifyNode_eq_ok h]
      exact .node fun n => n.bare_patchStyle viewport patch
    · cases h
  | upsertStyleRule nodeId viewport patch =>
    simp only [apply] at h
    split at h
    · cases h
      exact .sheet _
    · cases h

/-! ### The references on the surface -/

/-- What the editor's surface shows is there in the project. -/
structure UiState.Valid (p : Project) (ui : UiState) : Prop where
  /-- The active page is a page of the project; none is active only if there is none. -/
  page : (∃ page ∈ p.pages, ui.activePage = some page.id) ∨ (ui.activePage = none ∧ p.pages = [])
  /-- No fragment is open twice. -/
  nodup : ui.openFragments.Nodup
  /-- What is open is a fragment of the project. -/
  declared : ∀ id ∈ ui.openFragments, ∃ fragment ∈ p.fragments, fragment.id = id
  /-- The viewport is the base viewport or one of the others. -/
  viewport : ui.viewport = p.viewports.base ∨ ∃ v ∈ p.viewports.entries, v.name = ui.viewport

theorem Viewports.contains_iff {vs : Viewports} {name : String} :
    vs.contains name = true ↔ name = vs.base ∨ ∃ v ∈ vs.entries, v.name = name := by
  simp [contains]

theorem UiState.valid_opened (p : Project) (data : Json) :
    UiState.Valid p (Snapshot.opened p data).ui where
  page := by
    unfold Snapshot.opened
    cases p.pages with
    | nil => exact .inr ⟨rfl, rfl⟩
    | cons page pages => exact .inl ⟨page, List.mem_cons_self, rfl⟩
  nodup := List.nodup_nil
  declared := by
    intro id hid
    cases hid
  viewport := .inl rfl

/-- A change keeps the references good. -/
theorem Change.valid {s s' : Snapshot} (h : Change s s') (hvalid : UiState.Valid s.project s.ui) :
    UiState.Valid s'.project s'.ui := by
  obtain ⟨hpage, hnodup, hdeclared, hviewport⟩ := hvalid
  cases h with
  | data data => exact ⟨hpage, hnodup, hdeclared, hviewport⟩
  | node hf => exact ⟨hpage, hnodup, hdeclared, hviewport⟩
  | sheet sheet => exact ⟨hpage, hnodup, hdeclared, hviewport⟩
  | page hnew => exact ⟨.inl ⟨_, hnew, rfl⟩, hnodup, hdeclared, hviewport⟩
  | @opened fragment hnew =>
    refine ⟨hpage, ?_, fun id hid => ?_, hviewport⟩
    · -- the fragment is taken out before it is put at the end
      refine List.nodup_append.mpr ⟨hnodup.filter _, by simp, ?_⟩
      intro id hid last hlast hsame
      rw [hsame, List.mem_singleton.mp hlast] at hid
      simp at hid
    · rcases List.mem_append.mp hid with hold | hsame
      · exact hdeclared id (List.mem_filter.mp hold).1
      · exact ⟨fragment, hnew, (List.mem_singleton.mp hsame).symm⟩
  | closed hleft =>
    exact ⟨hpage, hnodup.sublist hleft, fun id hid => hdeclared id (hleft.subset hid), hviewport⟩
  | viewport hname => exact ⟨hpage, hnodup, hdeclared, Viewports.contains_iff.mp hname⟩

/-! ### The structure of the project -/

/-- The project `q` is `p` but for properties and styles of nodes and for the style sheet. -/
structure Project.SameStructure (p q : Project) : Prop where
  record : q = { p with nodes := q.nodes, styleSheet := q.styleSheet }
  keys : q.nodes.map Prod.fst = p.nodes.map Prod.fst
  node : ∀ key, (q.node? key).map Node.bare = (p.node? key).map Node.bare

namespace Project.SameStructure

theorem refl (p : Project) : SameStructure p p := ⟨rfl, rfl, fun _ => rfl⟩

theorem trans {p q r : Project} (h : SameStructure p q) (h' : SameStructure q r) :
    SameStructure p r where
  record := by
    rw [h'.record, h.record]
  keys := h'.keys.trans h.keys
  node key := (h'.node key).trans (h.node key)

/-- A node that is there now was there with the same structure. -/
theorem node_eq {p q : Project} (h : SameStructure p q) {key : String} {n : Node}
    (hn : q.node? key = some n) :
    ∃ m, p.node? key = some m ∧ n = { m with props := n.props, styles := n.styles } := by
  have hbare := h.node key
  rw [hn, Option.map_some] at hbare
  obtain ⟨m, hm, hmn⟩ := Option.map_eq_some_iff.mp hbare.symm
  exact ⟨m, hm, Node.bare_eq_bare_iff.mp hmn.symm⟩

end Project.SameStructure

/-- A change keeps the structure of the project. -/
theorem Change.sameStructure {s s' : Snapshot} (h : Change s s') :
    s.project.SameStructure s'.project := by
  cases h with
  | @node id f hf =>
    refine ⟨rfl, Dict.map_fst_modify _ _ _, fun key => ?_⟩
    unfold Project.node?
    rw [Dict.get?_modify]
    split
    · cases s.project.nodes.get? key <;> simp [hf]
    · rfl
  | sheet sheet => exact ⟨rfl, rfl, fun _ => rfl⟩
  | data => exact .refl _
  | page => exact .refl _
  | opened => exact .refl _
  | closed => exact .refl _
  | viewport => exact .refl _

/-! ### Sessions -/

/-- What a session on a project keeps. -/
structure Snapshot.Sound (p : Project) (s : Snapshot) : Prop where
  valid : UiState.Valid s.project s.ui
  sameStructure : p.SameStructure s.project

theorem Snapshot.sound_opened (p : Project) (data : Json) : Sound p (opened p data) :=
  ⟨UiState.valid_opened p data, .refl p⟩

theorem Change.sound {p : Project} {s s' : Snapshot} (h : Change s s') (hs : s.Sound p) :
    s'.Sound p :=
  ⟨h.valid hs.valid, hs.sameStructure.trans h.sameStructure⟩

/-- **What every session keeps**: in each state that commits and undos lead to from a project just
opened, and in each state that undos could lead back to, the active page is a page of the project,
and absent only if the project has none; the open fragments are fragments of the project, each open
once; the viewport is the base viewport or one of the others. The project is the one that was opened
but for the properties and styles of its nodes and for its style sheet: same keys of nodes, and
under each key the same node in all else. -/
theorem Store.reachable_sound (p : Project) (data : Json) (ops : List Store.Op) :
    let st := (Store.start (.opened p data)).run ops
    ∀ s ∈ st.current :: st.history,
      ((∃ page ∈ p.pages, s.ui.activePage = some page.id) ∨
        (s.ui.activePage = none ∧ p.pages = [])) ∧
      s.ui.openFragments.Nodup ∧
      (∀ id ∈ s.ui.openFragments, ∃ fragment ∈ p.fragments, fragment.id = id) ∧
      (s.ui.viewport = p.viewports.base ∨ ∃ v ∈ p.viewports.entries, v.name = s.ui.viewport) ∧
      s.project = { p with nodes := s.project.nodes, styleSheet := s.project.styleSheet } ∧
      s.project.nodes.map Prod.fst = p.nodes.map Prod.fst ∧
      ∀ key n, s.project.node? key = some n →
        ∃ m, p.node? key = some m ∧ n = { m with props := n.props, styles := n.styles } := by
  intro st s hs
  have hstart : Store.Keeps (Snapshot.Sound p) (.start (.opened p data)) :=
    ⟨Snapshot.sound_opened p data, fun s hs => by cases hs⟩
  have hkeeps : Store.Keeps (Snapshot.Sound p) st := by
    refine hstart.run ?_ ?_ ops
    · intro s r hs
      exact ⟨hs.valid, hs.sameStructure⟩
    · intro ruleId c s s' hc hs
      exact (Command.change hc).sound hs
  obtain ⟨hvalid, hsame⟩ : Snapshot.Sound p s := by
    rcases List.mem_cons.mp hs with rfl | hold
    · exact hkeeps.1
    · exact hkeeps.2 s hold
  rw [hsame.record] at hvalid
  obtain ⟨hpage, hnodup, hdeclared, hviewport⟩ := hvalid
  exact ⟨hpage, hnodup, hdeclared, hviewport, hsame.record, hsame.keys,
    fun key n hn => hsame.node_eq hn⟩

end PageBuilder
