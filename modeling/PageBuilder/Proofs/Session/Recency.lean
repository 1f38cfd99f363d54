import PageBuilder.Proofs.Session.Invariant

/-!
# Open fragments by recency

The surface keeps the open fragments as a list, without times. A `Journal` is a store with the
commands that have succeeded in it, and these alone say which fragments are open (`IsOpen`) and when
each was opened last (`lastOpening?`). One command keeps the list in the order of the last openings
(`Recent.next`), so every run of commits does (`openFragments_by_recency`).
-/

namespace PageBuilder

/-! ### What a command does to the open fragments -/

namespace Command

/-- The open fragments after a command that succeeds. -/
def openAfter (c : Command) (shown : List String) : List String :=
  match c with
  | openFragment id => (shown.filter fun f => f != id) ++ [id]
  | closeFragment (some id) => shown.filter fun f => f != id
  | closeFragment none => shown.dropLast
  | _ => shown

theorem openFragments_of_apply {c : Command} {ruleId : String} {s s' : Snapshot}
    (h : c.apply ruleId s = .ok s') :
    s'.ui.openFragments = c.openAfter s.ui.openFragments := by
  cases c with
  | setProps nodeId patch =>
    rw [Snapshot.modifyNode_eq_ok h]
    rfl
  | closeFragment id => cases id <;> cases h <;> rfl
  | setNodeStyle nodeId viewport patch =>
    simp only [apply] at h
    split at h
    · rw [Snapshot.modifyNode_eq_ok h]
      rfl
    · cases h
  | setData | navigate | openFragment | setViewport | upsertStyleRule =>
    simp only [apply] at h
    split at h
    · cases h
      rfl
    · cases h

end Command

/-! ### What the commands say -/

namespace Store

/-- A store, and the commands that have succeeded in it, the latest first. -/
structure Journal where
  store : Store
  commands : List Command

namespace Journal

/-- The number of the command that opened a fragment last; the first command has the number zero. -/
def lastOpening? : List Command → String → Option Nat
  | [], _ => none
  | c :: cs, id =>
    match c with
    | .openFragment j => if j = id then some cs.length else lastOpening? cs id
    | _ => lastOpening? cs id

/-- Both fragments have been opened, the first one before the second. -/
def OpenedBefore (cs : List Command) (id j : String) : Prop :=
  ∃ m n, lastOpening? cs id = some m ∧ lastOpening? cs j = some n ∧ m < n

/-- A fragment is open from its opening on, until it is closed by name, or as the one opened last of
those that are open. -/
def IsOpen : List Command → String → Prop
  | [], _ => False
  | c :: cs, id =>
    match c with
    | .openFragment j => j = id ∨ IsOpen cs id
    | .closeFragment (some j) => j ≠ id ∧ IsOpen cs id
    | .closeFragment none => IsOpen cs id ∧ ∃ j, IsOpen cs j ∧ OpenedBefore cs id j
    | _ => IsOpen cs id

variable {cs : List Command} {shown : List String}

theorem OpenedBefore.irrefl {id : String} : ¬ OpenedBefore cs id id := by
  rintro ⟨m, n, hm, hn, hlt⟩
  obtain rfl : m = n := Option.some.inj (hm.symm.trans hn)
  exact Nat.lt_irrefl m hlt

theorem OpenedBefore.asymm {id j : String} (h : OpenedBefore cs id j) : ¬ OpenedBefore cs j id := by
  obtain ⟨m, n, hm, hn, hlt⟩ := h
  rintro ⟨n', m', hn', hm', hlt'⟩
  obtain rfl : m = m' := Option.some.inj (hm.symm.trans hm')
  obtain rfl : n = n' := Option.some.inj (hn.symm.trans hn')
  omega

/-- What is open has been opened. -/
theorem IsOpen.exists_lastOpening {id : String} (h : IsOpen cs id) :
    ∃ n, lastOpening? cs id = some n ∧ n < cs.length := by
  induction cs with
  | nil => cases h
  | cons c cs ih =>
    have hlater (hopen : IsOpen cs id) : ∃ n, lastOpening? cs id = some n ∧
        n < (c :: cs).length := by
      obtain ⟨n, hn, hlt⟩ := ih hopen
      exact ⟨n, hn, Nat.lt_succ_of_lt hlt⟩
    cases c with
    | openFragment j =>
      by_cases hj : j = id
      · exact ⟨cs.length, if_pos hj, Nat.lt_succ_self _⟩
      · obtain ⟨n, hn, hlt⟩ := hlater (h.resolve_left hj)
        exact ⟨n, (if_neg hj).trans hn, hlt⟩
    | closeFragment j =>
      cases j with
      | none => exact hlater h.1
      | some j => exact hlater h.2
    | _ => exact hlater h

/-! ### One command -/

/-- A list holds the open fragments, in the order in which they were opened last. -/
structure Recent (cs : List Command) (shown : List String) : Prop where
  mem_iff : ∀ id, id ∈ shown ↔ IsOpen cs id
  ordered : shown.Pairwise (OpenedBefore cs)

theorem recent_nil : Recent [] [] := ⟨fun _ => by simp [IsOpen], .nil⟩

/-- The fragment at the end is the one opened last of those that are open. -/
theorem Recent.openedBefore_last {left : List String} {id j : String} (h : Recent cs (left ++ [id]))
    (hj : IsOpen cs j) (hne : j ≠ id) : OpenedBefore cs j id := by
  have hmem : j ∈ left := by
    rcases List.mem_append.mp ((h.mem_iff j).mpr hj) with hleft | hlast
    · exact hleft
    · exact absurd (List.mem_singleton.mp hlast) hne
  exact (List.pairwise_append.mp h.ordered).2.2 j hmem id List.mem_cons_self

theorem Recent.opened (h : Recent cs shown) (id : String) :
    Recent (.openFragment id :: cs) ((shown.filter fun f => f != id) ++ [id]) where
  mem_iff j := by
    rw [IsOpen, List.mem_append, List.mem_filter, List.mem_singleton, h.mem_iff, bne_iff_ne]
    by_cases hj : j = id
    · simp [hj]
    · simp [hj, Ne.symm hj]
  ordered := by
    have hsame {j : String} (hj : j ≠ id) : lastOpening? (.openFragment id :: cs) j =
        lastOpening? cs j :=
      if_neg (Ne.symm hj)
    refine List.pairwise_append.mpr ⟨?_, List.pairwise_singleton _ _, fun j hj k hk => ?_⟩
    · refine (h.ordered.filter _).imp_of_mem fun {j k} hj hk hbefore => ?_
      obtain ⟨m, n, hm, hn, hlt⟩ := hbefore
      exact ⟨m, n, (hsame (by simpa using (List.mem_filter.mp hj).2)).trans hm,
        (hsame (by simpa using (List.mem_filter.mp hk).2)).trans hn, hlt⟩
    · -- the new opening is later than all before
      obtain rfl : k = id := List.mem_singleton.mp hk
      obtain ⟨hshown, hne⟩ := List.mem_filter.mp hj
      obtain ⟨n, hn, hlt⟩ := ((h.mem_iff j).mp hshown).exists_lastOpening
      exact ⟨n, cs.length, (hsame (by simpa using hne)).trans hn, if_pos rfl, hlt⟩

theorem Recent.closed (h : Recent cs shown) (id : String) :
    Recent (.closeFragment (some id) :: cs) (shown.filter fun f => f != id) where
  mem_iff j := by
    rw [IsOpen, List.mem_filter, h.mem_iff, bne_iff_ne, and_comm, ne_comm]
  ordered := h.ordered.filter _

theorem Recent.closedLast (h : Recent cs shown) :
    Recent (.closeFragment none :: cs) shown.dropLast where
  mem_iff j := by
    rw [IsOpen]
    rcases List.eq_nil_or_concat shown with rfl | ⟨left, id, rfl⟩
    · simp [← h.mem_iff]
    · rw [List.concat_eq_append] at h ⊢
      rw [List.dropLast_concat]
      constructor
      · intro hj
        have hopen : IsOpen cs j := (h.mem_iff j).mp (List.mem_append_left _ hj)
        have hbefore : OpenedBefore cs j id :=
          (List.pairwise_append.mp h.ordered).2.2 j hj id List.mem_cons_self
        exact ⟨hopen, id, (h.mem_iff id).mp (by simp), hbefore⟩
      · rintro ⟨hopen, k, hk, hbefore⟩
        rcases List.mem_append.mp ((h.mem_iff j).mpr hopen) with hleft | hlast
        · exact hleft
        · obtain rfl : j = id := List.mem_singleton.mp hlast
          by_cases hkj : k = j
          · exact absurd (hkj ▸ hbefore) OpenedBefore.irrefl
          · exact absurd hbefore (h.openedBefore_last hk hkj).asymm
  ordered := h.ordered.sublist (List.dropLast_sublist _)

/-- Every command keeps the list in order. -/
theorem Recent.next (h : Recent cs shown) (c : Command) : Recent (c :: cs) (c.openAfter shown) := by
  cases c with
  | openFragment id => exact h.opened id
  | closeFragment id =>
    cases id with
    | none => exact h.closedLast
    | some id => exact h.closed id
  | _ => exact ⟨h.mem_iff, h.ordered⟩

/-! ### Runs of commits -/

/-- Commit a command. One that fails leaves all as it is. -/
def step (g : Journal) (c : Command) (record : Bool) : Journal :=
  match g.store.commit c record with
  | .ok st => ⟨st, c :: g.commands⟩
  | .error _ => g

/-- The journal after commits of commands, each recorded for undoing or not. -/
def run (s : Snapshot) (cs : List (Command × Bool)) : Journal :=
  cs.foldl (fun g e => g.step e.1 e.2) ⟨.start s, []⟩

theorem store_step (g : Journal) (c : Command) (record : Bool) :
    (g.step c record).store = g.store.perform (.commit c record) := by
  cases hc : g.store.commit c record with
  | error e =>
    have hfails : g.store.perform? (.commit c record) = none := perform?_commit_eq_none.mpr ⟨e, hc⟩
    rw [step, hc, Store.perform, hfails, Option.getD_none]
  | ok st =>
    have hsucceeds : g.store.perform? (.commit c record) = some st := perform?_commit_eq_some.mpr hc
    rw [step, hc, Store.perform, hsucceeds, Option.getD_some]

/-- The store of a journal is that of the run. -/
theorem store_run (s : Snapshot) (cs : List (Command × Bool)) :
    (run s cs).store = (Store.start s).run (cs.map fun e => .commit e.1 e.2) := by
  have hfold : ∀ g : Journal,
      (cs.foldl (fun g e => g.step e.1 e.2) g).store =
      g.store.run (cs.map fun e => .commit e.1 e.2) := by
    induction cs with
    | nil => exact fun g => rfl
    | cons e cs ih =>
      intro g
      rw [List.foldl_cons, ih, store_step, List.map_cons, run_cons]
  exact hfold _

/-- What commits keep. -/
structure Faithful (g : Journal) : Prop where
  recent : Recent g.commands g.store.current.ui.openFragments
  valid : UiState.Valid g.store.current.project g.store.current.ui

theorem Faithful.step {g : Journal} (h : g.Faithful) (c : Command) (record : Bool) :
    (g.step c record).Faithful := by
  unfold Journal.step
  cases hc : g.store.commit c record with
  | error e => exact h
  | ok st =>
    obtain ⟨next, hnext, hcurrent, -, -⟩ := commit_spec hc
    have hvalid : UiState.Valid next.project next.ui := (Command.change hnext).valid h.valid
    have hrecent : Recent (c :: g.commands) next.ui.openFragments := by
      rw [Command.openFragments_of_apply hnext]
      exact h.recent.next c
    show Faithful ⟨st, c :: g.commands⟩
    exact ⟨by rw [hcurrent]; exact hrecent, by rw [hcurrent]; exact hvalid⟩

theorem faithful_run (p : Project) (data : Json) (cs : List (Command × Bool)) :
    (run (.opened p data) cs).Faithful := by
  have hfold : ∀ g : Journal, g.Faithful → (cs.foldl (fun g e => g.step e.1 e.2) g).Faithful := by
    induction cs with
    | nil => exact fun g h => h
    | cons e cs ih => exact fun g h => ih _ (h.step e.1 e.2)
  exact hfold _ ⟨recent_nil, UiState.valid_opened p data⟩

/-- What is open can be opened again. -/
theorem Faithful.isSome_fragment? {g : Journal} (h : g.Faithful) {id : String}
    (hopen : IsOpen g.commands id) :
    (g.store.current.project.fragment? id).isSome = true := by
  obtain ⟨fragment, hmem, hid⟩ := h.valid.declared id ((h.recent.mem_iff id).mpr hopen)
  exact List.find?_isSome.mpr ⟨fragment, hmem, beq_iff_eq.mpr hid⟩

end Journal

open Journal

/-- **Open fragments by recency**: after any commits to a project just opened, the list on the
surface holds exactly the fragments that are open, in the order in which they were opened last. So
closing without a name closes the fragment opened last of those that are open, and nothing else;
opening one that is open moves it to the end, where it stands once; and closing one by name leaves
the others in their order. -/
theorem openFragments_by_recency (p : Project) (data : Json) (cs : List (Command × Bool)) :
    let g := Journal.run (.opened p data) cs
    let s := g.store.current
    let shown := s.ui.openFragments
    g.store = (Store.start (.opened p data)).run (cs.map fun e => .commit e.1 e.2) ∧
    (∀ id, id ∈ shown ↔ IsOpen g.commands id) ∧
    shown.Pairwise (OpenedBefore g.commands) ∧
    (∀ record, ∃ st left, g.store.commit (.closeFragment none) record = .ok st ∧
      st.current = { s with ui := { s.ui with openFragments := left },
                            revision := s.revision + 1 } ∧
      (shown = [] ∧ left = [] ∨ ∃ id, shown = left ++ [id] ∧ IsOpen g.commands id ∧
        ∀ j, IsOpen g.commands j → j ≠ id → OpenedBefore g.commands j id)) ∧
    (∀ id, IsOpen g.commands id → id ∉ shown.erase id ∧ ∀ record, ∃ st,
      g.store.commit (.openFragment id) record = .ok st ∧
      st.current = { s with ui := { s.ui with openFragments := shown.erase id ++ [id] },
                            revision := s.revision + 1 }) ∧
    ∀ id record, ∃ st, g.store.commit (.closeFragment (some id)) record = .ok st ∧
      st.current = { s with ui := { s.ui with openFragments := shown.erase id },
                            revision := s.revision + 1 } := by
  intro g s shown
  have hfaithful : g.Faithful := faithful_run p data cs
  have hrecent : Recent g.commands shown := hfaithful.recent
  have hnodup : shown.Nodup := hfaithful.valid.nodup
  refine ⟨store_run _ cs, hrecent.mem_iff, hrecent.ordered, fun record => ?_,
    fun id hopen => ⟨?_, fun record => ?_⟩, fun id record => ?_⟩
  · obtain ⟨st, hst, hcurrent⟩ := exists_commit g.store (.closeFragment none) record rfl
    refine ⟨st, shown.dropLast, hst, hcurrent, ?_⟩
    rcases List.eq_nil_or_concat shown with hnil | ⟨left, id, hlast⟩
    · exact .inl ⟨hnil, by rw [hnil, List.dropLast_nil]⟩
    · right
      rw [List.concat_eq_append] at hlast
      rw [hlast] at hrecent ⊢
      rw [List.dropLast_concat]
      exact ⟨id, rfl, (hrecent.mem_iff id).mp (by simp),
        fun j hj hne => hrecent.openedBefore_last hj hne⟩
  · exact hnodup.not_mem_erase
  · have happly : (Command.openFragment id).apply (StyleRule.numberedId g.store.nextRule) s =
        .ok { s with
          ui := { s.ui with openFragments := (shown.filter fun f => f != id) ++ [id] } } :=
      if_pos (hfaithful.isSome_fragment? hopen)
    rw [hnodup.erase_eq_filter]
    exact exists_commit g.store (.openFragment id) record happly
  · rw [hnodup.erase_eq_filter]
    exact exists_commit g.store (.closeFragment (some id)) record rfl

/-- The menu is opened again above the cart, and a fragment that is not there is not opened; then
the cart is moved to the top. -/
theorem openFragments_by_recency_reopened :
    let p : Project := { fragments := [{ id := "menu" }, { id := "cart" }] }
    let cs : List (Command × Bool) := [(.openFragment "menu", true), (.openFragment "cart", false),
      (.openFragment "lost", true), (.openFragment "menu", true)]
    let g := Journal.run (.opened p Json.empty) cs
    IsOpen g.commands "cart" ∧ OpenedBefore g.commands "cart" "menu" ∧
      ∃ st, g.store.commit (.openFragment "cart") true = .ok st ∧
        st.current.ui.openFragments = ["menu", "cart"] := by
  intro p cs g
  have hshown : g.store.current.ui.openFragments = ["cart", "menu"] := by decide +kernel
  obtain ⟨-, hopen, hordered, -, hreopen, -⟩ := openFragments_by_recency p Json.empty cs
  have hcart : IsOpen g.commands "cart" := (hopen "cart").mp (by rw [hshown]; decide)
  obtain ⟨-, hcommit⟩ := hreopen "cart" hcart
  obtain ⟨st, hst, hcurrent⟩ := hcommit true
  rw [hshown] at hordered
  refine ⟨hcart, List.rel_of_pairwise_cons hordered List.mem_cons_self, st, hst, ?_⟩
  rw [hcurrent, hshown]
  decide

end Store
end PageBuilder
