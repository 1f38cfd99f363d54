/-!
# Cutting texts

A text is cut at every occurrence of a mark (`split`, put together again by `join`), or at the first
one (`cut?`). `size` counts the bytes of a text in UTF-8. A run of characters of a kind at the head
of a text ends before the first other character.
-/

namespace PageBuilder
namespace Text

/-- The pieces of a text between the marks; a text without a mark is one piece. -/
def split (mark : Char) : List Char → List (List Char)
  | [] => [[]]
  | c :: cs =>
    if c = mark then [] :: split mark cs
    else match split mark cs with
      | [] => [[c]]
      | piece :: pieces => (c :: piece) :: pieces

/-- Put pieces together with a mark between each two. -/
def join (mark : Char) : List (List Char) → List Char
  | [] => []
  | [piece] => piece
  | piece :: pieces => piece ++ mark :: join mark pieces

/-- The parts before and after the first mark. -/
def cut? (mark : Char) : List Char → Option (List Char × List Char)
  | [] => none
  | c :: cs => if c = mark then some ([], cs) else (cut? mark cs).map fun p => (c :: p.1, p.2)

/-- The number of bytes of a text in UTF-8. -/
def size : List Char → Nat
  | [] => 0
  | c :: cs => c.utf8Size + size cs

theorem split_ne_nil (mark : Char) (cs : List Char) : split mark cs ≠ [] := by
  cases cs with
  | nil => simp [split]
  | cons c cs => unfold split; split <;> (try split) <;> simp

@[simp] theorem join_split (mark : Char) (cs : List Char) : join mark (split mark cs) = cs := by
  induction cs with
  | nil => rfl
  | cons c cs ih =>
    unfold split
    by_cases h : c = mark
    · cases hs : split mark cs with
      | nil => exact absurd hs (split_ne_nil mark cs)
      | cons p ps => rw [hs] at ih; simp [h, join, ih]
    · cases hs : split mark cs with
      | nil => exact absurd hs (split_ne_nil mark cs)
      | cons p ps =>
        rw [hs] at ih
        cases ps <;> simp_all [join]

theorem not_mem_of_mem_split {mark : Char} {cs piece : List Char} (h : piece ∈ split mark cs) :
    mark ∉ piece := by
  induction cs generalizing piece with
  | nil => simp_all [split]
  | cons c cs ih =>
    unfold split at h
    by_cases hc : c = mark
    · simp only [hc, if_true, List.mem_cons] at h
      rcases h with rfl | h
      · simp
      · exact ih h
    · cases hs : split mark cs with
      | nil => exact absurd hs (split_ne_nil mark cs)
      | cons p ps =>
        rw [hs] at h
        simp only [hc, if_false, List.mem_cons] at h
        rcases h with rfl | h
        · have hp : mark ∉ p := ih (by simp [hs])
          simp [Ne.symm hc, hp]
        · exact ih (by simp [hs, h])

theorem split_of_not_mem {mark : Char} {cs : List Char} (h : mark ∉ cs) : split mark cs = [cs] := by
  induction cs with
  | nil => rfl
  | cons c cs ih =>
    obtain ⟨hc, hcs⟩ := not_or.mp (mt List.mem_cons.mpr h)
    rw [split, if_neg (Ne.symm hc), ih hcs]

/-- What stands before the first mark is the first piece. -/
theorem split_append_cons {mark : Char} {piece : List Char} (h : mark ∉ piece) (cs : List Char) :
    split mark (piece ++ mark :: cs) = piece :: split mark cs := by
  induction piece with
  | nil => exact if_pos rfl
  | cons c piece ih =>
    obtain ⟨hc, hpiece⟩ := not_or.mp (mt List.mem_cons.mpr h)
    rw [List.cons_append, split, if_neg (Ne.symm hc), ih hpiece]

theorem split_join {mark : Char} {pieces : List (List Char)} (hne : pieces ≠ [])
    (h : ∀ piece ∈ pieces, mark ∉ piece) : split mark (join mark pieces) = pieces := by
  induction pieces with
  | nil => exact absurd rfl hne
  | cons piece pieces ih =>
    obtain ⟨hpiece, hpieces⟩ := List.forall_mem_cons.mp h
    cases pieces with
    | nil => exact split_of_not_mem hpiece
    | cons next pieces =>
      have hjoin : join mark (piece :: next :: pieces) =
          piece ++ mark :: join mark (next :: pieces) := rfl
      rw [hjoin, split_append_cons hpiece, ih (List.cons_ne_nil _ _) hpieces]

/-- The pieces of a text hold no mark, and put together they are the text. No others do. -/
theorem split_eq_iff {mark : Char} {cs : List Char} {pieces : List (List Char)} :
    split mark cs = pieces ↔
      pieces ≠ [] ∧ (∀ piece ∈ pieces, mark ∉ piece) ∧ join mark pieces = cs := by
  constructor
  · rintro rfl
    exact ⟨split_ne_nil mark cs, fun _ => not_mem_of_mem_split, join_split mark cs⟩
  · rintro ⟨hne, hpieces, rfl⟩
    exact split_join hne hpieces

theorem cut?_eq_none_iff {mark : Char} {cs : List Char} : cut? mark cs = none ↔ mark ∉ cs := by
  induction cs with
  | nil => simp [cut?]
  | cons c cs ih =>
    by_cases hc : c = mark
    · simp [cut?, hc]
    · simp [cut?, hc, Ne.symm hc, ih]

/-- A text is cut at its first mark. -/
theorem cut?_eq_some_iff {mark : Char} {cs before after : List Char} :
    cut? mark cs = some (before, after) ↔ mark ∉ before ∧ cs = before ++ mark :: after := by
  induction cs generalizing before with
  | nil => simp [cut?]
  | cons c cs ih =>
    unfold cut?
    by_cases hc : c = mark
    · rw [if_pos hc, hc]
      cases before with
      | nil => simp [eq_comm]
      | cons b before => simp +contextual
    · rw [if_neg hc]
      cases before with
      | nil => simp [hc]
      | cons b before =>
        simp only [Option.map_eq_some_iff, Prod.mk.injEq, List.cons.injEq, List.mem_cons, not_or,
          List.cons_append]
        constructor
        · rintro ⟨⟨_, _⟩, hcut, ⟨rfl, rfl⟩, rfl⟩
          obtain ⟨hmark, hcs⟩ := ih.mp hcut
          exact ⟨⟨Ne.symm hc, hmark⟩, rfl, hcs⟩
        · rintro ⟨⟨-, hmark⟩, rfl, hcs⟩
          exact ⟨(before, after), ih.mpr ⟨hmark, hcs⟩, ⟨rfl, rfl⟩, rfl⟩

@[simp] theorem size_nil : size [] = 0 := rfl

@[simp] theorem size_cons (c : Char) (cs : List Char) : size (c :: cs) = c.utf8Size + size cs := rfl

@[simp] theorem size_append (cs ds : List Char) : size (cs ++ ds) = size cs + size ds := by
  induction cs with
  | nil => simp
  | cons c cs ih => simp [ih, Nat.add_assoc]

theorem size_eq_zero_iff {cs : List Char} : size cs = 0 ↔ cs = [] := by
  cases cs with
  | nil => simp
  | cons c cs =>
    have := c.utf8Size_pos
    simp
    omega

/-- A text is cut at a byte in one way. -/
theorem append_inj_of_size {cs cs' ds ds' : List Char} (h : cs ++ ds = cs' ++ ds')
    (hsize : size cs = size cs') :
    cs = cs' ∧ ds = ds' := by
  rcases List.append_eq_append_iff.mp h with ⟨more, rfl, rfl⟩ | ⟨more, rfl, rfl⟩
  all_goals
    obtain rfl : more = [] := by
      rw [size_append] at hsize
      exact size_eq_zero_iff.mp (by omega)
    simp

/-! ### Runs of characters -/

section Runs

variable {p : Char → Bool} {cs more : List Char}

theorem takeWhile_of_head? (hp : ∀ c ∈ more.head?, p c = false) : more.takeWhile p = [] := by
  cases more with
  | nil => rfl
  | cons c more => simp [hp c rfl]

/-- A run of characters ends where it ended before. -/
theorem takeWhile_append_of_head? (hp : ∀ c ∈ more.head?, p c = false) :
    (cs ++ more).takeWhile p = cs.takeWhile p := by
  rw [List.takeWhile_append, takeWhile_of_head? hp, List.append_nil]
  split
  next hall => exact (List.takeWhile_prefix p).eq_of_length hall |>.symm
  next => rfl

theorem dropWhile_append_of_head? (hp : ∀ c ∈ more.head?, p c = false) :
    (cs ++ more).dropWhile p = cs.dropWhile p ++ more := by
  have hsplit := List.takeWhile_append_dropWhile (p := p) (l := cs ++ more)
  rw [takeWhile_append_of_head? hp] at hsplit
  refine List.append_cancel_left (hsplit.trans ?_)
  rw [← List.append_assoc, List.takeWhile_append_dropWhile]

/-- A run of characters is all of them, if something else follows. -/
theorem takeWhile_run (hcs : ∀ c ∈ cs, p c = true) (hp : ∀ c ∈ more.head?, p c = false) :
    (cs ++ more).takeWhile p = cs := by
  rw [List.takeWhile_append_of_pos hcs, takeWhile_of_head? hp, List.append_nil]

theorem dropWhile_run (hcs : ∀ c ∈ cs, p c = true) (hp : ∀ c ∈ more.head?, p c = false) :
    (cs ++ more).dropWhile p = more := by
  have hsplit := List.takeWhile_append_dropWhile (p := p) (l := cs ++ more)
  rw [takeWhile_run hcs hp] at hsplit
  exact List.append_cancel_left hsplit

/-- Behind a run something else follows. -/
theorem eq_false_of_mem_head?_dropWhile {c : Char} (h : c ∈ (cs.dropWhile p).head?) :
    p c = false := by
  have hhead := List.head?_dropWhile_not p cs
  rw [h] at hhead
  simpa using hhead

end Runs

end Text
end PageBuilder
