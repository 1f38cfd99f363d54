import Mathlib.Tactic.SplitIfs
import PageBuilder.Formula.Token

/-!
# The stream of tokens

Scanning ends with a `stop` token and no other token is a stop (`scan_eq`), so what a text has to
say is the kinds of the tokens before the last one, `Token.kinds`.
-/

namespace PageBuilder
namespace Formula

/-- No characters spell a stop. -/
theorem lexeme?_ne_stop {cs : List Char} {k : TokenKind} {n : Nat} (h : lexeme? cs = some (k, n)) :
    k ≠ .stop := by
  unfold lexeme? at h
  rintro rfl
  split at h
  · simp at h
  · split at h
    · simp at h
    · split_ifs at h with hq hd hw
      · simp at h
      · simp [number] at h
      · simp at h

namespace Token

/-- The tokens are some that are no stops, and then a stop. -/
theorem scanFrom_eq (position : Nat) (cs : List Char) :
    ∃ body last, scanFrom position cs = body ++ [⟨.stop, last⟩] ∧ ∀ t ∈ body, t.kind ≠ .stop := by
  fun_induction scanFrom position cs with
  | case1 position => exact ⟨[], position, rfl, by simp⟩
  | case2 position c rest hblank ih => exact ih
  | case3 position c rest hblank hlex => exact ⟨[], position, rfl, by simp⟩
  | case4 position c rest hblank kind n hlex ih =>
    obtain ⟨body, last, hscan, hbody⟩ := ih
    refine ⟨⟨kind, position⟩ :: body, last, by rw [hscan]; rfl, fun t ht => ?_⟩
    rcases List.mem_cons.mp ht with rfl | ht
    · exact lexeme?_ne_stop hlex
    · exact hbody t ht

theorem scan_eq (text : String) :
    ∃ body last, scan text = body ++ [⟨.stop, last⟩] ∧ ∀ t ∈ body, t.kind ≠ .stop :=
  scanFrom_eq 0 text.toList

/-- The kinds of the tokens of a text, without the stop at their end. -/
def kinds (text : String) : List TokenKind := (scan text).dropLast.map kind

end Token
end Formula
end PageBuilder
