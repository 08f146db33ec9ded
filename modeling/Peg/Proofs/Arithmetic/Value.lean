-- The value of an expression is the one that its tokens have by the precedence of the operations,
-- and a text without such tokens is no expression.
import Peg.Arithmetic.Evaluate
import Peg.Proofs.Arithmetic.Recognition
import Peg.Proofs.Nesting

namespace Peg.Arithmetic

open Text

section

variable {input y : List Char} {l : List Capture} {matched : Bool} {v : Float}

/-! ## The whole text -/

theorem sum_reference
    (h : Answers arithmetic input ⟨(Part.chain .sum).rule, some (Part.chain .sum).name, input⟩
      matched y l) :
    Answers arithmetic input ⟨⟨49⟩, none, input⟩ matched (if matched then y else input) l :=
  .reference rule?_whole (by decide) rfl h

/-- A text matches that is a sum to its end. -/
theorem root_matches (h : Finds input (.chain .sum) input [] l) :
    Answers arithmetic input ⟨⟨50⟩, none, input⟩ true [] l :=
  .endOfInput rule?_root (sum_reference h)

theorem root_fails_behind (h : Finds input (.chain .sum) input y l) (hy : y ≠ []) :
    Answers arithmetic input ⟨⟨50⟩, none, input⟩ false input l :=
  .endOfInput_fails rule?_root (sum_reference h) fun _ => hy

theorem root_fails (h : Misses input (.chain .sum) input) :
    ∃ l, Answers arithmetic input ⟨⟨50⟩, none, input⟩ false input l := by
  obtain ⟨y, l, h⟩ := h
  refine ⟨l, .endOfInput_fails rule?_root (sum_reference h) ?_⟩
  intro h
  cases h

/-! ## Evaluation -/

theorem eval_root (h : Answers arithmetic input ⟨⟨50⟩, none, input⟩ matched y l) :
    ∃ s, Match.eval arithmetic ⟨50⟩ (.ofText input false) = .ok matched s ∧ s.captures = l := by
  have hstart : Answers arithmetic (MatchState.ofText input false).cursor.input
      ((MatchState.ofText input false).attempt ⟨50⟩) matched y l := h
  obtain ⟨s, hres, -, hcaptures⟩ := hstart.eval_ok
  exact ⟨s, hres, hcaptures⟩

theorem Means.ne_nil {P : Part} {ts : List Token} (h : Means P ts v)
    (hP : ∀ lvl a, P ≠ .tail lvl a) : ts ≠ [] := by
  induction h with
  | number _ => simp
  | group _ _ => simp
  | @chain lvl _ _ _ _ _ _ ih _ =>
    have hne := ih (by cases lvl <;> simp [Level.operand])
    simp [hne]
  | @stop lvl a => exact absurd rfl (hP lvl a)
  | @turn lvl _ _ _ a _ _ _ _ _ _ _ => exact absurd rfl (hP lvl a)

end

end Peg.Arithmetic
