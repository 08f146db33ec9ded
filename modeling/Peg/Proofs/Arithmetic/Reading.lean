-- Tokens are read one after another, each with the layout behind it. So a place in front of a
-- token is never in front of a blank, and it does not matter which rule skips the blanks.
import Mathlib.Data.List.DropRight
import Peg.Proofs.Arithmetic.Meaning
import Peg.Proofs.Layout
import Peg.Text.Blank

namespace Peg.Arithmetic

open Ebnf Text

/-- The text without the blanks and line ends that come first. -/
def skip (x : List Char) : List Char := x.dropWhile isLayoutBlank

/-- From one place in a text to another one, so many tokens are read, each with layout behind. -/
inductive Reads : List Token → List Char → List Char → Prop where
  | nil {z : List Char} : Reads [] z z
  | cons (t : Token) {ts : List Token} {layout x z : List Char} :
    (∀ c ∈ layout, isLayoutBlank c = true) → Reads ts x z →
      Reads (t :: ts) (t.text ++ (layout ++ x)) z

section

variable {ts us : List Token} {t : Token} {x y z layout : List Char}

/-! ## Layout -/

theorem skip_skip (x : List Char) : skip (skip x) = skip x := List.dropWhile_idempotent _ _

theorem skip_append (h : ∀ c ∈ layout, isLayoutBlank c = true) (x : List Char) :
    skip (layout ++ x) = skip x := List.dropWhile_append_of_pos h

theorem skip_eq_self (h : ∀ c ∈ x.head?, ¬ isLayoutBlank c = true) : skip x = x :=
  dropWhile_of_not_startsWith fun ⟨c, hc, hblank⟩ => h c hc hblank

theorem skip_suffix (x : List Char) : skip x <:+ x := List.dropWhile_suffix _

/-- What is skipped is layout. -/
theorem exists_layout (x : List Char) :
    ∃ layout, (∀ c ∈ layout, isLayoutBlank c = true) ∧ x = layout ++ skip x :=
  ⟨x.takeWhile isLayoutBlank, fun _ => List.mem_takeWhile_imp, List.takeWhile_append_dropWhile.symm⟩

/-- No token begins with a blank. -/
theorem Token.text_eq_cons (t : Token) : ∃ c u, t.text = c :: u ∧ ¬ isLayoutBlank c = true := by
  cases t with
  | number n =>
    obtain ⟨c, u, hu, hc⟩ := n.text_eq_cons
    refine ⟨c, u, hu, ?_⟩
    intro hblank
    simp only [isLayoutBlank, Bool.or_eq_true, decide_eq_true_eq] at hblank
    rcases hblank with ((rfl | rfl) | rfl) | rfl <;> revert hc <;> decide
  | operator op => cases op <;> exact ⟨_, [], rfl, by decide⟩
  | opening => exact ⟨'(', [], rfl, by decide⟩
  | closing => exact ⟨')', [], rfl, by decide⟩

theorem Token.skip_text (t : Token) (x : List Char) : skip (t.text ++ x) = t.text ++ x := by
  obtain ⟨c, u, hu, hc⟩ := t.text_eq_cons
  apply skip_eq_self
  rw [hu]
  intro d hd
  cases hd
  exact hc

/-! ## Tokens one after another -/

theorem Reads.single (t : Token) (x : List Char) : Reads [t] (t.text ++ x) (skip x) := by
  obtain ⟨layout, hlayout, hx⟩ := exists_layout x
  have h := Reads.cons t hlayout (.nil (z := skip x))
  rwa [← hx] at h

theorem Reads.append (h : Reads ts x y) (h' : Reads us y z) : Reads (ts ++ us) x z := by
  induction h with
  | nil => exact h'
  | cons t hlayout _ ih => exact .cons t hlayout (ih h')

theorem Reads.split (h : Reads (ts ++ us) x z) : ∃ y, Reads ts x y ∧ Reads us y z := by
  induction ts generalizing x with
  | nil => exact ⟨x, .nil, h⟩
  | cons t ts ih =>
    cases h with
    | cons _ hlayout h =>
      obtain ⟨y, hy, hz⟩ := ih h
      exact ⟨y, .cons t hlayout hy, hz⟩

theorem Reads.suffix (h : Reads ts x z) : z <:+ x := by
  induction h with
  | nil => exact List.suffix_rfl
  | cons t _ _ ih => exact ih.trans ((List.suffix_append _ _).trans (List.suffix_append _ _))

/-- Where tokens are read up to a place without blanks, they are read from such a place. -/
theorem Reads.skip_eq (h : Reads ts x z) (hz : skip z = z) : skip x = x := by
  cases h with
  | nil => exact hz
  | cons t _ _ => exact t.skip_text _

/-- The other tokens are read from behind the first one and its layout. -/
theorem Reads.head (h : Reads (t :: ts) x z) (hz : skip z = z) :
    ∃ u, x = t.text ++ u ∧ Reads ts (skip u) z := by
  cases h with
  | @cons _ _ layout y _ hlayout h =>
    refine ⟨layout ++ y, rfl, ?_⟩
    rwa [skip_append hlayout, h.skip_eq hz]

/-! ## Whole texts -/

theorem Spells.reads (h : Spells ts x) : Reads ts x [] := by
  induction h with
  | last t =>
    have h := Reads.single t []
    rwa [List.append_nil] at h
  | cons t hlayout _ ih => exact .cons t hlayout ih

end

end Peg.Arithmetic
