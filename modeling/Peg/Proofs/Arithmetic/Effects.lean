-- What replaying captures does to a calculator. Those of an operand push its value, and those of
-- an operation behind it replace the value on top.
import Peg.Proofs.Arithmetic.Reading
import Peg.Proofs.Arithmetic.Rules
import Peg.Proofs.Captures

namespace Peg

open Text

variable {σ : Type}

/-! ## Replaying -/

/-- Captures are replayed after each other, whatever came last before them. -/
theorem replayAfter_append (g : Arena σ) (last : Option Capture) (l m : List Capture) :
    ∃ last', ∀ output, g.replayAfter last (l ++ m) output =
      g.replayAfter last' m (g.replayAfter last l output) := by
  induction l generalizing last with
  | nil => exact ⟨last, fun _ => rfl⟩
  | cons c l ih =>
    obtain ⟨last', h⟩ := ih (some c)
    exact ⟨last', fun output => h (g.replayOne ⟨c, last⟩ output)⟩

/-- The text of a capture is what was read in between. -/
theorem text?_between {input x y u : List Char} {id : RuleId} (hx : x <:+ input) (hu : x = u ++ y) :
    (Capture.between input x y id).text? = some u := by
  obtain ⟨v, rfl⟩ := hx
  subst hu
  have hstart : offset (v ++ (u ++ y)) (u ++ y) = byteLength v := by simp [offset]
  have hlength : byteLength (u ++ y) - byteLength y = byteLength u := by simp
  simp only [Capture.text?, Capture.between, Span.text?, hstart, hlength]
  exact slice?_append v u y

namespace Arithmetic

/-- Replaying the captures pushes a value. -/
def Pushes (l : List Capture) (v : Float) : Prop :=
  ∀ (last : Option Capture) (c : Calculator), arithmetic.replayAfter last l c = c.push v

/-- Replaying the captures turns the value on top into another one. -/
def Turns (l : List Capture) (a v : Float) : Prop :=
  ∀ (last : Option Capture) (c : Calculator), arithmetic.replayAfter last l (c.push a) = c.push v

section

variable {l m : List Capture} {a b v : Float} {id : RuleId} {input x y : List Char}

theorem Turns.nil : Turns [] a a := fun _ _ => rfl

theorem Turns.trans (h : Turns l a b) (h' : Turns m b v) : Turns (l ++ m) a v := by
  intro last c
  obtain ⟨last', happend⟩ := replayAfter_append arithmetic last l m
  rw [happend, h, h']

theorem Pushes.turns (h : Pushes l a) (h' : Turns m a v) : Pushes (l ++ m) v := by
  intro last c
  obtain ⟨last', happend⟩ := replayAfter_append arithmetic last l m
  rw [happend, h, h']

/-- An operation takes the value on top and the one that its operand has pushed. -/
theorem Pushes.turn {s : RuleId} {op : Operation}
    (hr : arithmetic.rule? id = some (.action s (applyOperation op))) (h : Pushes l b) :
    Turns (l ++ [.between input x y id]) a (op.apply a b) := by
  intro last c
  obtain ⟨last', happend⟩ := replayAfter_append arithmetic last l [.between input x y id]
  rw [happend, h]
  have hid : (Capture.between input x y id).rule = id := rfl
  simp only [Arena.replayAfter, Arena.replayOne, hid, hr]
  rfl

/-- The capture of a number pushes the value of the number. -/
theorem Pushes.number {s : RuleId} {n : Number}
    (hr : arithmetic.rule? id = some (.action s pushNumber)) (hx : x <:+ input)
    (hn : x = n.text ++ y) (hv : parseFloat n.text = .ok v) : Pushes [.between input x y id] v := by
  intro last c
  have hid : (Capture.between input x y id).rule = id := rfl
  simp only [Arena.replayAfter, Arena.replayOne, hid, hr, pushNumber, Replay.text,
    text?_between hx hn, Option.getD_some, Calculator.pushText, hv]

end

end Arithmetic

end Peg
