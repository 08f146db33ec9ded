-- Captures: which rule has matched which part of a text, and what an action sees of it.
import Peg.Text.Span

namespace Peg

open Text

/-- The place of a rule in its arena. -/
structure RuleId where
  index : Nat
deriving DecidableEq, Repr

/-! ## Captures -/

/-- A match of a rule that has an action. It is recorded while matching goes on, and the
action runs once the whole match has succeeded. -/
structure Capture where
  span : Span
  rule : RuleId

namespace Capture

def start (c : Capture) : Nat := c.span.start

def stop (c : Capture) : Nat := c.span.stop

/-- The text that was matched. A capture that no match has made may have none. -/
def text? (c : Capture) : Option (List Char) := c.span.text?

/-- The capture on one line: where it lies and what it holds. -/
def line? (c : Capture) : Option String :=
  c.text?.map fun text =>
    "[" ++ toString c.start ++ "," ++ toString c.stop ++ ":" ++ String.ofList text ++ "]"

end Capture

/-! ## Replays -/

/-- What an action sees of its capture. -/
structure Replay where
  current : Capture
  /-- The capture that was replayed just before this one. -/
  last : Option Capture

/-- The text of the capture that is replayed. -/
def Replay.text (r : Replay) : List Char := r.current.text?.getD []

/-- What to do with the output when a capture is replayed. -/
abbrev Action (σ : Type) := σ → Replay → σ

end Peg
