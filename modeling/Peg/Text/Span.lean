-- A span is a region of a text between two byte offsets.
import Peg.Text.Bytes

namespace Peg.Text

/-- A region of a text. The start never comes after the stop, but the text need not
reach that far, nor be cut there. -/
structure Span where
  source : List Char
  start : Nat
  stop : Nat
  ordered : start ≤ stop

namespace Span

/-- The span between two offsets, if they come in order. -/
def between? (source : List Char) (start stop : Nat) : Option Span :=
  if h : start ≤ stop then some ⟨source, start, stop, h⟩ else none

/-- The text of the region, if the source can be cut at both ends. -/
def text? (s : Span) : Option (List Char) := slice? s.start s.stop s.source

/-- Spans count as equal when their texts are equal, wherever they lie. -/
def sameText (s t : Span) : Bool := s.text? == t.text?

theorem between?_eq_none_iff {source : List Char} {start stop : Nat} :
    between? source start stop = none ↔ stop < start := by
  unfold between?
  split <;> simp <;> omega

end Span

end Peg.Text
