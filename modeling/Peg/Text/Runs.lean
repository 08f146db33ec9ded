-- Tables of code points in few letters: as runs that share a label, or as gaps and lengths.
import Peg.Text.CodeSet

namespace Peg.Text

/-! ## Runs with labels -/

/-- A run of code points, and the label that they share. -/
structure Run where
  first : Nat
  last : Nat
  label : String

namespace Run

/-- What has been read of a table: its runs, last one first, where the next run begins, and
as much of it as has been read, its label in reverse. -/
structure Reading where
  runs : List Run
  start : Nat
  length : Nat
  label : List Char

/-- Ends the run that is being read. -/
def Reading.close (r : Reading) : Reading :=
  if r.length = 0 then r
  else
    ⟨⟨r.start, r.start + r.length - 1, String.ofList r.label.reverse⟩ :: r.runs,
      r.start + r.length, 0, []⟩

/-- Reads one more character. A digit behind a label begins the next run. -/
def Reading.step (r : Reading) (c : Char) : Reading :=
  if c.isDigit then
    let r := if r.label.isEmpty then r else r.close
    { r with length := r.length * 10 + (c.toNat - '0'.toNat) }
  else { r with label := c :: r.label }

/-- The runs of a table that goes over all code points from 0 on. Each run is written as its
length and its label. -/
def readAll (lines : List String) : List Run :=
  let start : Reading := ⟨[], 0, 0, []⟩
  (lines.foldl (fun r (line : String) => line.toList.foldl Reading.step r) start).close.runs.reverse

end Run

namespace CodeSet

/-- The parts of a range that are no surrogates at its ends. -/
def trimSurrogates (lo hi : Nat) : Option (Nat × Nat) :=
  let lo := if 0xd800 ≤ lo ∧ lo ≤ 0xdfff then 0xe000 else lo
  let hi := if 0xd800 ≤ hi ∧ hi ≤ 0xdfff then 0xd7ff else hi
  if lo ≤ hi then some (lo, hi) else none

/-- The characters of the runs whose labels pass `p`. -/
def ofRuns (runs : List Run) (p : String → Bool) : CodeSet :=
  let s := ofAscending ((runs.filter (p ·.label)).map fun r => (r.first, r.last))
  ⟨s.ranges.filterMap fun r => trimSurrogates r.1 r.2⟩

/-! ## Gaps and lengths -/

/-- The numbers of some lines, with blanks between them. -/
def readNumbers (lines : List String) : List Nat :=
  lines.flatMap fun line => (String.splitOn line " ").filterMap String.toNat?

/-- The ranges that some gaps and lengths give by turns, when the first gap begins at `start`. -/
def rangesFrom : Nat → List Nat → List (Nat × Nat)
  | start, gap :: length :: more =>
    (start + gap, start + gap + length - 1) :: rangesFrom (start + gap + length) more
  | _, _ => []

/-- The set that is written as gaps and lengths by turns, from 0 on. -/
def ofGaps (lines : List String) : CodeSet := ⟨rangesFrom 0 (readNumbers lines)⟩

end CodeSet

end Peg.Text
