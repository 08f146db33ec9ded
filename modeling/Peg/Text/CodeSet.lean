-- Sets of characters, written as ranges of code points that come in order and leave gaps.

namespace Peg.Text

/-! ## The sets -/

/-- A set of code points. Its ranges ascend, and between two of them at least one code
point is missing. No range begins or ends at a surrogate, which is no character; a range
may go across the surrogates. -/
structure CodeSet where
  ranges : List (Nat × Nat)
deriving DecidableEq

namespace CodeSet

/-- The largest code point. -/
def last : Nat := 0x10ffff

def empty : CodeSet := ⟨[]⟩

/-- All code points. -/
def all : CodeSet := ⟨[(0, last)]⟩

def isEmpty (s : CodeSet) : Bool := s.ranges.isEmpty

/-- Whether `n` lies in one of the ranges. They ascend, so the search stops at the first
range that begins after `n`. -/
def inRanges (n : Nat) : List (Nat × Nat) → Bool
  | [] => false
  | (lo, hi) :: more => if n < lo then false else if n ≤ hi then true else inRanges n more

def contains (s : CodeSet) (n : Nat) : Bool := inRanges n s.ranges

/-- Whether a character is in the set. -/
def has (s : CodeSet) (c : Char) : Bool := s.contains c.toNat

/-- The number of code points in the ranges. -/
def size (s : CodeSet) : Nat := s.ranges.foldl (fun n r => n + (r.2 + 1 - r.1)) 0

/-! ## Building sets -/

/-- The range from `lo` to `hi` and the ranges after it, which begin no earlier. Where they
touch they become one. -/
def joinFrom (lo hi : Nat) : List (Nat × Nat) → List (Nat × Nat)
  | [] => [(lo, hi)]
  | (a, b) :: more =>
    if a ≤ hi + 1 then joinFrom lo (max hi b) more else (lo, hi) :: joinFrom a b more

/-- The set of ranges whose starts ascend. -/
def ofAscending : List (Nat × Nat) → CodeSet
  | [] => empty
  | (lo, hi) :: more => ⟨joinFrom lo hi more⟩

/-- The set of ranges in any order. -/
def ofRanges (ranges : List (Nat × Nat)) : CodeSet :=
  ofAscending (ranges.mergeSort fun r s => r.1 ≤ s.1)

/-- The set of one character. -/
def single (c : Char) : CodeSet := ⟨[(c.toNat, c.toNat)]⟩

def union (s t : CodeSet) : CodeSet :=
  ofAscending (s.ranges.merge t.ranges fun r s => r.1 ≤ s.1)

/-- The next code point of a character. -/
def next (n : Nat) : Nat := if n = 0xd7ff then 0xe000 else n + 1

/-- The code point of the character before. -/
def previous (n : Nat) : Nat := if n = 0xe000 then 0xd7ff else n - 1

/-- The gaps behind a range that ends at `hi`, up to `top`. Two ranges that leave no more than
the surrogates between them have their own two ends for a gap. -/
def gapsBehind (top hi : Nat) : List (Nat × Nat) → List (Nat × Nat)
  | [] => if hi < top then [(next hi, top)] else []
  | (a, b) :: more =>
    (min (next hi) (previous a), max (next hi) (previous a)) :: gapsBehind top b more

/-- The code points up to `top` that are not in the set. -/
def complementUpTo (top : Nat) (s : CodeSet) : CodeSet :=
  match s.ranges with
  | [] => ⟨[(0, top)]⟩
  | (lo, hi) :: more =>
    if lo = 0 then ⟨gapsBehind top hi more⟩
    else ⟨(0, previous lo) :: gapsBehind top hi more⟩

def complement (s : CodeSet) : CodeSet := s.complementUpTo last

/-- What two lists of ranges have in common. -/
def commonRanges : List (Nat × Nat) → List (Nat × Nat) → List (Nat × Nat)
  | [], _ => []
  | _, [] => []
  | (a, b) :: s, (c, d) :: t =>
    let rest := if b < d then commonRanges s ((c, d) :: t) else commonRanges ((a, b) :: s) t
    if max a c ≤ min b d then (max a c, min b d) :: rest else rest
termination_by s t => s.length + t.length

def inter (s t : CodeSet) : CodeSet := ⟨commonRanges s.ranges t.ranges⟩

/-- What is left of some ranges without some others. -/
def withoutRanges : List (Nat × Nat) → List (Nat × Nat) → List (Nat × Nat)
  | [], _ => []
  | s, [] => s
  | (a, b) :: s, (c, d) :: t =>
    if d < a then withoutRanges ((a, b) :: s) t
    else if b < c then (a, b) :: withoutRanges s ((c, d) :: t)
    else
      let rest :=
        if d < b then withoutRanges ((next d, b) :: s) t else withoutRanges s ((c, d) :: t)
      if a < c then (a, previous c) :: rest else rest
termination_by s t => s.length + t.length

def difference (s t : CodeSet) : CodeSet := ⟨withoutRanges s.ranges t.ranges⟩

def symmetricDifference (s t : CodeSet) : CodeSet := (s.union t).difference (s.inter t)

end CodeSet

end Peg.Text
