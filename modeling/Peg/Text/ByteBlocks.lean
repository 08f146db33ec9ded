-- The bytes of UTF-8, and how a range of code points looks in them: as blocks, each of which
-- gives a range of bytes for every place.
import Peg.Text.CodeSet

namespace Peg.Text

/-! ## Bytes -/

/-- The bytes of a code point. -/
def utf8Bytes (n : Nat) : List Nat :=
  if n < 0x80 then [n]
  else if n < 0x800 then [0xc0 + n / 64, 0x80 + n % 64]
  else if n < 0x10000 then [0xe0 + n / 4096, 0x80 + n / 64 % 64, 0x80 + n % 64]
  else [0xf0 + n / 262144, 0x80 + n / 4096 % 64, 0x80 + n / 64 % 64, 0x80 + n % 64]

/-! ## Blocks -/

/-- A range of bytes for every place of a character's bytes. -/
abbrev ByteBlock := List (Nat × Nat)

/-- Where a range has to be cut, if it is no block as it is: after the last code point of its
first part. It is cut where codes get longer, and else where a byte but the first would have
to start or stop within its own range while a byte before it changes. -/
def cutAfter? (lo hi : Nat) : Option Nat :=
  if lo < 0x80 ∧ 0x80 ≤ hi then some 0x7f
  else if lo < 0x800 ∧ 0x800 ≤ hi then some 0x7ff
  else if lo < 0x10000 ∧ 0x10000 ≤ hi then some 0xffff
  else if hi < 0x80 then none
  else if lo / 64 < hi / 64 ∧ lo % 64 ≠ 0 then some (lo / 64 * 64 + 63)
  else if lo / 64 < hi / 64 ∧ hi % 64 ≠ 63 then some (hi / 64 * 64 - 1)
  else if lo / 4096 < hi / 4096 ∧ lo % 4096 ≠ 0 then some (lo / 4096 * 4096 + 4095)
  else if lo / 4096 < hi / 4096 ∧ hi % 4096 ≠ 4095 then some (hi / 4096 * 4096 - 1)
  else if lo / 262144 < hi / 262144 ∧ lo % 262144 ≠ 0 then some (lo / 262144 * 262144 + 262143)
  else if lo / 262144 < hi / 262144 ∧ hi % 262144 ≠ 262143 then some (hi / 262144 * 262144 - 1)
  else none

/-- A cut leaves something on both sides. -/
theorem cutAfter?_bounds {lo hi n : Nat} (h : cutAfter? lo hi = some n) : lo ≤ n ∧ n < hi := by
  unfold cutAfter? at h
  repeat' split at h
  all_goals simp only [Option.some.injEq, reduceCtorEq] at h
  all_goals omega

/-- The blocks of the code points from `lo` to `hi`, none of which is a surrogate. -/
def byteBlocks (lo hi : Nat) : List ByteBlock :=
  match h : cutAfter? lo hi with
  | none => [(utf8Bytes lo).zip (utf8Bytes hi)]
  | some n =>
    have := cutAfter?_bounds h
    byteBlocks lo n ++ byteBlocks (n + 1) hi
termination_by hi - lo

/-- The blocks of the characters of a set, in the order of their code points. -/
def CodeSet.byteBlocks (s : CodeSet) : List ByteBlock :=
  s.ranges.flatMap fun (lo, hi) =>
    if lo < 0xd800 ∧ 0xdfff < hi then Text.byteBlocks lo 0xd7ff ++ Text.byteBlocks 0xe000 hi
    else Text.byteBlocks lo hi

end Peg.Text
