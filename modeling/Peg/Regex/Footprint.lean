-- How much room an expression takes as a machine. Three machines are made of every expression,
-- and an expression is too large when one of them is. The sizes count to the last instruction,
-- since they decide which expressions are accepted.
import Std.Data.HashMap
import Peg.Regex.Traits
import Peg.Text.ByteBlocks

namespace Peg.Regex

open Text

/-! ## Machines and their sizes -/

/-- A way to lay an expression out as the instructions of a machine. -/
structure Layout where
  /-- Instructions read bytes. Otherwise they read characters. -/
  bytes : Bool
  /-- Texts are read from their ends. -/
  backward : Bool
  /-- Where groups begin and end is noted. -/
  captures : Bool

/-- The size of a machine: its instructions, and the ranges of characters that belong to
them. -/
structure Footprint where
  instructions : Nat
  ranges : Nat

namespace Footprint

/-- An instruction takes 32 bytes, and a range takes 8. -/
def bytes (f : Footprint) : Nat := 32 * f.instructions + 8 * f.ranges

/-- The size up to which machines are made, in bytes: ten times `2 ^ 20`. -/
def limit : Nat := 10485760

def add (f : Footprint) (instructions : Nat) : Footprint :=
  { f with instructions := f.instructions + instructions }

end Footprint

/-! ## Classes as bytes -/

/-- What an instruction that reads a byte is known by: where it goes on and its range. -/
structure Tail where
  next : UInt64
  lo : Nat
  hi : Nat
deriving DecidableEq

namespace Tail

/-- Where a tail goes on that ends a character. -/
def outside : UInt64 := 0xffffffffffffffff

def mix (h x : UInt64) : UInt64 := (h ^^^ x) * 1099511628211

/-- The place of a tail among the thousand places that there are to remember tails. -/
def place (t : Tail) : Nat :=
  (mix (mix (mix 14695981039346656037 t.next) t.lo.toUInt64) t.hi.toUInt64).toNat % 1000

end Tail

/-- The tails that are remembered, with their instructions. A place keeps the last tail that
has come to it. -/
abbrev Tails := Std.HashMap Nat (Tail × Nat)

/-- Lays out the bytes of a block from the last one, or from the first one when texts are read
from their ends, and shares what it has in common with the blocks before. -/
def addBlock (block : ByteBlock) (count : Nat) (tails : Tails) : Nat × Tails :=
  let (_, count, tails) := block.foldl
    (fun (next, count, tails) (lo, hi) =>
      let tail : Tail := ⟨next, lo, hi⟩
      match tails[tail.place]? with
      | some (known, instruction) =>
        if known = tail then (instruction.toUInt64, count, tails)
        else (count.toUInt64, count + 1, tails.insert tail.place (tail, count))
      | none => (count.toUInt64, count + 1, tails.insert tail.place (tail, count)))
    (Tail.outside, count, tails)
  (count, tails)

/-- Lays out blocks behind `count` instructions. All but the last have an instruction that
chooses between them and the others. -/
def addBlocks (backward : Bool) : List ByteBlock → Nat → Tails → Nat
  | [], count, _ => count
  | block :: more, count, tails =>
    let count := if more.isEmpty then count else count + 1
    let (count, tails) := addBlock (if backward then block else block.reverse) count tails
    addBlocks backward more count tails

/-- Lays out the choice of one character. -/
def Layout.addSet (l : Layout) (s : CodeSet) (f : Footprint) : Footprint :=
  if l.bytes then { f with instructions := addBlocks l.backward s.byteBlocks f.instructions {} }
  else if s.size = 1 then f.add 1
  else { instructions := f.instructions + 1, ranges := f.ranges + s.ranges.length }

/-! ## Expressions -/

/-- Does something so many times, or until it changes nothing any more. -/
def addCopies (copy : Footprint → Option Footprint) : Nat → Footprint → Option Footprint
  | 0, f => some f
  | n + 1, f =>
    match copy f with
    | none => none
    | some g => if g.instructions = f.instructions then some f else addCopies copy n g

/-- Lays out an instruction that chooses between something and nothing. -/
def addOptional (copy : Footprint → Option Footprint) (f : Footprint) : Option Footprint :=
  (copy (f.add 1)).map fun g => if g.instructions = f.instructions + 1 then f else g

mutual

/-- Lays an expression out behind what has been laid out so far, if that is not too much
already. -/
def Layout.lay (l : Layout) (r : Regex) (f : Footprint) : Option Footprint :=
  if Footprint.limit < f.bytes then none
  else
    match r with
    | .empty => some f
    | .literal c => some (l.addSet (.single c) f)
    | .oneOf s => some (l.addSet s f)
    | .byteOf s => some (f.add (2 * s.ranges.length - 1))
    | .assertion _ => some (f.add 1)
    | .group captures r =>
      if captures && l.captures then (l.lay r (f.add 1)).map (·.add 1) else l.lay r f
    | .plus _ r => (l.lay r f).map fun g => if g.instructions = f.instructions then f else g.add 1
    | .counted _ least most r => do
      let f ← addCopies (l.lay r) least f
      match most with
      | none => addOptional (l.lay r) f
      | some most => addCopies (addOptional (l.lay r)) (most - least) f
    | .concat parts => l.layAll parts f
    | .either choices => l.layChoices choices f

/-- Lays out expressions one after the other. -/
def Layout.layAll (l : Layout) : List Regex → Footprint → Option Footprint
  | [], f => some f
  | r :: more, f => (l.lay r f).bind (l.layAll more)

/-- Lays out choices, each but the last with an instruction that chooses between it and the
others. -/
def Layout.layChoices (l : Layout) : List Regex → Footprint → Option Footprint
  | [], f => some f
  | r :: more, f => (l.lay r (if more.isEmpty then f else f.add 1)).bind (l.layChoices more)

end

/-! ## The three machines -/

/-- As few characters as will do, of any kind. -/
def leastOfAnything : Regex := .counted false 0 none (.oneOf .all)

/-- The expression as it is looked for from the start of a text: behind anything else, unless
its matches begin where the text does. -/
def searching (r : Regex) : Regex := if r.traits.atStart then r else .concat [leastOfAnything, r]

/-- Whether no machine of an expression is too large: neither the one that notes groups, nor the
two that read bytes, forward and backward. -/
def fits (r : Regex) : Bool :=
  let notes : Layout := { bytes := r.traits.readsBytes, backward := false, captures := true }
  let forward : Layout := { bytes := true, backward := false, captures := false }
  let backward : Layout := { bytes := true, backward := true, captures := false }
  (notes.lay r ⟨1, 0⟩).isSome && (forward.lay r.searching ⟨0, 0⟩).isSome &&
    (backward.lay r.reverse ⟨0, 0⟩).isSome

end Peg.Regex
