-- The ways in which a program may go on at some place of a text, kept in step and best first.
-- Of two ways that come to one instruction at one place the better one is kept, since whatever
-- the other one finds it finds first.
import Std.Data.HashSet
import Peg.Regex.Program
import Peg.Text.Octet
import Peg.Text.Word

namespace Peg.Regex

open Text

/-- Where a way is: before an instruction, or inside of a character with so many bytes of it
still to be read. -/
inductive Way where
  | before (place : Nat)
  | inside (place left : Nat)

namespace Program

/-- The instruction that a way has come to, if it is not inside of a character. -/
def instruction? (p : Program) : Way → Option Instruction
  | .before place => p.instructions[place]?
  | .inside _ _ => none

/-! ## Without reading -/

/-- The ways that the ways `todo` lead to without reading anything, where the conditions hold
that `holds` says. A condition itself stays a way, so that it can be tried again when more is
known. `seen` holds the instructions that have been reached, and `ready` the answer so far,
last one first. -/
def settleWithin (p : Program) (holds : Assertion → Bool) :
    Nat → List Way → Std.HashSet Nat → List Way → List Way
  | 0, _, _, ready => ready.reverse
  | _ + 1, [], _, ready => ready.reverse
  | fuel + 1, .inside place left :: todo, seen, ready =>
    p.settleWithin holds fuel todo seen (.inside place left :: ready)
  | fuel + 1, .before place :: todo, seen, ready =>
    if seen.contains place then p.settleWithin holds fuel todo seen ready
    else
      let seen := seen.insert place
      match p.instructions[place]? with
      | none => p.settleWithin holds fuel todo seen ready
      | some (.jump target) => p.settleWithin holds fuel (.before target :: todo) seen ready
      | some (.fork first second) =>
        p.settleWithin holds fuel (.before first :: .before second :: todo) seen ready
      | some (.check condition) =>
        let todo := if holds condition then .before (place + 1) :: todo else todo
        p.settleWithin holds fuel todo seen (.before place :: ready)
      | some _ => p.settleWithin holds fuel todo seen (.before place :: ready)

/-- The ways that `todo` leads to without reading. An instruction is reached at most once, and
brings at most two more ways. -/
def settle (p : Program) (holds : Assertion → Bool) (todo : List Way) : List Way :=
  p.settleWithin holds (todo.length + 2 * p.instructions.size + 1) todo {} []

/-! ## Reading -/

/-- Where a way goes on when a byte has been read. -/
def afterOctet (p : Program) (o : Octet) (way : Way) : Option Way :=
  match way with
  | .inside place left => some (if left ≤ 1 then .before place else .inside place (left - 1))
  | .before place =>
    match p.instructions[place]? with
    | some (.take set) =>
      match o.opens with
      | none => none
      | some c =>
        if !set.has c then none
        else if c.utf8Size = 1 then some (.before (place + 1))
        else some (.inside (place + 1) (c.utf8Size - 1))
    | some (.takeByte set) => if set.contains o.value then some (.before (place + 1)) else none
    | _ => none

def accepts (p : Program) (way : Way) : Bool :=
  match p.instruction? way with
  | some .accept => true
  | _ => false

def checks (p : Program) (way : Way) : Bool :=
  match p.instruction? way with
  | some (.check _) => true
  | _ => false

/-- The ways that are better than the first one to accept. -/
def better (p : Program) (ways : List Way) : List Way := ways.takeWhile (!p.accepts ·)

/-- Where some ways go on behind the next byte. At the end of the text they end. -/
def read (p : Program) (next : Option Octet) (ways : List Way) : List Way :=
  match next with
  | none => []
  | some o => ways.filterMap (p.afterOctet o)

end Program

end Peg.Regex
