-- Programs: expressions as instructions, in the order in which a text is read. A program may be
-- made of an expression read forward or read backward.
import Peg.Regex.Basic

namespace Peg.Regex

open Text

/-! ## Instructions -/

/-- One instruction. All but `jump`, `fork` and `accept` go on to the next one. -/
inductive Instruction where
  | accept
  | take (set : CodeSet)
  | takeByte (set : CodeSet)
  | check (condition : Assertion)
  | jump (target : Nat)
  /-- Goes on at both places, at `first` by preference. -/
  | fork (first second : Nat)

/-- A fork to the operand of a repetition at `inner` and to what follows it at `next`. -/
def Instruction.repeatFork (greedy : Bool) (inner next : Nat) : Instruction :=
  if greedy then .fork inner next else .fork next inner

/-! ## Sizes -/

/-- The number of instructions of a repetition, from that of its operand. An operand without
instructions is not repeated. -/
def repetitionSize (least : Nat) (most : Option Nat) (size : Nat) : Nat :=
  if size = 0 then 0
  else
    match most with
    | none => least * size + (size + 2)
    | some most => least * size + (most - least) * (size + 1)

mutual

/-- The number of instructions of an expression. -/
def codeSize : Regex → Nat
  | empty => 0
  | literal _ | oneOf _ | byteOf _ | assertion _ => 1
  | group _ r => r.codeSize
  | plus _ r => if r.codeSize = 0 then 0 else r.codeSize + 1
  | counted _ least most r => repetitionSize least most r.codeSize
  | concat parts => codeSizeAll parts
  | either choices => choicesSize choices

def codeSizeAll : List Regex → Nat
  | [] => 0
  | r :: parts => r.codeSize + codeSizeAll parts

/-- Every choice but the last has a fork in front of it and a jump behind it. -/
def choicesSize : List Regex → Nat
  | [] => 0
  | r :: more => r.codeSize + (if more.isEmpty then 0 else 2) + choicesSize more

end

/-! ## Code -/

/-- Instructions several times, one after the other. -/
def copies (count size : Nat) (inner : Nat → List Instruction) (start : Nat) : List Instruction :=
  (List.range count).flatMap fun k => inner (start + k * size)

/-- The instructions of a repetition from those of its operand, which has `size` of them. -/
def repetitionCode (greedy : Bool) (least : Nat) (most : Option Nat) (size : Nat)
    (inner : Nat → List Instruction) (start : Nat) : List Instruction :=
  if size = 0 then []
  else
    let behind := start + least * size
    match most with
    | none =>
      copies least size inner start ++
        .repeatFork greedy (behind + 1) (behind + size + 2) :: inner (behind + 1) ++
          [.jump behind]
    | some most =>
      let stop := behind + (most - least) * (size + 1)
      let optional := fun place => .repeatFork greedy (place + 1) stop :: inner (place + 1)
      copies least size inner start ++ copies (most - least) (size + 1) optional behind

mutual

/-- The instructions of an expression, when the first one stands at `start`. -/
def code : Regex → Nat → List Instruction
  | empty, _ => []
  | literal c, _ => [.take (.single c)]
  | oneOf set, _ => [.take set]
  | byteOf set, _ => [.takeByte set]
  | assertion condition, _ => [.check condition]
  | group _ r, start => r.code start
  | plus greedy r, start =>
    let size := r.codeSize
    if size = 0 then []
    else r.code start ++ [.repeatFork greedy start (start + size + 1)]
  | counted greedy least most r, start =>
    repetitionCode greedy least most r.codeSize r.code start
  | concat parts, start => codeAll parts start
  | either choices, start => choicesCode choices start (start + choicesSize choices)

/-- The instructions of expressions one after the other. -/
def codeAll : List Regex → Nat → List Instruction
  | [], _ => []
  | r :: parts, start => r.code start ++ codeAll parts (start + r.codeSize)

/-- The instructions of choices, all of which go on at `stop`. -/
def choicesCode : List Regex → Nat → Nat → List Instruction
  | [], _, _ => []
  | r :: more, start, stop =>
    if more.isEmpty then r.code start
    else
      let second := start + 1 + r.codeSize + 1
      .fork (start + 1) second :: r.code (start + 1) ++
        .jump stop :: choicesCode more second stop

end

/-! ## Programs -/

/-- A program: the instructions of an expression, and then `accept`. -/
structure Program where
  instructions : Array Instruction

namespace Program

def ofRegex (r : Regex) : Program := ⟨(r.code 0 ++ [Instruction.accept]).toArray⟩

/-- Whether the program asks for the bounds of words in every script. -/
def asksForWords (p : Program) : Bool :=
  p.instructions.any fun
    | .check .wordBoundary | .check .noWordBoundary => true
    | _ => false

end Program

end Peg.Regex
