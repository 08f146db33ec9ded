-- A calculator with a stack: numbers are pushed, and an operation takes the two on top.
import Peg.Arithmetic.Decimal
import Peg.Text.Quoted

namespace Peg.Arithmetic

/-! ## Operations -/

inductive Operation where
  | add
  | sub
  | mul
  | div
deriving DecidableEq, Repr

def Operation.apply (a b : Float) : Operation → Float
  | add => a + b
  | sub => a - b
  | mul => a * b
  | div => a / b

def Operation.name : Operation → String
  | add => "Add"
  | sub => "Sub"
  | mul => "Mul"
  | div => "Div"

/-! ## The calculator -/

/-- Why a calculation has no result. -/
inductive CalculatorError where
  | missingOperand (operation : Operation)
  | badNumber (text : List Char) (e : NumberError)
  /-- The stack holds another number of values than one. -/
  | notOneValue (count : Nat)
deriving DecidableEq, Repr

def CalculatorError.message : CalculatorError → String
  | missingOperand operation => "missing operand for " ++ operation.name
  | badNumber text e => "bad number " ++ Text.quoted text ++ ": " ++ e.message
  | notOneValue count => "expected one value on the stack, found " ++ toString count

/-- The values so far, top first, and the first error. -/
structure Calculator where
  stack : List Float
  error : Option CalculatorError

namespace Calculator

def empty : Calculator := ⟨[], none⟩

/-- Notes an error, unless there is one before it. -/
def fail (c : Calculator) (e : CalculatorError) : Calculator :=
  { c with error := c.error <|> some e }

def push (c : Calculator) (value : Float) : Calculator := { c with stack := value :: c.stack }

/-- Replaces the two values on top by what the operation makes of them; the one that was
pushed first stands on the left. Too few values are taken off all the same. -/
def apply (c : Calculator) (operation : Operation) : Calculator :=
  match c.stack with
  | b :: a :: rest => { c with stack := operation.apply a b :: rest }
  | _ => { c with stack := [] }.fail (.missingOperand operation)

/-- Pushes the number that a text stands for. -/
def pushText (c : Calculator) (text : List Char) : Calculator :=
  match parseFloat text with
  | .ok value => c.push value
  | .error e => c.fail (.badNumber text e)

/-- The one value that is left. The first error goes before everything else. -/
def result (c : Calculator) : Except CalculatorError Float :=
  match c.error with
  | some e => .error e
  | none =>
    match c.stack with
    | [value] => .ok value
    | stack => .error (.notOneValue stack.length)

end Calculator

end Peg.Arithmetic
