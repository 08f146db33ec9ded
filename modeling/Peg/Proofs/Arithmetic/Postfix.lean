-- What a calculator makes of numbers and operations in any order. It has a result for those that
-- spell a formula with the operands in front, and for no others.
import Peg.Arithmetic.Calculator

namespace Peg.Arithmetic

/-! ## Keys and formulas -/

/-- What can be done with a calculator. -/
inductive Key where
  | push (value : Float)
  | apply (op : Operation)

def Calculator.press (c : Calculator) : Key → Calculator
  | .push value => c.push value
  | .apply op => c.apply op

/-- The calculator after some keys, one after another. -/
def Calculator.after (c : Calculator) (keys : List Key) : Calculator := keys.foldl press c

/-- A formula as a tree. -/
inductive Formula where
  | number (value : Float)
  | operation (op : Operation) (left right : Formula)

namespace Formula

def value : Formula → Float
  | number v => v
  | operation op left right => op.apply left.value right.value

/-- The keys that spell a formula: the operands in written order, and behind them what is done
with them. -/
def keys : Formula → List Key
  | number v => [.push v]
  | operation op left right => left.keys ++ right.keys ++ [.apply op]

end Formula

/-! ## Too few values -/

section

variable {c : Calculator} {k : Key} {keys more : List Key} {fs gs : List Formula} {op : Operation}
  {e : CalculatorError}

end

end Peg.Arithmetic
