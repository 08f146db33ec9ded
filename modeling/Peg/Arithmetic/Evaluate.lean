-- The value of an expression.
import Peg.Arithmetic.Grammars
import Peg.Text.Blank

namespace Peg.Arithmetic

/-- Why an expression has no value. -/
inductive EvaluationError where
  /-- Matching did not come to an answer. -/
  | halted (h : Halt)
  | invalidExpression (expr : List Char)
  | calculator (e : CalculatorError)
deriving DecidableEq, Repr

/-- The text of an error, if it has one. -/
def EvaluationError.message? : EvaluationError → Option String
  | halted (.error e) => some e.message
  | halted (.fault f) => f.message?
  | halted .outOfFuel => none
  | invalidExpression expr => some ("invalid expression: " ++ Text.quoted expr)
  | calculator e => some e.message

/-- What comes of an evaluation. -/
structure Evaluation where
  result : Except EvaluationError Float
  log : List LogEntry

/-- The value of an expression by the grammar of a parser. White space around it does not
count, but an error shows the expression with it. -/
def evaluateWith (p : Parser Calculator) (expr : List Char) : Evaluation × Parser Calculator :=
  let (outcome, p) := p.parse (Text.trim expr) .empty
  let result :=
    match outcome.result with
    | .error h => .error (.halted h)
    | .ok false => .error (.invalidExpression expr)
    | .ok true => outcome.output.result.mapError .calculator
  (⟨result, outcome.log⟩, p)

/-- The value of an expression. -/
def evaluate (expr : List Char) : Except EvaluationError Float := (evaluateWith parser expr).1.result

end Peg.Arithmetic
