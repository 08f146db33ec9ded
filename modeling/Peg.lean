import Peg.Arena.Render
import Peg.Arithmetic.Evaluate
import Peg.Ebnf.Printer
import Peg.Proofs.Course
import Peg.Proofs.Plans
import Peg.Proofs.Steps
import Peg.Proofs.Readings
import Peg.Proofs.Evaluation
import Peg.Proofs.Nesting
import Peg.Proofs.Answers
import Peg.Proofs.Captures
import Peg.Proofs.Safety
import Peg.Proofs.Replaying
import Peg.Proofs.Shifting
import Peg.Proofs.Semantics
import Peg.Proofs.Layout
import Peg.Proofs.Ebnf.Spelling
import Peg.Proofs.Ebnf.Skipping
import Peg.Proofs.Ebnf.Tokens
import Peg.Proofs.Ebnf.Expressions
import Peg.Proofs.Ebnf.Recognition
import Peg.Proofs.Ebnf.RoundTrip
import Peg.Proofs.Arithmetic.Meaning
import Peg.Proofs.Arithmetic.Rules
import Peg.Proofs.Arithmetic.Effects
import Peg.Proofs.Arithmetic.Answers
import Peg.Proofs.Arithmetic.Recognition
import Peg.Proofs.Arithmetic.Value
import Peg.Proofs.Extending
import Peg.Proofs.Growth
import Peg.Proofs.References
import Peg.Proofs.Restoring
import Peg.Proofs.Termination
import Peg.Proofs.Ebnf.Installing
import Peg.Proofs.Ebnf.Meaning
import Peg.Proofs.Ebnf.Attaching
import Peg.Proofs.Ebnf.Refusing
import Peg.Proofs.Arithmetic.FromText
import Peg.Proofs.Arithmetic.Agreement
import Peg.Proofs.Arithmetic.LeftRecursion
import Peg.Proofs.Regex.Language
import Peg.Proofs.Patterns
import Peg.Proofs.UnknownNames
import Peg.Proofs.Attaching
import Peg.Proofs.Enlarging
import Peg.Proofs.PostOrder
import Peg.Proofs.Mirroring
import Peg.Proofs.Ebnf.Spacing
import Peg.Proofs.Ebnf.OwnNames
import Peg.Proofs.Histories
import Peg.Proofs.FirstUse
import Peg.Proofs.Ebnf.BothQuotes
import Peg.Proofs.Ebnf.Appending
import Peg.Proofs.Agreement
import Peg.Proofs.Bracketing
import Peg.Proofs.Repetition
import Peg.Proofs.Arithmetic.Postfix
import Peg.Proofs.Bytewise
import Peg.Proofs.Tracing
import Peg.Proofs.WhiteSpace
