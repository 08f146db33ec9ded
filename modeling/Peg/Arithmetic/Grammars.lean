-- Three grammars for arithmetic on a calculator. Actions run in the order in which their
-- rules complete, which is the order of postfix notation.
import Peg.Arithmetic.Calculator
import Peg.Ebnf.Install
import Peg.Parser

namespace Peg.Arithmetic

/-! ## Actions -/

/-- Pushes the number that has been matched. -/
def pushNumber : Action Calculator := fun c r => c.pushText r.text

def applyOperation (operation : Operation) : Action Calculator := fun c _ => c.apply operation

/-! ## With repetition -/

/-- The rules for one operation: its symbol, and white space, and the right operand. -/
def operationTail (operand : String) (symbol : String) (operation : Operation) :
    Build Calculator RuleId := do
  let right ← Build.reference operand
  let tail ← Build.spaced symbol right
  Build.action tail (applyOperation operation)

/-- An operand, and then any number of operations with white space before each. -/
def leftAssociative (operand : String) (first second : String × Operation) :
    Build Calculator RuleId := do
  let a ← operationTail operand first.1 first.2
  let b ← operationTail operand second.1 second.2
  let tail ← Build.chain .choice a [b]
  let space ← Build.whitespace
  let tail ← Build.sequence space tail
  let tails ← Build.zeroOrMore tail
  let left ← Build.reference operand
  Build.spaced left tails

/-- Arithmetic with the usual precedence, in which no rule refers to itself without an
opening parenthesis before. White space may stand between tokens. -/
def define : Build Calculator RuleId := do
  let digit ← Build.range '0' '9'
  let digits ← Build.oneOrMore digit
  let fraction ← Build.sequence "." digits
  let fraction ← Build.optional fraction
  let number ← Build.sequence digits fraction
  let number ← Build.action number pushNumber
  let opening ← Build.literal "("
  let primary ← Build.reference "primary"
  let closing ← Build.literal ")"
  let group ← Build.chain .spaced opening [primary, closing]
  let tertiary ← Build.choice group number
  modify (·.register "tertiary" tertiary)
  let secondary ← leftAssociative "tertiary" ("*", .mul) ("/", .div)
  modify (·.register "secondary" secondary)
  let primary ← leftAssociative "secondary" ("+", .add) ("-", .sub)
  modify (·.register "primary" primary)
  let root ← Build.reference "primary"
  Build.endOfInput root

def parser : Parser Calculator := .ofDefinition define

/-! ## With left recursion -/

/-- The rules for one operation, both operands included. -/
def recursiveOperation (left symbol right : String) (operation : Operation) :
    Build Calculator RuleId := do
  let left ← Build.reference left
  let symbol ← Build.literal symbol
  let right ← Build.reference right
  let rule ← Build.chain .sequence left [symbol, right]
  Build.action rule (applyOperation operation)

/-- Arithmetic in which terms begin with terms. The inner term is refused each time, so that
only a number matches, with parentheses around it or without. -/
def defineLeftRecursive : Build Calculator RuleId := do
  let digit ← Build.range '0' '9'
  let number ← Build.oneOrMore digit
  let number ← Build.action number pushNumber
  let sum ← recursiveOperation "term" "+" "fact" .add
  let difference ← recursiveOperation "term" "-" "fact" .sub
  let fact ← Build.reference "fact"
  let term ← Build.chain .choice sum [difference, fact]
  modify (·.register "term" term)
  let product ← recursiveOperation "fact" "*" "term" .mul
  let quotient ← recursiveOperation "fact" "/" "term" .div
  let opening ← Build.literal "("
  let inner ← Build.reference "term"
  let closing ← Build.literal ")"
  let group ← Build.chain .sequence opening [inner, closing]
  let fact ← Build.chain .choice product [quotient, group, number]
  modify (·.register "fact" fact)
  let root ← Build.reference "term"
  Build.endOfInput root

def leftRecursiveParser : Parser Calculator := .ofDefinition defineLeftRecursive

/-! ## From text -/

/-- Arithmetic in EBNF. The tokens have to stand next to each other. -/
def grammarText : String :=
  "(* Arithmetic over non-negative decimal numbers. *)\n" ++
  "expr = sum ;\n" ++
  "\n" ++
  "sum = product , \x7b add | sub \x7d ;\n" ++
  "add = \"+\" , product ;\n" ++
  "sub = \"-\" , product ;\n" ++
  "\n" ++
  "product = factor , \x7b mul | div \x7d ;\n" ++
  "mul = \"*\" , factor ;\n" ++
  "div = \"/\" , factor ;\n" ++
  "\n" ++
  "factor = \"(\" , sum , \")\" | number ;\n" ++
  "number = digit , \x7b digit \x7d , [ \".\" , digit , \x7b digit \x7d ] ;\n" ++
  "digit = \"0\" .. \"9\" ;\n"

/-- The productions with an action, in the order in which the actions are attached. -/
def attachments : List (String × Action Calculator) :=
  [("number", pushNumber), ("add", applyOperation .add), ("sub", applyOperation .sub),
    ("mul", applyOperation .mul), ("div", applyOperation .div)]

/-- Installs the grammar that a text spells and attaches the actions by name. -/
def defineFromText (text : List Char) : ExceptT Ebnf.Error (Build Calculator) RuleId := do
  match Ebnf.Grammar.parse text with
  | .error e => throw (.unreadable e)
  | .ok grammar =>
    let start ← grammar.install .adjacent
    for (name, run) in attachments do
      match ← ((Build.attach name run).run : Build Calculator (Except GrammarError RuleId)) with
      | .error e => throw (.uninstallable e)
      | .ok _ => pure ()
    (Build.endOfInput start : Build Calculator RuleId)

/-- The parser of the grammar that a text spells. Its rules are built at once. -/
def parserOfText (text : List Char) : Except Ebnf.Error (Parser Calculator) :=
  match Parser.empty.build (defineFromText text).run with
  | (.error e, _) => .error e
  | (.ok root, p) => .ok (p.setRoot root)

/-- The parser of arithmetic in EBNF. -/
def textParser : Except Ebnf.Error (Parser Calculator) := parserOfText grammarText.toList

end Peg.Arithmetic
