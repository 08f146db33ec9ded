-- Building rules. Every builder adds its rule at the end of the arena and answers its
-- index. Operands that are texts become literals first, from left to right.
import Peg.Arena.Basic

namespace Peg

variable {σ : Type}

/-- Steps that add to an arena. -/
abbrev Build (σ : Type) := StateM (Arena σ)

/-- What a builder combines: a rule, or a text that stands for its literal. -/
inductive Operand where
  | rule (id : RuleId)
  | text (text : String)

instance : Coe RuleId Operand := ⟨.rule⟩

instance : Coe String Operand := ⟨.text⟩

namespace Build

/-! ## Single rules -/

/-- Adds a rule at the end of the arena. -/
def push (rule : Rule σ) : Build σ RuleId :=
  modifyGet fun g => (⟨g.size⟩, { g with rules := g.rules.push rule })

def literal (text : String) : Build σ RuleId := push (.literal text)

def range (lo hi : Char) : Build σ RuleId := push (.range lo hi)

/-- A regular expression that is to match at the place where the rule is tried. One that the
library refuses gives a warning. -/
def pattern [Regex.Library] (source : String) : Build σ RuleId := do
  let finder := Regex.Library.compile? (Regex.enclosed source.toList)
  if finder.isNone then
    modify (·.warn (.neverMatches source))
  push (.pattern source finder)

/-- A reference by name. The name may come to stand for a rule later. -/
def reference (name : String) : Build σ RuleId := push (.reference name)

/-! ## Rules with operands -/

/-- The rule of an operand. -/
def operand : Operand → Build σ RuleId
  | .rule id => pure id
  | .text text => literal text

/-- Adds the rule that `form` makes of one operand. -/
def unary (form : RuleId → Rule σ) (a : Operand) : Build σ RuleId := do
  let a ← operand a
  push (form a)

/-- Adds the rule that `form` makes of two operands. -/
def binary (form : RuleId → RuleId → Rule σ) (a b : Operand) : Build σ RuleId := do
  let a ← operand a
  let b ← operand b
  push (form a b)

protected def not (a : Operand) : Build σ RuleId := unary .not a

def endOfInput (a : Operand) : Build σ RuleId := unary .endOfInput a

def zeroOrMore (a : Operand) : Build σ RuleId := unary .zeroOrMore a

def oneOrMore (a : Operand) : Build σ RuleId := unary .oneOrMore a

def optional (a : Operand) : Build σ RuleId := unary .optional a

def action (a : Operand) (run : Action σ) : Build σ RuleId := unary (.action · run) a

def sequence (a b : Operand) : Build σ RuleId := binary .sequence a b

def spaced (a b : Operand) : Build σ RuleId := binary .spaced a b

def choice (a b : Operand) : Build σ RuleId := binary .choice a b

/-- One match, then white space, then more matches next to each other. -/
def oneOrMoreSpaced (a : Operand) : Build σ RuleId := do
  let a ← operand a
  let more ← zeroOrMore a
  spaced a more

/-! ## Lists of rules -/

/-- Combines rules two by two from the right: `a`, `b` and `c` become `form a (form b c)`,
with the inner rule added first. -/
def chain (form : RuleId → RuleId → Rule σ) : RuleId → List RuleId → Build σ RuleId
  | first, [] => pure first
  | first, second :: more => do
    let tail ← chain form second more
    push (form first tail)

/-- Combines a list of rules, which must not be empty. -/
def chainAll (form : RuleId → RuleId → Rule σ) :
    List RuleId → ExceptT Fault (Build σ) RuleId
  | [] => throw .emptyCombination
  | first :: more => chain form first more

def sequenceOf : List RuleId → ExceptT Fault (Build σ) RuleId := chainAll .sequence

def spacedOf : List RuleId → ExceptT Fault (Build σ) RuleId := chainAll .spaced

def choiceOf : List RuleId → ExceptT Fault (Build σ) RuleId := chainAll .choice

/-! ## Names and white space -/

/-- Lets a name stand for a rule, and answers the rule that it stood for before. -/
def register (name : String) (id : RuleId) : Build σ (Option RuleId) :=
  modifyGet fun g => (g.named? name, g.register name id)

/-- Puts an action around the rule of a name. From then on the name stands for the action,
wherever it is referred to. -/
def attach (name : String) (run : Action σ) : ExceptT GrammarError (Build σ) RuleId := do
  match (← get).named? name with
  | none => throw (.unknownRule name)
  | some id =>
    let id ← action id run
    modify (·.register name id)
    return id

/-- The rule for white space. -/
def whitespace : Build σ RuleId := return (← get).whitespace

def setWhitespace (id : RuleId) : Build σ Unit := modify ({ · with whitespace := id })

/-- Any number of spaces, tabs and line ends. -/
def defaultWhitespace : Build σ RuleId := do
  let space ← literal " "
  let tab ← literal "\t"
  let crlf ← literal "\r\n"
  let cr ← literal "\r"
  let lf ← literal "\n"
  let any ← chain .choice space [tab, crlf, cr, lf]
  zeroOrMore any

end Build

/-! ## New arenas -/

/-- A new arena. It holds the rules of the default white space. -/
def Arena.fresh : Arena σ :=
  let (space, g) := Build.defaultWhitespace.run ⟨#[], [], ⟨0⟩, []⟩
  { g with whitespace := space }

end Peg
