-- Grammars as rules: every production becomes the rule of its name.
import Peg.Ebnf.Reader
import Peg.Arena.Build

namespace Peg.Ebnf

variable {σ : Type}

/-! ## Errors -/

/-- Why a grammar cannot be used. -/
inductive Error where
  | unreadable (e : ReadError)
  /-- There is no production to start with. -/
  | emptyGrammar
  | uninstallable (e : GrammarError)
deriving DecidableEq, Repr

def Error.message : Error → String
  | unreadable e => e.message
  | emptyGrammar => "grammar has no productions"
  | uninstallable e => "failed to install grammar: " ++ e.message

/-! ## Building -/

/-- What may stand between the parts of a concatenation. -/
inductive Spacing where
  /-- Nothing. -/
  | adjacent
  /-- White space. -/
  | spaced
deriving DecidableEq, Repr

/-- The rule of two parts. -/
def Spacing.rule : Spacing → RuleId → RuleId → Rule σ
  | adjacent => .sequence
  | spaced => .spaced

/-- Adds the rules of an expression. Identifiers become references by name. Of an exception,
what is taken out is tried first. -/
def Expr.build (spacing : Spacing) : Expr → Build σ RuleId
  | identifier name => Build.reference name
  | terminal text => Build.literal text
  | range lo hi => Build.range lo hi
  | optional e => do
    let a ← e.build spacing
    Build.push (.optional a)
  | repetition e => do
    let a ← e.build spacing
    Build.push (.zeroOrMore a)
  | group e => e.build spacing
  | exception base except => do
    let b ← except.build spacing
    let guard ← Build.push (.not b)
    let a ← base.build spacing
    Build.push (.sequence guard a)
  | alternation first second => do
    let a ← first.build spacing
    let b ← second.build spacing
    Build.push (.choice a b)
  | concatenation first second => do
    let a ← first.build spacing
    let b ← second.build spacing
    Build.push (spacing.rule a b)

/-- Adds the rules of a production and gives its name to them. A name that is given again
gives a warning. -/
def Production.install (spacing : Spacing) (p : Production) : Build σ Unit := do
  let rule ← p.body.build spacing
  let earlier ← Build.register p.name rule
  if earlier.isSome then
    modify (·.warn (.redefined p.name))

/-- Adds the productions of a grammar, and a reference to the first one, which is the
answer. Every name that the arena refers to has to stand for a rule then. -/
def Grammar.install (spacing : Spacing) (g : Grammar) : ExceptT Error (Build σ) RuleId := do
  match g.productions with
  | [] => throw .emptyGrammar
  | first :: _ =>
    g.productions.forM fun p => (p.install spacing : Build σ Unit)
    match (← get).validate with
    | .error e => throw (.uninstallable e)
    | .ok () => (Build.reference first.name : Build σ RuleId)

end Peg.Ebnf
