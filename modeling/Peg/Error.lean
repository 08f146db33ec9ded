-- What can go wrong: a grammar can be broken, a call can break the conditions it is made
-- under, and a match can stop before it has an answer.

namespace Peg

/-- What is wrong with a grammar. Text that does not match is no error. -/
inductive GrammarError where
  /-- A reference to a rule that was never registered. -/
  | unknownRule (name : String)
  /-- There is no rule to begin with, and no definition to build one. -/
  | missingRoot
deriving DecidableEq, Repr

def GrammarError.message : GrammarError → String
  | unknownRule name => "no rule named '" ++ name ++ "'"
  | missingRoot => "no root rule defined"

/-- What is wrong with a call. -/
inductive Fault where
  /-- A position past the end of the text, or inside a character. -/
  | seekOutOfRange (position length : Nat)
  /-- A region that would end before it starts. -/
  | spanOutOfOrder (start stop : Nat)
  /-- A list of rules to combine that has none. -/
  | emptyCombination
  /-- A region at which the text cannot be cut. -/
  | unsliceable
  /-- A rule that is not in the arena. -/
  | noSuchRule
  /-- A rule that is left without having been entered. -/
  | notEntered
deriving DecidableEq, Repr

/-- The text of a fault. The last three have none. -/
def Fault.message? : Fault → Option String
  | seekOutOfRange position length =>
    some ("seek out of range, pos: " ++ toString position ++ ", len: " ++ toString length)
  | spanOutOfOrder start stop =>
    some ("start: " ++ toString start ++ ", end: " ++ toString stop)
  | emptyCombination => some "cannot combine an empty list of rules"
  | unsliceable => none
  | noSuchRule => none
  | notEntered => none

/-- Why a match has no answer. -/
inductive Halt where
  | error (e : GrammarError)
  | fault (f : Fault)
  /-- The rules call each other without end. -/
  | outOfFuel
deriving DecidableEq, Repr

end Peg
