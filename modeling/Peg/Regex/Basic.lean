-- Regular expressions, after their text has been read: classes of characters are sets,
-- and flags are worked in.
import Peg.Text.CodeSet

namespace Peg

open Text

/-! ## The tree -/

namespace Regex

/-- A condition on the place between two characters. -/
inductive Assertion where
  | textStart
  | textEnd
  | lineStart
  | lineEnd
  | wordBoundary
  | noWordBoundary
  | asciiWordBoundary
deriving DecidableEq, Repr

end Regex

/-- A regular expression. A greedy repetition prefers more of its operand, a lazy one
prefers less. -/
inductive Regex where
  | empty
  | literal (c : Char)
  | oneOf (set : CodeSet)
  /-- One byte of the text, which need not be a character by itself. -/
  | byteOf (set : CodeSet)
  | assertion (condition : Regex.Assertion)
  /-- An expression in parentheses. What matches is kept if it `captures`. -/
  | group (captures : Bool) (inner : Regex)
  | plus (greedy : Bool) (inner : Regex)
  /-- At least `least` times, and at most `most` times where that is given. -/
  | counted (greedy : Bool) (least : Nat) (most : Option Nat) (inner : Regex)
  /-- The parts one after another. There are at least two. -/
  | concat (parts : List Regex)
  /-- The choices, first one preferred. There are at least two. -/
  | either (choices : List Regex)

namespace Regex

def isEmpty : Regex → Bool
  | empty => true
  | _ => false

/-- The parts one after another, without those that are empty. -/
def concatAll (parts : List Regex) : Regex :=
  match parts.filter (!·.isEmpty) with
  | [] => empty
  | [r] => r
  | parts => concat parts

/-- The choices of which the first is preferred. -/
def eitherAll : List Regex → Regex
  | [] => empty
  | [r] => r
  | choices => either choices

def Assertion.reverse : Assertion → Assertion
  | textStart => textEnd
  | textEnd => textStart
  | lineStart => lineEnd
  | lineEnd => lineStart
  | condition => condition

mutual

/-- The expression that reads texts from their ends to their starts. -/
def reverse : Regex → Regex
  | assertion condition => assertion condition.reverse
  | group captures r => group captures r.reverse
  | plus greedy r => plus greedy r.reverse
  | counted greedy least most r => counted greedy least most r.reverse
  | concat parts => concat (reverseAll parts).reverse
  | either choices => either (reverseAll choices)
  | r => r

/-- Each expression reversed, in the order of the list. -/
def reverseAll : List Regex → List Regex
  | [] => []
  | r :: more => r.reverse :: reverseAll more

end

end Regex

end Peg
