-- The rules: parsing expressions whose parts are other rules of the same arena.
import Peg.Capture
import Peg.Regex.Library
import Peg.Text.Quoted

namespace Peg

open Text

/-- One parsing expression. -/
inductive Rule (σ : Type) where
  /-- The text, character by character. -/
  | literal (text : String)
  /-- One character between the two, inclusive. -/
  | range (lo hi : Char)
  /-- A regular expression on the text that is left. An expression that could not be compiled
  has no finder and never matches. -/
  | pattern (source : String) (finder : Option Regex.Finder)
  /-- Matches where the operand does not, and moves on by nothing. -/
  | not (inner : RuleId)
  /-- The operand, and then the end of the text. -/
  | endOfInput (inner : RuleId)
  /-- One after the other. Where the second fails, the first is not taken back. -/
  | sequence (first second : RuleId)
  /-- One after the other, with white space between them. -/
  | spaced (first second : RuleId)
  /-- The first of the two that matches. -/
  | choice (first second : RuleId)
  | zeroOrMore (inner : RuleId)
  | oneOrMore (inner : RuleId)
  | optional (inner : RuleId)
  /-- The rule that the name stands for when matching comes here. -/
  | reference (name : String)
  /-- The operand, with a capture of what it has matched. -/
  | action (inner : RuleId) (run : Action σ)

namespace Rule

variable {σ : Type}

/-- The rules that a rule refers to directly, other than by name. -/
def children : Rule σ → List RuleId
  | literal _ | range _ _ | pattern _ _ | reference _ => []
  | not a | endOfInput a | zeroOrMore a | oneOrMore a | optional a | action a _ => [a]
  | sequence a b | spaced a b | choice a b => [a, b]

/-- A few words on a rule by itself, for the log. -/
def label : Rule σ → String
  | literal text => "literal " ++ quoted text.toList
  | range lo hi => "range [" ++ String.ofList [lo] ++ "-" ++ String.ofList [hi] ++ "]"
  | pattern source _ => "pattern /" ++ source ++ "/"
  | not _ => "!"
  | endOfInput _ => "eof"
  | sequence _ _ => "~"
  | spaced _ _ => "~~"
  | choice _ _ => "|"
  | zeroOrMore _ => "zero or more"
  | oneOrMore _ => "one or more"
  | optional _ => "optionally"
  | reference name => "named rule " ++ name
  | action _ _ => "=>"

end Rule

end Peg
