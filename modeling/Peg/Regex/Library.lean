-- What patterns ask of a library of regular expressions: it compiles the text of an expression, and
-- what it has compiled finds matches in a text. Which library this is, is left open here.

namespace Peg.Regex

/-- An expression that has been compiled. -/
structure Finder where
  /-- Where the first match in a text ends, in bytes, if there is a match. -/
  findEnd? : List Char → Option Nat

/-- A library of regular expressions. -/
class Library where
  /-- The expression of a text, unless the library refuses it. -/
  compile? : List Char → Option Finder

/-- An expression in a group that captures nothing. -/
def grouped (source : List Char) : List Char := "(?:".toList ++ source ++ [')']

/-- The text that is compiled for a pattern: the expression in a group, behind the start of a
text. -/
def enclosed (source : List Char) : List Char := '^' :: grouped source

end Peg.Regex
