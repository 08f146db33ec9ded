-- Grammars as text.
import Peg.Ebnf.Basic

namespace Peg.Ebnf

/-- A terminal in double quotes, or in single quotes if it holds a double one. A terminal
that holds both has no text of its own: what this gives reads as something else. -/
def quoteTerminal (text : List Char) : List Char :=
  if text.contains '"' then '\'' :: text ++ ['\''] else '"' :: text ++ ['"']

/-- An expression as text. Nothing is put in parentheses but groups. -/
def Expr.print : Expr → List Char
  | identifier name => name.toList
  | terminal text => quoteTerminal text.toList
  | range lo hi => quoteTerminal [lo] ++ " .. ".toList ++ quoteTerminal [hi]
  | optional e => "[ ".toList ++ e.print ++ " ]".toList
  | repetition e => ['{', ' '] ++ e.print ++ [' ', '}']
  | group e => "( ".toList ++ e.print ++ " )".toList
  | exception a b => a.print ++ " - ".toList ++ b.print
  | alternation a b => a.print ++ " | ".toList ++ b.print
  | concatenation a b => a.print ++ " , ".toList ++ b.print

def Production.print (p : Production) : List Char :=
  p.name.toList ++ " = ".toList ++ p.body.print ++ " ;".toList

/-- A grammar as text, with each production on a line. -/
def Grammar.print (g : Grammar) : List Char :=
  g.productions.flatMap fun p => p.print ++ ['\n']

end Peg.Ebnf
