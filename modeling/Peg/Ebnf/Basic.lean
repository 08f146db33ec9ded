-- Grammars in EBNF: productions that give names to expressions.

namespace Peg.Ebnf

/-- The right-hand side of a production. -/
inductive Expr where
  | identifier (name : String)
  | terminal (text : String)
  /-- One character between the two, inclusive. -/
  | range (lo hi : Char)
  | optional (inner : Expr)
  | repetition (inner : Expr)
  | group (inner : Expr)
  /-- The first, unless the second matches in the same place. -/
  | exception (base except : Expr)
  | alternation (first second : Expr)
  | concatenation (first second : Expr)
deriving DecidableEq, Repr

structure Production where
  name : String
  body : Expr
deriving DecidableEq, Repr

/-- Productions in order. The first one is what the grammar is about. -/
structure Grammar where
  productions : List Production
deriving DecidableEq, Repr

end Peg.Ebnf
