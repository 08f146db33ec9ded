-- The small parts of EBNF text: the layout between tokens, terminals, names and ranges.
-- A reader gives what it has read with the rest of the text, or nothing.

namespace Peg.Ebnf

/-! ## Layout -/

def isLayoutBlank (c : Char) : Bool := c = ' ' || c = '\t' || c = '\r' || c = '\n'

/-- The number of characters up to the end of a comment, from within it. -/
def commentEnd? : List Char → Option Nat
  | [] => none
  | '*' :: ')' :: _ => some 2
  | _ :: cs => (commentEnd? cs).map (· + 1)

/-- The number of characters of a comment behind its opening parenthesis `c`, if there is a
comment and it is closed. -/
def commentRest? (c : Char) (cs : List Char) : Option Nat :=
  match c, cs with
  | '(', '*' :: cs => (commentEnd? cs).map (· + 1)
  | _, _ => none

/-- The text behind `n` characters and the layout that follows them. Layout is blanks, line
ends and closed comments. -/
def skipThenLayout : Nat → List Char → List Char
  | _, [] => []
  | n + 1, _ :: cs => skipThenLayout n cs
  | 0, c :: cs =>
    if isLayoutBlank c then skipThenLayout 0 cs
    else
      match commentRest? c cs with
      | some n => skipThenLayout n cs
      | none => c :: cs

/-- The text without the layout that it starts with. -/
def skipLayout (cs : List Char) : List Char := skipThenLayout 0 cs

/-! ## Tokens -/

/-- The text up to a quote, and the text behind the quote. -/
def readQuoted (quote : Char) : List Char → Option (List Char × List Char)
  | [] => none
  | c :: cs =>
    if c = quote then some ([], cs)
    else (readQuoted quote cs).map fun (text, rest) => (c :: text, rest)

/-- Reads a terminal in quotes of either kind. Nothing is escaped in it. -/
def readTerminal : List Char → Option (List Char × List Char)
  | '"' :: cs => readQuoted '"' cs
  | '\'' :: cs => readQuoted '\'' cs
  | _ => none

/-- Reads a terminal of one character. -/
def readCharTerminal (cs : List Char) : Option (Char × List Char) :=
  match readTerminal cs with
  | some ([c], rest) => some (c, rest)
  | _ => none

/-- Letters and the underscore start a name. The letters are those of ASCII. -/
def isNameStart (c : Char) : Bool := c.isAlpha || c = '_'

def isNamePart (c : Char) : Bool := c.isAlphanum || c = '_'

/-- Reads a name. -/
def readName : List Char → Option (String × List Char)
  | [] => none
  | c :: cs =>
    if isNameStart c then
      some (String.ofList (c :: cs.takeWhile isNamePart), cs.dropWhile isNamePart)
    else none

/-- Reads two terminals of one character with two dots between them. -/
def readRange (cs : List Char) : Option ((Char × Char) × List Char) := do
  let (lo, cs) ← readCharTerminal cs
  match skipLayout cs with
  | '.' :: '.' :: cs =>
    let (hi, rest) ← readCharTerminal (skipLayout cs)
    return ((lo, hi), rest)
  | _ => none

end Peg.Ebnf
