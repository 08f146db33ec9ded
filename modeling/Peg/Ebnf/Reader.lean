-- Reading grammars from text. An alternation is made of concatenations, these of
-- exceptions, and these of factors; alternations and concatenations nest to the right. What
-- cannot be continued is not an error by itself: the reader stops before it, and whoever
-- reads on finds something else than it needs.
import Peg.Ebnf.Basic
import Peg.Ebnf.Lexical
import Peg.Text.Quoted

namespace Peg.Ebnf

/-! ## Errors -/

/-- What is missing: the start of an item, a certain character, or the end of the text. -/
inductive Expected where
  | item
  | character
  | endOfText
deriving DecidableEq, Repr

/-- Where reading has failed, and at which text. -/
structure ReadError where
  expected : Expected
  rest : List Char
deriving DecidableEq, Repr

def Expected.word : Expected → String
  | item => "Tag"
  | character => "Char"
  | endOfText => "Eof"

/-- Shows the first twenty characters of the text at which reading has failed. -/
def ReadError.message (e : ReadError) : String :=
  "failed to parse: " ++ e.expected.word ++ " near " ++ Text.quoted (e.rest.take 20)

/-- Reads something from the start of a text, and gives it with the rest of the text. -/
abbrev Read (α : Type) := List Char → Except ReadError (α × List Char)

/-! ## Expressions -/

/-- Reads a bracket pair with something inside. -/
def readBracketed (opening closing : Char) (inner : Read Expr) :
    List Char → Option (Expr × List Char)
  | [] => none
  | c :: cs =>
    if c = opening then
      match inner cs with
      | .ok (e, d :: rest) => if d = closing then some (e, rest) else none
      | _ => none
    else none

/-- Reads a factor without the layout around it: the first form that fits. -/
def readAtom (inner : Read Expr) (cs : List Char) : Option (Expr × List Char) :=
  ((readBracketed '(' ')' inner cs).map fun (e, rest) => (.group e, rest))
  <|> ((readBracketed '{' '}' inner cs).map fun (e, rest) => (.repetition e, rest))
  <|> ((readBracketed '[' ']' inner cs).map fun (e, rest) => (.optional e, rest))
  <|> ((readRange cs).map fun ((lo, hi), rest) => (.range lo hi, rest))
  <|> ((readTerminal cs).map fun (text, rest) => (.terminal (String.ofList text), rest))
  <|> ((readName cs).map fun (name, rest) => (.identifier name, rest))

/-- Reads a factor with the layout around it. -/
def readFactor (inner : Read Expr) : Read Expr := fun cs =>
  match readAtom inner (skipLayout cs) with
  | some (e, rest) => .ok (e, skipLayout rest)
  | none => .error ⟨.item, skipLayout cs⟩

/-- Reads a factor, and one that is taken out of it if a hyphen follows. -/
def readException (inner : Read Expr) : Read Expr := fun cs => do
  let (base, rest) ← readFactor inner cs
  match rest with
  | '-' :: more =>
    match readFactor inner more with
    | .ok (except, rest) => return (.exception base except, rest)
    | .error _ => return (base, rest)
  | _ => return (base, rest)

/-- Reads items with `separator` between them, and joins them from the right. `fuel` is at
least the number of items. -/
def readJoined (separator : Char) (join : Expr → Expr → Expr) (item : Read Expr) :
    Nat → Read Expr
  | 0, cs => .error ⟨.item, cs⟩
  | fuel + 1, cs => do
    let (first, rest) ← item cs
    match rest with
    | [] => return (first, rest)
    | c :: more =>
      if c = separator then
        match readJoined separator join item fuel more with
        | .ok (others, rest) => return (join first others, rest)
        | .error _ => return (first, rest)
      else return (first, rest)

def readConcatenation (inner : Read Expr) : Read Expr := fun cs =>
  readJoined ',' .concatenation (readException inner) (cs.length + 1) cs

def readAlternation (inner : Read Expr) : Read Expr := fun cs =>
  readJoined '|' .alternation (readConcatenation inner) (cs.length + 1) cs

/-- Reads an expression in which brackets are nested less than `fuel` deep. -/
def readNested : Nat → Read Expr
  | 0, cs => .error ⟨.item, cs⟩
  | fuel + 1, cs => readAlternation (readNested fuel) cs

/-- Reads an expression. -/
def readExpr : Read Expr := fun cs => readNested (cs.length + 1) cs

/-! ## Productions and grammars -/

/-- Reads one certain character. -/
def readMark (mark : Char) : List Char → Except ReadError (List Char)
  | [] => .error ⟨.character, []⟩
  | c :: cs => if c = mark then .ok cs else .error ⟨.character, c :: cs⟩

/-- Reads a production with the layout around it. -/
def readProduction : Read Production := fun cs => do
  let cs := skipLayout cs
  match readName cs with
  | none => .error ⟨.item, cs⟩
  | some (name, rest) =>
    let rest ← readMark '=' (skipLayout rest)
    let (body, rest) ← readExpr rest
    let rest ← readMark ';' rest
    return (⟨name, body⟩, skipLayout rest)

/-- Reads productions as long as there are any, and at most `fuel` of them. -/
def readProductions : Nat → List Char → List Production × List Char
  | 0, cs => ([], cs)
  | fuel + 1, cs =>
    match readProduction cs with
    | .error _ => ([], cs)
    | .ok (p, rest) =>
      let (more, rest) := readProductions fuel rest
      (p :: more, rest)

def readGrammar : Read Grammar := fun cs =>
  let (productions, rest) := readProductions cs.length cs
  .ok (⟨productions⟩, rest)

/-! ## Whole texts -/

/-- Reads a whole text. Layout may follow what is read, and nothing else. -/
def readWhole {α : Type} (read : Read α) (cs : List Char) : Except ReadError α := do
  let (x, rest) ← read cs
  match skipLayout rest with
  | [] => return x
  | rest => .error ⟨.endOfText, rest⟩

def Expr.parse : List Char → Except ReadError Expr := readWhole readExpr

def Production.parse : List Char → Except ReadError Production := readWhole readProduction

def Grammar.parse : List Char → Except ReadError Grammar := readWhole readGrammar

end Peg.Ebnf
