-- Reading the text of a regular expression.
import Peg.Regex.Bracket
import Peg.Regex.Footprint

namespace Peg.Regex

open Text

/-! ## Groups -/

/-- What an opening parenthesis starts: a group, or flags for the rest of the group around. -/
inductive Opening where
  | group (flags : Flags) (captures : Bool) (name : Option (List Char)) (rest : List Char)
  | directive (flags : Flags) (rest : List Char)

/-- Reads flags up to a colon or a closing parenthesis. `seen` holds the letters so far, in
reverse, with a hyphen where the flags that are cleared begin. -/
def readFlags (f : Flags) : List Char → List Char → Option Opening
  | _, [] => none
  | seen, c :: cs =>
    if c = ':' then
      if seen.head? = some '-' then none else some (.group f false none cs)
    else if c = ')' then
      if seen.head? = some '-' ∨ seen = [] then none else some (.directive f cs)
    else if seen.contains c then none
    else if c = '-' then readFlags f (c :: seen) cs
    else do
      let f ← f.set? (!seen.contains '-') c
      readFlags f (c :: seen) cs

def isNameStart (c : Char) : Bool := c.isAlpha || c == '_'

def isNamePart (c : Char) : Bool := isNameStart c || c.isDigit || ".[]".toList.contains c

/-- Reads a group's name up to its closing angle bracket. -/
def readGroupName (cs : List Char) : Option (List Char × List Char) :=
  match cs.takeWhile (· != '>'), cs.dropWhile (· != '>') with
  | c :: name, '>' :: rest =>
    if isNameStart c && name.all isNamePart then some (c :: name, rest) else none
  | _, _ => none

/-- Reads what follows an opening parenthesis. -/
def readOpening (f : Flags) (cs : List Char) : Option Opening :=
  match f.skip cs with
  | '?' :: 'P' :: '<' :: cs =>
    (readGroupName cs).map fun (name, rest) => .group f true (some name) rest
  | '?' :: cs => readFlags f [] cs
  | cs => some (.group f true none cs)

/-! ## Repetitions -/

/-- Reads the counts of a repetition, from behind its opening brace. -/
def readCounts (f : Flags) (cs : List Char) : Option (Nat × Option Nat × List Char) := do
  let (least, cs) ← readDecimal f (f.skip cs)
  match cs with
  | '}' :: rest => return (least, some least, rest)
  | ',' :: cs =>
    match f.skip cs with
    | '}' :: rest => return (least, none, rest)
    | cs =>
      let (most, cs) ← readDecimal f cs
      match cs with
      | '}' :: rest => if least ≤ most then return (least, some most, rest) else none
      | _ => none
  | _ => none

/-- Whether the repetition is greedy, and the text behind its question mark if it has one. -/
def readGreed (f : Flags) : List Char → Bool × List Char
  | '?' :: rest => (f.swapGreed, rest)
  | rest => (!f.swapGreed, rest)

/-! ## Expressions -/

/-- An expression, with how deep its parts are nested. -/
abbrev Nested := Regex × Nat

/-- A part of a sequence: an expression, or nothing in the place of flags. -/
abbrev Part := Option Nested

def Part.depth (part : Part) : Nat := (part.map Prod.snd).getD 0

/-- How deep a list is nested whose members are nested so deep. Two members and more are nested
in the list. -/
def nestingOf (depths : List Nat) : Nat :=
  (depths.foldl max 0) + (if depths.length < 2 then 0 else 1)

/-- The sequence of some parts, last one first. -/
def sequence (parts : List Part) : Nested :=
  (concatAll ((parts.filterMap id).map Prod.fst).reverse, nestingOf (parts.map Part.depth))

/-- The alternatives, last one first. -/
def alternatives (choices : List Nested) : Nested :=
  (eitherAll (choices.map Prod.fst).reverse, nestingOf (choices.map Prod.snd))

/-- The expression of an atom. -/
def Flags.atom? (f : Flags) : Atom → Option Regex
  | .literal c => f.literal? c
  | .set s => some (f.oneOf s)
  | .assertion condition => some (.assertion condition)

/-- Reads a single character, an escape or a class. -/
def readSingle (f : Flags) (c : Char) (rest : List Char) : Option (Nested × List Char) := do
  match c with
  | '\\' =>
    let (atom, rest) ← readEscape f rest
    return ((← f.atom? atom, 0), rest)
  | '[' =>
    let (s, depth, rest) ← readClass f rest
    return ((f.oneOf s, depth), rest)
  | '.' => return ((← f.dot?, 0), rest)
  | '^' => return ((.assertion (if f.multiLine then .lineStart else .textStart), 0), rest)
  | '$' => return ((.assertion (if f.multiLine then .lineEnd else .textEnd), 0), rest)
  | c => return ((← f.literal? c, 0), rest)

/-- Reads a repetition of `r` that starts with `c`, if `c` starts a repetition. -/
def readRepetition? (f : Flags) (r : Regex) (c : Char) (rest : List Char) :
    Option (Regex × List Char) :=
  let (greedy, behind) := readGreed f rest
  match c with
  | '?' => some (.counted greedy 0 (some 1) r, behind)
  | '*' => some (.counted greedy 0 none r, behind)
  | '+' => some (.plus greedy r, behind)
  | '{' => do
    let (least, most, rest) ← readCounts f rest
    let (greedy, rest) := readGreed f (f.skip rest)
    return (.counted greedy least most r, rest)
  | _ => none

/-- Reads choices up to a closing parenthesis or the end, and leaves that one in the text.
`choices` and `parts` hold what has been read, last one first, and `names` the names of
groups. A repetition takes the part before it, and flags are no part to repeat. There may be
groups inside each other for as many levels as `room` says. -/
def readChoices (room : Nat) : Nat → Flags → List (List Char) → List Nested → List Part →
    List Char → Option (Nested × List (List Char) × List Char)
  | 0, _, _, _, _, _ => none
  | fuel + 1, f, names, choices, parts, cs =>
    match f.skip cs with
    | [] => some (alternatives (sequence parts :: choices), names, [])
    | ')' :: rest => some (alternatives (sequence parts :: choices), names, ')' :: rest)
    | '|' :: rest => readChoices room fuel f names (sequence parts :: choices) [] rest
    | '(' :: rest => do
      match ← readOpening f rest with
      | .directive g rest => readChoices room fuel g names choices (none :: parts) rest
      | .group g captures name rest =>
        if room = 0 ∨ name.any names.contains then none
        let ((r, depth), names, rest) ←
          readChoices (room - 1) fuel g (name.toList ++ names) [] [] rest
        match rest with
        | ')' :: rest =>
          readChoices room fuel f names choices (some (.group captures r, depth + 1) :: parts) rest
        | _ => none
    | c :: rest =>
      if "?*+\x7b".toList.contains c then
        match parts with
        | some (r, depth) :: parts => do
          let (r, rest) ← readRepetition? f r c rest
          readChoices room fuel f names choices (some (r, depth + 1) :: parts) rest
        | _ => none
      else do
        let (part, rest) ← readSingle f c rest
        readChoices room fuel f names choices (some part :: parts) rest

/-- Reads a whole text as a regular expression. Its parts must not be nested too deep, and its
machines must not be too large. -/
def ofText? (text : List Char) : Option Regex := do
  let ((r, depth), _, rest) ← readChoices nestLimit (text.length + 1) {} [] [] [] text
  if rest.isEmpty ∧ depth ≤ nestLimit ∧ r.fits then return r else none

end Peg.Regex
