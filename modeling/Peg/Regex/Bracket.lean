-- Classes of characters in brackets: single characters, ranges, classes inside classes,
-- and the set operations on them.
import Peg.Regex.Escape

namespace Peg.Regex

open Text

/-! ## Items -/

/-- The named classes. All of them are ASCII. -/
def asciiClass? : String → Option CodeSet
  | "alnum" => some ⟨[(0x30, 0x39), (0x41, 0x5a), (0x61, 0x7a)]⟩
  | "alpha" => some ⟨[(0x41, 0x5a), (0x61, 0x7a)]⟩
  | "ascii" => some ascii
  | "blank" => some ⟨[(0x9, 0x9), (0x20, 0x20)]⟩
  | "cntrl" => some ⟨[(0, 0x1f), (0x7f, 0x7f)]⟩
  | "digit" => some asciiDigits
  | "graph" => some ⟨[(0x21, 0x7e)]⟩
  | "lower" => some ⟨[(0x61, 0x7a)]⟩
  | "print" => some ⟨[(0x20, 0x7e)]⟩
  | "punct" => some ⟨[(0x21, 0x2f), (0x3a, 0x40), (0x5b, 0x60), (0x7b, 0x7e)]⟩
  | "space" => some asciiBlanks
  | "upper" => some ⟨[(0x41, 0x5a)]⟩
  | "word" => some asciiWord
  | "xdigit" => some ⟨[(0x30, 0x39), (0x41, 0x46), (0x61, 0x66)]⟩
  | _ => none

/-- Reads a named class such as `[:alpha:]`, from behind its opening bracket, and whether it is
negated. -/
def readNamedClass : List Char → Option (Bool × CodeSet × List Char)
  | ':' :: cs =>
    let negated := cs.head? == some '^'
    let cs := if negated then cs.tail else cs
    match cs.dropWhile (· != ':') with
    | ':' :: ']' :: rest =>
      (asciiClass? (String.ofList (cs.takeWhile (· != ':')))).map fun s => (negated, s, rest)
    | _ => none
  | _ => none

/-- Reads one character of a class, or an escape. -/
def readClassAtom (f : Flags) : List Char → Option (Atom × List Char)
  | [] => none
  | '\\' :: cs => readEscape f cs
  | c :: cs => some (.literal c, cs)

/-- The next character that counts under the flags. Of a comment only the mark is skipped. -/
def Flags.peek (f : Flags) (cs : List Char) : Option Char :=
  if f.verbose then
    match cs.dropWhile isBlank with
    | '#' :: more => (more.dropWhile isBlank).head? <|> cs.head?
    | more => more.head? <|> cs.head?
  else cs.head?

/-- The set of an item that is not part of a range. -/
def Flags.item? (f : Flags) : Atom → Option CodeSet
  | .literal c => f.accept? (.single c)
  | .set s => some s
  | .assertion _ => none

/-- Reads an item of a class: a range, or what stands alone. A hyphen that a hyphen or the
end of the class follows makes no range. -/
def readClassItem (f : Flags) (cs : List Char) : Option (CodeSet × List Char) := do
  let (first, cs) ← readClassAtom f cs
  match f.skip cs with
  | [] => none
  | '-' :: more =>
    if f.peek more = some ']' ∨ f.peek more = some '-' then
      let s ← f.item? first
      return (s, '-' :: more)
    let (second, rest) ← readClassAtom f (f.skip more)
    match first, second with
    | .literal lo, .literal hi =>
      if lo ≤ hi then
        let s ← f.accept? ⟨[(lo.toNat, hi.toNat)]⟩
        return (s, rest)
      else none
    | _, _ => none
  | rest =>
    let s ← f.item? first
    return (s, rest)

/-! ## Nesting -/

/-- How deep the parts of an expression may be nested in each other. -/
def nestLimit : Nat := 250

/-- What stands between two operators of a class, or between an operator and a bracket. -/
structure ClassPart where
  set : CodeSet
  /-- The number of items that the set was written as. -/
  items : Nat
  /-- How deep the items are nested. -/
  depth : Nat

namespace ClassPart

def empty : ClassPart := ⟨.empty, 0, 0⟩

/-- Adds an item behind the others. -/
def add (p : ClassPart) (s : CodeSet) (depth : Nat) : ClassPart :=
  ⟨p.set.union s, p.items + 1, max p.depth depth⟩

/-- How deep a part is nested: two items and more are nested in their union. -/
def nesting (p : ClassPart) : Nat := if p.items < 2 then p.depth else p.depth + 1

end ClassPart

/-! ## Classes -/

/-- The operations on two classes. -/
inductive SetOperation where
  | intersection
  | difference
  | symmetricDifference

def SetOperation.apply (s t : CodeSet) : SetOperation → CodeSet
  | .intersection => s.inter t
  | .difference => s.difference t
  | .symmetricDifference => s.symmetricDifference t

/-- A class as far as it has been read, with how deep it is nested. -/
abbrev ClassSoFar := CodeSet × Nat

/-- What is left of an operator with what is right of it. All operators bind alike, and
from the left. -/
def Flags.combine (f : Flags) (part : ClassPart) : Option (SetOperation × ClassSoFar) → ClassSoFar
  | none => (part.set, part.nesting)
  | some (operation, left, depth) =>
    (operation.apply (f.fold left) (f.fold part.set), max depth part.nesting + 1)

/-- The operator that a text starts with, and the rest. -/
def readOperator? : List Char → Option (SetOperation × List Char)
  | '&' :: '&' :: rest => some (.intersection, rest)
  | '-' :: '-' :: rest => some (.difference, rest)
  | '~' :: '~' :: rest => some (.symmetricDifference, rest)
  | _ => none

/-- Reads hyphens that stand for themselves at the start of a class. -/
def readHyphens (f : Flags) : Nat → ClassPart → List Char → Option (ClassPart × List Char)
  | fuel + 1, part, '-' :: cs => readHyphens f fuel (part.add (.single '-') 0) (f.skip cs)
  | _, _, [] => none
  | _, part, cs => some (part, cs)

/-- Reads the start of a class, from behind its opening bracket: whether it is negated, and
the hyphens or the closing bracket that stand for themselves there. -/
def readClassStart (f : Flags) (cs : List Char) : Option (Bool × ClassPart × List Char) := do
  let cs := f.skip cs
  let negated := cs.head? == some '^'
  let cs := if negated then f.skip cs.tail else cs
  match ← readHyphens f cs.length .empty cs with
  | (part, ']' :: rest) =>
    if part.items = 0 then
      let rest := f.skip rest
      if rest.isEmpty then none
      return (negated, part.add (.single ']') 0, rest)
    return (negated, part, ']' :: rest)
  | (part, rest) => return (negated, part, rest)

/-- Reads the items and operators of a class up to its closing bracket. `part` has been read
since the last operator, and `left` stands left of that one. There may be classes inside each
other for as many levels as `room` says. -/
def readClassBody (f : Flags) (room : Nat) : Nat → Option (SetOperation × ClassSoFar) →
    ClassPart → List Char → Option (ClassSoFar × List Char)
  | 0, _, _, _ => none
  | fuel + 1, left, part, cs =>
    match f.skip cs with
    | [] => none
    | ']' :: rest => some (f.combine part left, rest)
    | '[' :: more =>
      match readNamedClass more with
      | some (negated, s, rest) => do
        let s ← f.accept? (f.close negated s)
        readClassBody f room fuel left (part.add s 0) rest
      | none => do
        if room = 0 then none
        let (negated, start, rest) ← readClassStart f more
        let ((s, depth), rest) ← readClassBody f (room - 1) fuel none start rest
        let s ← f.accept? (f.close negated s)
        readClassBody f room fuel left (part.add s (depth + 1)) rest
    | cs =>
      match readOperator? cs with
      | some (operation, rest) =>
        readClassBody f room fuel (some (operation, f.combine part left)) .empty rest
      | none => do
        let (s, rest) ← readClassItem f cs
        readClassBody f room fuel left (part.add s 0) rest

/-- Reads a class from behind its opening bracket, and how deep it is nested. A class that no
character is in is malformed. -/
def readClass (f : Flags) (cs : List Char) : Option (CodeSet × Nat × List Char) := do
  let (negated, start, rest) ← readClassStart f cs
  let ((s, depth), rest) ← readClassBody f nestLimit (cs.length + 1) none start rest
  let s ← f.accept? (f.close negated s)
  if s.isEmpty then none else return (s, depth + 1, rest)

end Peg.Regex
