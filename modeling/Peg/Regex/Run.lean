-- Running a program over a text, with the whole truth about every place.
import Peg.Regex.Ways

namespace Peg.Regex

open Text

def isWord (c : Option Char) : Bool := c.any wordCharacters.has

def isAsciiWord (c : Option Char) : Bool := c.any fun c => c.isAlphanum || c == '_'

/-- Whether a condition holds between the byte `behind`, which there is unless the text starts
here, and the byte `ahead`. Inside of a character there are no characters on the two sides. -/
def Assertion.holds (behind ahead : Option Octet) (condition : Assertion) : Bool :=
  let last := behind.bind Octet.closes
  let next := ahead.bind Octet.opens
  match condition with
  | .textStart => behind.isNone
  | .textEnd => ahead.isNone
  | .lineStart => behind.all Octet.isNewline
  | .lineEnd => ahead.all Octet.isNewline
  | .wordBoundary => isWord last != isWord next
  | .noWordBoundary => isWord last == isWord next
  | .asciiWordBoundary =>
    behind.isSome == last.isSome && ahead.isSome == next.isSome &&
      isAsciiWord last != isAsciiWord next

namespace Program

/-- A run that goes on: the byte that has been read last, the ways behind it, the number of
bytes that have been read, and where the best way so far has accepted. -/
structure Progress where
  behind : Option Octet
  todo : List Way
  count : Nat
  best : Option Nat

/-- Where the best way has accepted when the byte `ahead` comes up, and the ways that wait for
that byte. -/
def await (p : Program) (r : Progress) (ahead : Option Octet) : Option Nat × List Way :=
  let ways := p.settle (Assertion.holds r.behind ahead) r.todo
  (if ways.any p.accepts then some r.count else r.best, p.better ways)

/-- Reads one more byte, unless no way is left with it. -/
def advance (p : Program) (r : Progress) (o : Octet) : Except (Option Nat) Progress :=
  let (best, ways) := p.await r (some o)
  let todo := p.read (some o) ways
  if todo.isEmpty then .error best else .ok ⟨some o, todo, r.count + 1, best⟩

/-- Where the best match of a program ends in a text, in bytes. -/
def run (p : Program) (text : List Char) : Option Nat :=
  let start : Progress := ⟨none, [.before 0], 0, none⟩
  match text.foldlM (fun r c => (Octet.ofChar c).foldlM p.advance r) start with
  | .error best => best
  | .ok r => (p.await r none).1

end Program

end Peg.Regex
