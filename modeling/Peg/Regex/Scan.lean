-- Scanning: running a program over bytes with one byte of delay. A condition on a place is tried
-- when the byte in front of it has been read, and tried again with the byte behind it; what each
-- trial knows is less than the whole truth about the place.
import Peg.Regex.Ways

namespace Peg.Regex

open Text

/-! ## What is known of a place -/

def isWordOctet (o : Option Octet) : Bool := o.any Octet.isWord

/-- What holds where a scan begins, between the byte `behind` and the byte `ahead`. -/
def holdsAtStart (behind ahead : Option Octet) : Assertion → Bool
  | .textStart => behind.isNone
  | .lineStart => behind.all Octet.isNewline
  | .textEnd | .lineEnd => behind.isNone && ahead.isNone
  | .wordBoundary | .asciiWordBoundary => isWordOctet behind != isWordOctet ahead
  | .noWordBoundary => isWordOctet behind == isWordOctet ahead

/-- What is known to hold in front of the byte `ahead` when that byte comes up. -/
def holdsBefore (afterWord : Bool) (ahead : Option Octet) : Assertion → Bool
  | .textStart | .lineStart => false
  | .textEnd => ahead.isNone
  | .lineEnd => ahead.all Octet.isNewline
  | .wordBoundary | .asciiWordBoundary => afterWord != isWordOctet ahead
  | .noWordBoundary => afterWord == isWordOctet ahead

/-- What is known to hold behind the byte `behind` before the next one comes up. -/
def holdsAfter (behind : Option Octet) : Assertion → Bool
  | .lineStart => behind.any Octet.isNewline
  | _ => false

/-! ## Scanning -/

/-- A program to scan with. -/
structure Scanner where
  program : Program
  /-- The longest match is looked for, and not the best one. -/
  longest : Bool
  /-- The program asks for bounds of words, so that only bytes of ASCII can be read. -/
  asciiOnly : Bool

namespace Scanner

def ofRegex (r : Regex) (longest : Bool) : Scanner :=
  let program := Program.ofRegex r
  ⟨program, longest, program.asksForWords⟩

/-- Where a scan is: its ways, and whether the last byte belongs to a word. -/
structure Front where
  ways : List Way
  afterWord : Bool

/-- The ways that count: when the best match is looked for, those up to the first that
accepts. -/
def keep (s : Scanner) (ways : List Way) : List Way :=
  let better := s.program.better ways
  if s.longest then ways else better ++ (ways.drop better.length).take 1

/-- The ways at the start of a scan. -/
def start (s : Scanner) (behind ahead : Option Octet) : Front :=
  ⟨s.keep (s.program.settle (holdsAtStart behind ahead) [.before 0]), isWordOctet behind⟩

/-- Reads the next byte, or the end of the text. It also tells whether a match ends in front of
that byte. -/
def step (s : Scanner) (front : Front) (next : Option Octet) : Bool × Front :=
  let p := s.program
  let ways :=
    if front.ways.any p.checks then p.settle (holdsBefore front.afterWord next) front.ways
    else front.ways
  let reading := if s.longest then ways else p.better ways
  let after := p.settle (holdsAfter next) (p.read next reading)
  (ways.any p.accepts, ⟨s.keep after, isWordOctet next⟩)

/-- What a scan finds. -/
inductive Result where
  /-- A match that takes so many bytes. -/
  | found (count : Nat)
  /-- No match. So many bytes had been read when this was known. -/
  | missed (count : Nat)
  /-- Nothing can be said: bounds of words are asked for, and a byte came up that is not
  ASCII. -/
  | unknown

/-- A scan that goes on: what it has got to, the number of bytes that it has read, and the
match so far. -/
structure Progress where
  front : Front
  count : Nat
  best : Option Nat

/-- What a scan has found that comes to its end after `count` bytes. -/
def Progress.result (p : Progress) (count : Nat) : Result :=
  match p.best with
  | some best => .found best
  | none => .missed count

/-- Reads one more byte, unless the scan comes to its end with it. -/
def advance (s : Scanner) (p : Progress) (o : Octet) : Except Result Progress :=
  if s.asciiOnly && !o.isAscii then .error .unknown
  else
    let (found, front) := s.step p.front (some o)
    let p : Progress := ⟨front, p.count + 1, if found then some p.count else p.best⟩
    if front.ways.isEmpty && !found then .error (p.result p.count) else .ok p

/-- Comes to the end of the text. -/
def finish (s : Scanner) (p : Progress) : Result :=
  if (s.step p.front none).1 then .found p.count else p.result p.count

/-- Begins between the bytes `behind` and `ahead`, goes on as `read` does, and finishes. -/
def scanWith (s : Scanner) (behind ahead : Option Octet)
    (read : Progress → Except Result Progress) : Result :=
  let front := s.start behind ahead
  if front.ways.isEmpty then .missed 0
  else
    match read ⟨front, 0, none⟩ with
    | .error result => result
    | .ok p => s.finish p

/-- Scans some bytes, behind the byte `behind` if the text does not begin there. -/
def scan (s : Scanner) (behind : Option Octet) (octets : List Octet) : Result :=
  s.scanWith behind octets.head? fun p => octets.foldlM s.advance p

/-- Scans a text from its start. -/
def scanText (s : Scanner) (text : List Char) : Result :=
  s.scanWith none (Octet.ofText (text.take 1)).head? fun p =>
    text.foldlM (fun p c => (Octet.ofChar c).foldlM s.advance p) p

end Scanner

end Peg.Regex
